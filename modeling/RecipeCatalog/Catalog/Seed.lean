import RecipeCatalog.Catalog.Recipe

/-!
# Sample recipes

The five recipes a catalogue can start with, at version 0, with ids ending in 1 to 5.

Main definition: `Seed.recipes`.
-/

namespace RecipeCatalog

namespace Seed

/-- Extras naming people of one family. -/
def family (lastName : String) (firstNames : List String) : List Value :=
  firstNames.map fun first => Value.obj [("nachname", .ofString lastName), ("vorname", .ofString first)]

/-- A sample recipe. -/
def sample (n : Nat) (name : String) (difficulty : Int) (category preparer : String)
    (price intensity : Float) (day : Nat) (code homepage : String) (ingredients : List String)
    (firstNames : List String) : Recipe where
  id := "00000000-0000-0000-0000-00000000000" ++ toString n
  version := 0
  name := name
  difficulty := some difficulty
  category := some category
  preparer := preparer
  price := price
  intensity := some intensity
  available := some true
  date := some ⟨2020, 2, day⟩
  referenceCode := code
  homepage := some homepage
  ingredients := ingredients.map Text.ofString
  extras := family name firstNames

/-- The five sample recipes. -/
def recipes : List Recipe :=
  [sample 1 "Alpha" 4 "SNACK" "JOHANN_LAFER" 11.1 0.011 1 "978-3897225831" "https://acme.at/"
     ["JAVASCRIPT"] ["Adriana", "Alfred"],
   sample 2 "Beta" 2 "HAUPTMAHLZEIT" "STEFFEN_HENSSLER" 22.2 0.022 2 "978-3827315526"
     "https://acme.biz/" ["TYPESCRIPT"] ["Brunhilde"],
   sample 3 "Gamma" 1 "SNACK" "JOHANN_LAFER" 33.3 0.033 3 "978-0201633610" "https://acme.com/"
     ["JAVASCRIPT", "TYPESCRIPT"] ["Claus"],
   sample 4 "Delta" 3 "SNACK" "STEFFEN_HENSSLER" 44.4 0.044 4 "978-0387534046" "https://acme.de/"
     [] ["Dieter"],
   sample 5 "Epsilon" 2 "HAUPTMAHLZEIT" "JOHANN_LAFER" 55.5 0.055 5 "978-3824404810"
     "https://acme.es/" ["TYPESCRIPT"] ["Elfriede"]]

end Seed

end RecipeCatalog
