import RecipeCatalog.Recipe.Field
import RecipeCatalog.Json.Value
import RecipeCatalog.Calendar.Date
import RecipeCatalog.Decimal.Reading

/-!
# Stored recipes

A stored recipe holds each field in the type the catalogue keeps it in. Stored recipes come from
candidates that passed their check, so each field's value already has its type; numbers are
kept as doubles, and a double read back from storage has lost the sign of a zero.

Main definitions: `Recipe`, `Recipe.ofChecked`, `Recipe.document`, `Column.real`.
-/

namespace RecipeCatalog

/-- A recipe in the catalogue. -/
structure Recipe where
  id : String
  version : Nat
  name : String
  difficulty : Option Int
  category : Option String
  preparer : String
  price : Float
  intensity : Option Float
  available : Option Bool
  date : Option Date
  referenceCode : String
  homepage : Option String
  ingredients : List Text
  extras : List Value

namespace Column

/-- A double as storage gives it back: an integral value is kept as an integer, so a negative
zero comes back as zero. -/
def real (x : Float) : Float := if x == 0.0 then 0.0 else x

end Column

namespace Value

/-- A number as a double; an integer too large for one has none. -/
def toFloat? : Value → Option Float
  | .int n => Double.ofInt? n
  | .float x => some x
  | _ => none

end Value

namespace Recipe

/-- The value of a field of a candidate, none when absent or null. -/
def given? (c : Fields) (f : Field) : Option Value :=
  match c.lookup f.wireName with
  | some .null => none
  | v => v

/-- The text of a string field of a checked candidate. -/
def string (c : Fields) (f : Field) : String := ((given? c f).bind Value.string?).getD ""

/-- An optional string field of a checked candidate. -/
def string? (c : Fields) (f : Field) : Option String := (given? c f).bind Value.string?

/-- An optional number field of a checked candidate, as storage gives it back. -/
def real? (c : Fields) (f : Field) : Option Float :=
  ((given? c f).bind Value.toFloat?).map Column.real

/-- The items of a list field of a checked candidate. -/
def items (c : Fields) (f : Field) : List Value :=
  match given? c f with
  | some (.array vs) => vs
  | _ => []

/-- The recipe a checked candidate describes, under an id and at a version; the reference code
is the empty text when none is given. -/
def ofChecked (c : Fields) (id : String) (version : Nat) : Recipe where
  id := id
  version := version
  name := string c .name
  difficulty := match given? c .difficulty with
    | some (.int n) => some n
    | _ => none
  category := string? c .category
  preparer := string c .preparer
  price := (real? c .price).getD 0.0
  intensity := real? c .intensity
  available := match given? c .available with
    | some (.bool b) => some b
    | _ => none
  date := match given? c .date with
    | some (.str t) =>
      match Date.read t with
      | .ok d => some d
      | .error _ => none
    | _ => none
  referenceCode := string c .referenceCode
  homepage := string? c .homepage
  ingredients := (items c .ingredients).filterMap Value.text?
  extras := items c .extras

/-- An optional value, null when absent. -/
def optional {α : Type} (f : α → Value) : Option α → Value
  | some a => f a
  | none => .null

/-- The document of a stored recipe: its fields under their wire names, in schema order. -/
def document (r : Recipe) : Fields :=
  let values : List Value := [.ofString r.id, .int r.version, .ofString r.name,
    optional .int r.difficulty, optional .ofString r.category, .ofString r.preparer,
    .float r.price, optional .float r.intensity, optional .bool r.available,
    optional (fun d => .ofString d.iso) r.date, .ofString r.referenceCode,
    optional .ofString r.homepage, .array (r.ingredients.map .str), .array r.extras]
  List.zip (Field.all.map fun f => Text.ofString f.wireName) values

/-- The recipe with its fields replaced by those of another, keeping its id and reference code
and counting its version up by one. -/
def overwrite (old new : Recipe) : Recipe :=
  { new with id := old.id, referenceCode := old.referenceCode, version := old.version + 1 }

end Recipe

end RecipeCatalog
