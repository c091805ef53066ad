/-!
# Recipe ids

New recipes get ids drawn in sequence: the `n`-th id drawn is `ffffffff-0000-4000-8000-`
followed by `n` in twelve lowercase hexadecimal digits. Such an id has the shape of a UUID of
version 4, and no two draws give the same id.

Main definition: `Ids.drawn`.
-/

namespace RecipeCatalog

namespace Ids

/-- The lowercase hexadecimal digits of a number, padded with zeros to a width. -/
def hexDigits (width n : Nat) : String :=
  let digits := Nat.toDigits 16 n
  String.ofList (List.replicate (width - digits.length) '0' ++ digits)

/-- The `n`-th id drawn. -/
def drawn (n : Nat) : String := "ffffffff-0000-4000-8000-" ++ hexDigits 12 n

end Ids

end RecipeCatalog
