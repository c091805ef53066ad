import RecipeCatalog.Decimal.Shortest

/-!
# Writing the shortest digits of a double

`Shortest.digits` gives digits `n` and an exponent `s` with `n · 10^s` the shortest decimal
that reads back. A `Notation` says how they are laid out: which decimal exponents are written
positionally, whether an integral value keeps a `.0`, and how an exponent is marked.

Main definition: `Notation.render`.
-/

namespace RecipeCatalog

/-- How a double is written. -/
structure Notation where
  /-- values whose decimal exponent is below this are written with an exponent -/
  sciBelow : Int
  /-- values whose decimal exponent is at least this are written with an exponent -/
  sciFrom : Int
  /-- an integral value written positionally ends in `.0` -/
  pointZero : Bool
  /-- the letter before an exponent -/
  expMark : String
  /-- a non-negative exponent has a plus sign -/
  expPlus : Bool
  /-- the fewest digits of an exponent -/
  expMinDigits : Nat
  nanText : String
  infText : String

namespace Notation

/-- Pads with leading zeros to a width. -/
def padLeft (width : Nat) (s : String) : String :=
  String.ofList (List.replicate (width - s.length) '0') ++ s

/-- The text of a double. -/
def render (nt : Notation) (x : Float) : String :=
  match Double.decode x with
  | .nan => nt.nanText
  | .inf neg => (if neg then "-" else "") ++ nt.infText
  | .finite neg m q =>
    let sign := if neg then "-" else ""
    if m = 0 then sign ++ (if nt.pointZero then "0.0" else "0")
    else
      let (n, s) := Shortest.digits m q
      let ds := toString n
      let width : Int := ds.length
      let point := s + width
      let e := point - 1
      if e < nt.sciBelow ∨ e ≥ nt.sciFrom then
        let mant := if ds.length = 1 then ds
          else String.ofList (ds.toList.take 1) ++ "." ++ String.ofList (ds.toList.drop 1)
        let expSign := if e < 0 then "-" else if nt.expPlus then "+" else ""
        sign ++ mant ++ nt.expMark ++ expSign ++ padLeft nt.expMinDigits (toString e.natAbs)
      else if point ≤ 0 then
        sign ++ "0." ++ String.ofList (List.replicate (-point).toNat '0') ++ ds
      else if point ≥ width then
        sign ++ ds ++ String.ofList (List.replicate (point - width).toNat '0') ++
          (if nt.pointZero then ".0" else "")
      else
        sign ++ String.ofList (ds.toList.take point.toNat) ++ "." ++
          String.ofList (ds.toList.drop point.toNat)

end Notation

end RecipeCatalog
