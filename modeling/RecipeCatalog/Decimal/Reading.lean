import RecipeCatalog.Decimal.Shortest

/-!
# Reading a decimal into a double

`digits · 10^exp` is rounded to the nearest double, a tie going to the even significand, in
exact `Nat` arithmetic: the quotient that gives the 53-bit significand is rounded once, with the
subnormal range and overflow to infinity handled at the same step. Integers convert the same
way, which is how an integer price becomes a float.

Main definitions: `Double.ofRatio`, `Double.ofDecimal`, `Double.ofInt?` (an integer whose
nearest double would be infinite has none).
-/

namespace RecipeCatalog

namespace Double

/-- The float with the given sign, significand and binary exponent, for a significand below
`2^53` that is either normal (at least `2^52`) or subnormal (exponent `-1074`). -/
def assemble (neg : Bool) (m : Nat) (q : Int) : Float :=
  let sign : Nat := if neg then Nat.pow 2 63 else 0
  if m < Nat.pow 2 52 then Float.ofBits (UInt64.ofNat (sign + m))
  else
    let biased := q + 1075
    if biased ≥ 2047 then Float.ofBits (UInt64.ofNat (sign + 2047 * Nat.pow 2 52))
    else Float.ofBits (UInt64.ofNat (sign + biased.toNat * Nat.pow 2 52 + (m - Nat.pow 2 52)))

/-- `num / den` rounded to the nearest integer, a tie going to the even one. -/
def roundHalfEven (num den : Nat) : Nat :=
  let q := num / den
  let r := num % den
  if 2 * r > den then q + 1
  else if 2 * r < den then q
  else if q % 2 == 0 then q else q + 1

/-- `⌊log2 (num / den)⌋` for positive `num` and `den`. -/
def floorLog2 (num den : Nat) : Int :=
  let e : Int := (num.log2 : Int) - (den.log2 : Int)
  -- `e` is the floor or one above it
  if e ≥ 0 then (if num ≥ den * Nat.pow 2 e.toNat then e else e - 1)
  else (if num * Nat.pow 2 (-e).toNat ≥ den then e else e - 1)

/-- The double nearest to `num / den`, with a sign; zero when `num` is zero. -/
def ofRatio (neg : Bool) (num den : Nat) : Float :=
  if num = 0 ∨ den = 0 then assemble neg 0 0
  else
    let q : Int := max (floorLog2 num den - 52) (-1074)
    let m :=
      if q ≥ 0 then roundHalfEven num (den * Nat.pow 2 q.toNat)
      else roundHalfEven (num * Nat.pow 2 (-q).toNat) den
    if m = Nat.pow 2 53 then assemble neg (Nat.pow 2 52) (q + 1) else assemble neg m q

/-- The double nearest to `digits · 10^exp`, with a sign. Exponents far outside the range of
doubles give infinity or zero at once. -/
def ofDecimal (neg : Bool) (digits : Nat) (exp : Int) : Float :=
  let width : Int := (Shortest.digitCount digits : Int)
  if digits = 0 then assemble neg 0 0
  else if width + exp > 310 then assemble neg (Nat.pow 2 52) 1024
  else if width + exp < -330 then assemble neg 0 0
  else if exp ≥ 0 then ofRatio neg (digits * Nat.pow 10 exp.toNat) 1
  else ofRatio neg digits (Nat.pow 10 (-exp).toNat)

/-- The least magnitude of an integer whose nearest double is infinite: `(2^54 - 1) · 2^970`,
halfway between the largest double `(2^53 - 1) · 2^971` and `2^1024`. It is irreducible: a
statement about integers in general never needs its 309 digits worked out. -/
@[irreducible] def overflowBound : Nat := (Nat.pow 2 54 - 1) * Nat.pow 2 970

/-- The double nearest to an integer; none when that would be infinite, that is from
`overflowBound` on. -/
def ofInt? (n : Int) : Option Float :=
  if n.natAbs ≥ overflowBound then none
  else some (ofRatio (n < 0) n.natAbs 1)

end Double

end RecipeCatalog
