/-!
# Shortest decimal digits of a double

A finite double is `m · 2^q`. The reals that round to it form an interval around it, whose ends
belong to it exactly when `m` is even (ties round to the even neighbour). The shortest decimal
form is found grid by grid: for `k = 1, 2, …, 17` significant digits, the two points of the
decimal grid that enclose the value are tested against the interval, in exact `Nat`
arithmetic; the first grid with a hit wins, and of two hits the nearer one, a tie going to the
even digit string.

Main definitions: `Double.decode` (the parts of a double), `Shortest.digits` (the digits and the
exponent of the shortest form).
-/

namespace RecipeCatalog

/-- The parts of a double: not a number, an infinity, or a signed finite `m · 2^q`. -/
inductive Double where
  | nan
  | inf (neg : Bool)
  | finite (neg : Bool) (m : Nat) (q : Int)
  deriving DecidableEq, Repr

namespace Double

/-- Splits the bits of a float into sign, exponent and significand. -/
def decode (x : Float) : Double :=
  let bits := x.toBits.toNat
  let neg := bits / Nat.pow 2 63 % 2 == 1
  let e : Nat := bits / Nat.pow 2 52 % Nat.pow 2 11
  let f := bits % Nat.pow 2 52
  if e == 2047 then
    if f == 0 then inf neg else nan
  else if e == 0 then finite neg f (-1074)
  else finite neg (f + Nat.pow 2 52) ((e : Int) - 1075)

end Double

namespace Shortest

/-- Compares `a · 2^i · 10^j` with `b · 2^k · 10^l`, all exactly. -/
def compareScaled (a : Nat) (i j : Int) (b : Nat) (k l : Int) : Ordering :=
  let i' := i - min i k
  let k' := k - min i k
  let j' := j - min j l
  let l' := l - min j l
  compare (a * Nat.pow 2 i'.toNat * Nat.pow 10 j'.toNat) (b * Nat.pow 2 k'.toNat * Nat.pow 10 l'.toNat)

/-- The number of decimal digits of a positive number. -/
def digitCount (n : Nat) : Nat := (Nat.toDigits 10 n).length

/-- The decimal exponent `E` with `10^E ≤ m · 2^q < 10^(E+1)`, for `m > 0`. -/
def decimalExponent (m : Nat) (q : Int) : Int :=
  if 0 ≤ q then (digitCount (m * Nat.pow 2 q.toNat) : Int) - 1
  else
    let d := Nat.pow 2 (-q).toNat
    if d ≤ m then (digitCount (m / d) : Int) - 1
    else - (firstScale m d 1 400 : Int)
where
  /-- The least `t ≥ start` with `m · 10^t ≥ d`, searched within `fuel` steps. -/
  firstScale (m d t : Nat) : Nat → Nat
    | 0 => t
    | fuel + 1 => if d ≤ m * Nat.pow 10 t then t else firstScale m d (t + 1) fuel

/-- `⌊m · 2^q / 10^s⌋`. -/
def gridFloor (m : Nat) (q s : Int) : Nat :=
  let num := m * Nat.pow 2 (max q 0).toNat * Nat.pow 10 (max (-s) 0).toNat
  let den := Nat.pow 2 (max (-q) 0).toNat * Nat.pow 10 (max s 0).toNat
  num / den

/-- Whether `n · 10^s` lies in the rounding interval of `m · 2^q`. Its ends are
`(2m ∓ 1) · 2^(q-1)`, the lower one at a quarter step when `m` is a power of two above the
subnormal range; they belong to it when `m` is even. -/
def inInterval (m : Nat) (q : Int) (n : Nat) (s : Int) : Bool :=
  let tightBelow := m == Nat.pow 2 52 && q > -1074
  let lowOrd :=
    if tightBelow then compareScaled n 0 s (4 * m - 1) (q - 2) 0
    else compareScaled n 0 s (2 * m - 1) (q - 1) 0
  let highOrd := compareScaled n 0 s (2 * m + 1) (q - 1) 0
  let inclusive := m % 2 == 0
  let aboveLow := lowOrd == .gt || (inclusive && lowOrd == .eq)
  let belowHigh := highOrd == .lt || (inclusive && highOrd == .eq)
  aboveLow && belowHigh

/-- Of two grid points `n · 10^s` and `(n+1) · 10^s` around `m · 2^q`, the nearer one; an exact
tie goes to the even one. -/
def nearer (m : Nat) (q : Int) (n : Nat) (s : Int) : Nat :=
  -- distance below: v - n·10^s, above: (n+1)·10^s - v; compare 2v with (2n+1)·10^s
  match compareScaled (2 * m) q 0 (2 * n + 1) 0 s with
  | .lt => n
  | .gt => n + 1
  | .eq => if n % 2 == 0 then n else n + 1

/-- The shortest digits `n` and exponent `s` with `n · 10^s` reading back as `m · 2^q`, for
`m > 0`; trailing zeros of `n` are moved into `s`. -/
def digits (m : Nat) (q : Int) : Nat × Int :=
  let e := decimalExponent m q
  search e 1 17
where
  /-- Tries `k` significant digits, then more, within `fuel` grids. -/
  search (e : Int) (k : Nat) : Nat → Nat × Int
    | 0 => trim (gridFloor m q (e - 16)) (e - 16) 20
    | fuel + 1 =>
      let s := e - k + 1
      let n := gridFloor m q s
      let lowHit := n != 0 && inInterval m q n s
      let highHit := inInterval m q (n + 1) s
      if lowHit && highHit then trim (nearer m q n s) s 20
      else if lowHit then trim n s 20
      else if highHit then trim (n + 1) s 20
      else search e (k + 1) fuel
  /-- Moves trailing zeros of `n` into the exponent. -/
  trim (n : Nat) (s : Int) : Nat → Nat × Int
    | 0 => (n, s)
    | fuel + 1 => if n != 0 && n % 10 == 0 then trim (n / 10) (s + 1) fuel else (n, s)

end Shortest

end RecipeCatalog
