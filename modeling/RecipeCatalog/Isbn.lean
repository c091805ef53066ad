import RecipeCatalog.Fault

/-!
# ISBN reference codes

A reference code is an ISBN-10 or an ISBN-13 whose check digit is right. Hyphens and spaces
may stand anywhere and are dropped first; what is left is the significant part.

* ISBN-10: nine ASCII digits and a final digit or `X`/`x` (worth 10); the sum of the digits
  weighted 10, 9, …, 1 is divisible by 11.
* ISBN-13: thirteen ASCII digits; the sum of the digits weighted 1, 3, 1, 3, … is divisible
  by 10.

The end of the significant part may also be followed by one line feed, which an ISBN-10 ignores;
an ISBN-13 reads it as a digit and fails with a fault.

Main definitions: `Isbn.significant`, `Isbn.check`.
-/

namespace RecipeCatalog

namespace Isbn

/-- The code without hyphens and spaces. -/
def significant (code : Text) : List Point :=
  code.points.filter fun p => p != .char '-' && p != .char ' '

/-- The ASCII digit value of a point. -/
def digit? : Point → Option Nat
  | .char c => if c.isDigit then some (c.toNat - '0'.toNat) else none
  | .lone _ => none

/-- Whether a point is an ASCII digit. -/
def isDigit (p : Point) : Bool := (digit? p).isSome

/-- The value of the last place of an ISBN-10: a digit, or `X`/`x` for 10. -/
def lastValue? : Point → Option Nat
  | .char 'X' => some 10
  | .char 'x' => some 10
  | p => digit? p

/-- The weighted sum of an ISBN-10 over its nine digits and last place. -/
def sum10 (ds : List Nat) (last : Nat) : Nat :=
  ds.zipIdx.foldr (fun (d, i) acc => (10 - i) * d + acc) 0 + last

/-- The weighted sum of an ISBN-13. -/
def sum13 (ds : List Nat) : Nat :=
  ds.zipIdx.foldr (fun (d, i) acc => (if i % 2 == 1 then 3 * d else d) + acc) 0

/-- Whether points, possibly followed by one line feed, have the given form. -/
def withLineEnd (ps : List Point) (n : Nat) (form : List Point → Bool) : Bool :=
  (ps.length == n && form ps) ||
    (ps.length == n + 1 && ps.getLast? == some (.char '\n') && form (ps.take n))

/-- Whether ten points have the ISBN-10 form. -/
def form10 (ps : List Point) : Bool :=
  ps.length == 10 && (ps.take 9).all isDigit && ((ps.drop 9).all fun p => (lastValue? p).isSome)

/-- Whether thirteen points are all digits. -/
def form13 (ps : List Point) : Bool := ps.length == 13 && ps.all isDigit

/-- Whether a code is an ISBN with a right check digit. -/
def check (code : Text) : Except Fault Bool :=
  let ps := significant code
  if withLineEnd ps 10 form10 then
    let ds := (ps.take 9).filterMap digit?
    let last := ((ps.drop 9).head?.bind lastValue?).getD 0
    .ok (sum10 ds last % 11 == 0)
  else if withLineEnd ps 13 form13 then
    if ps.length == 13 then .ok (sum13 (ps.filterMap digit?) % 10 == 0)
    else .error (.notInteger (Text.ofString "\n"))
  else .ok false

end Isbn

end RecipeCatalog
