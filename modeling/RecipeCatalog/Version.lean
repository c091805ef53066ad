import RecipeCatalog.Fault

/-!
# Version tokens

A client names the version it last saw by a token. The token carries a version when, after
leading ASCII blanks (space, tab, line feed, carriage return, form feed, vertical tab), it
continues with an optional sign and at least one ASCII digit; the rest of the token is ignored.
Negative versions are read as they are.

Main definition: `Version.read`.
-/

namespace RecipeCatalog

namespace Version

/-- The ASCII blanks a token may start with. -/
def isBlank : Point → Bool
  | .char c => c == ' ' || c == '\t' || c == '\n' || c == '\r' || c == '\x0c' || c == '\x0b'
  | .lone _ => false

/-- Whether a point is an ASCII digit. -/
def isDigit : Point → Bool
  | .char c => c.isDigit
  | .lone _ => false

/-- The number of a run of ASCII digits. -/
def digitsValue (ds : List Point) : Nat :=
  ds.foldl (fun acc p => acc * 10 + (p.code - '0'.toNat)) 0

/-- The version a token carries, if any; a fault when its digits are too many to convert. -/
def read (token : Text) : Except Fault (Option Int) :=
  let rest := token.points.dropWhile isBlank
  let (neg, rest) := match rest with
    | .char '-' :: r => (true, r)
    | .char '+' :: r => (false, r)
    | _ => (false, rest)
  let ds := rest.takeWhile isDigit
  if ds.isEmpty then .ok none
  else if ds.length > 4300 then .error (.tooManyDigits ds.length)
  else
    let n := (digitsValue ds : Int)
    .ok (some (if neg then -n else n))

end Version

end RecipeCatalog
