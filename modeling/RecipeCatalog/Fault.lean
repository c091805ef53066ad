import RecipeCatalog.Text.Quoted

/-!
# Faults

A fault is an error that stops an operation outright, as opposed to a failure that an operation
returns as its answer. Each has a cause and one message text.

Main definitions: `Fault`, `Fault.message`.
-/

namespace RecipeCatalog

/-- Why a calendar date does not exist. -/
inductive DateRange where
  | year (y : Int)
  | month
  | day
  deriving DecidableEq, Repr

/-- An error that stops an operation. -/
inductive Fault where
  /-- an integer is too large for a double -/
  | floatOverflow
  /-- a required key is missing from a mapping -/
  | missingKey (key : String)
  /-- a text is no ISO calendar date -/
  | badIsoDate (text : Text)
  /-- a date read from text does not exist -/
  | dateRange (why : DateRange)
  /-- a value that is no date was asked for its ISO form -/
  | notADate (kind : String)
  /-- a value that is no sequence was listed -/
  | notIterable (kind : String)
  /-- a text that is no decimal integer was read as one -/
  | notInteger (text : Text)
  /-- an integer literal has more digits than may be converted -/
  | tooManyDigits (count : Nat)
  /-- text with lone surrogates was to be written as UTF-8: where the first run of them starts
  and ends, and the first of them -/
  | unencodable (first : Surrogate) (start stop : Nat)
  deriving DecidableEq, Repr

namespace Fault

/-- The message of a fault. -/
def message : Fault → String
  | floatOverflow => "int too large to convert to float"
  | missingKey key => Text.quoted (Text.ofString key)
  | badIsoDate text => "Invalid isoformat string: " ++ Text.quoted text
  | dateRange (.year y) => "year " ++ toString y ++ " is out of range"
  | dateRange .month => "month must be in 1..12"
  | dateRange .day => "day is out of range for month"
  | notADate kind => "'" ++ kind ++ "' object has no attribute 'isoformat'"
  | notIterable kind => "'" ++ kind ++ "' object is not iterable"
  | notInteger text => "invalid literal for int() with base 10: " ++ Text.quoted text
  | tooManyDigits count =>
    "Exceeds the limit (4300 digits) for integer string conversion: value has " ++
      toString count ++ " digits; use sys.set_int_max_str_digits() to increase the limit"
  | unencodable first start stop =>
    if stop = start then
      "'utf-8' codec can't encode character '\\u" ++ Text.hexPadded 4 first.val ++
        "' in position " ++ toString start ++ ": surrogates not allowed"
    else
      "'utf-8' codec can't encode characters in position " ++ toString start ++ "-" ++
        toString stop ++ ": surrogates not allowed"

end Fault

namespace Text

/-- The UTF-8 bytes of text, or the fault of its first run of lone surrogates. -/
def utf8? (t : Text) : Except Fault String :=
  match t.toString? with
  | some s => .ok s
  | none =>
    let rec runEnd (i : Nat) : List Point → Nat
      | .lone _ :: rest => runEnd (i + 1) rest
      | _ => i
    match t.firstLone? with
    | some (i, s) => .error (.unencodable s i (runEnd i (t.points.drop i) - 1))
    | none => .ok ""

end Text

end RecipeCatalog
