import RecipeCatalog.Json.Value
import RecipeCatalog.Decimal.Reading
import RecipeCatalog.Text.Encoding

/-!
# Reading JSON text

The JSON grammar with the extensions the catalogue's clients may rely on: the literals `NaN`,
`Infinity` and `-Infinity`; integers of any size (up to 4300 digits); decimals rounded to the
nearest double, so that `1e400` is infinite; lone surrogate escapes kept as they are; a repeated
object key keeps its first place and its last value. Blanks are space, tab, line feed and
carriage return; a control character inside a string is refused.

Bytes are first turned into text by their encoding: a byte order mark chooses UTF-8, UTF-16 or
UTF-32, otherwise the zero bytes among the first four do, and UTF-8 is the default; surrogates
pass in every encoding.

Main definitions: `Json.parse`, `Json.parseBytes`.
-/

namespace RecipeCatalog

namespace Json

/-- Why a text is not JSON. -/
inductive ReadError where
  /-- the text breaks the grammar -/
  | malformed
  /-- an integer has more digits than may be converted -/
  | tooManyDigits (count : Nat)
  deriving DecidableEq, Repr

/-- Text being read. -/
abbrev Input := List Point

/-- The most digits an integer literal may have. -/
def maxIntDigits : Nat := 4300

/-- Whether a point is JSON blank. -/
def isBlank : Point → Bool
  | .char c => c == ' ' || c == '\t' || c == '\n' || c == '\r'
  | .lone _ => false

/-- Drops leading blanks. -/
def skipBlank (cs : Input) : Input := cs.dropWhile isBlank

/-- The value of a hexadecimal digit. -/
def hexDigit : Point → Option Nat
  | .char c =>
    if '0' ≤ c ∧ c ≤ '9' then some (c.toNat - '0'.toNat)
    else if 'a' ≤ c ∧ c ≤ 'f' then some (c.toNat - 'a'.toNat + 10)
    else if 'A' ≤ c ∧ c ≤ 'F' then some (c.toNat - 'A'.toNat + 10)
    else none
  | .lone _ => none

/-- The unit of four hexadecimal digits. -/
def hexUnit (a b c d : Point) : Option Nat := do
  let a ← hexDigit a
  let b ← hexDigit b
  let c ← hexDigit c
  let d ← hexDigit d
  pure (((a * 16 + b) * 16 + c) * 16 + d)

/-- The character of a one-letter escape. -/
def simpleEscape : Char → Option Char
  | '"' => some '"'
  | '\\' => some '\\'
  | '/' => some '/'
  | 'b' => some '\x08'
  | 'f' => some '\x0c'
  | 'n' => some '\n'
  | 'r' => some '\r'
  | 't' => some '\t'
  | _ => none

/-- The point of a unit read from an escape. -/
def unitPoint (u : Nat) : Point := (Point.ofCode? u).getD (.char ' ')

/-- Reads the body of a string after its opening quote, collecting points in reverse. A high
surrogate escape followed by a low one makes one code point; otherwise it stays alone. -/
def readString (cs : Input) (acc : List Point) : Except ReadError (Text × Input) :=
  match cs with
  | [] => .error .malformed
  | .char '"' :: rest => .ok (⟨acc.reverse⟩, rest)
  | .char '\\' :: .char 'u' :: a :: b :: c :: d :: rest =>
    match hexUnit a b c d with
    | none => .error .malformed
    | some u =>
      if 0xD800 ≤ u ∧ u < 0xDC00 then
        match _ : rest with
        | .char '\\' :: .char 'u' :: a' :: b' :: c' :: d' :: rest' =>
          match hexUnit a' b' c' d' with
          | none => .error .malformed
          | some v =>
            if 0xDC00 ≤ v ∧ v < 0xE000 then
              readString rest' (.char (Char.ofNat (0x10000 + (u - 0xD800) * 1024 + (v - 0xDC00)))
                :: acc)
            else readString rest (unitPoint u :: acc)
        | _ => readString rest (unitPoint u :: acc)
      else readString rest (unitPoint u :: acc)
  | .char '\\' :: .char e :: rest =>
    match simpleEscape e with
    | some c => readString rest (.char c :: acc)
    | none => .error .malformed
  | .char '\\' :: _ => .error .malformed
  | p :: rest =>
    if p.code < 0x20 then .error .malformed else readString rest (p :: acc)
termination_by cs.length
decreasing_by all_goals (subst_vars; simp; try omega)

/-- Whether a point is an ASCII digit. -/
def isDigit : Point → Bool
  | .char c => c.isDigit
  | .lone _ => false

/-- The number of a run of digits. -/
def digitsValue (ds : List Point) : Nat :=
  ds.foldl (fun acc p => acc * 10 + (p.code - '0'.toNat)) 0

/-- Reads a number: an optional minus, an integer part without leading zeros, an optional
fraction and an optional exponent (given up when it has no digits). -/
def readNumber (cs : Input) : Except ReadError (Value × Input) :=
  let (neg, cs1) := match cs with
    | .char '-' :: rest => (true, rest)
    | _ => (false, cs)
  let (intDigits, cs2) : List Point × Input := match cs1 with
    | .char '0' :: rest => ([.char '0'], rest)
    | p :: rest => if isDigit p then (p :: rest.takeWhile isDigit, rest.dropWhile isDigit)
      else ([], cs1)
    | [] => ([], [])
  if intDigits.isEmpty then .error .malformed
  else
    let (fracDigits, cs3) : List Point × Input := match cs2 with
      | .char '.' :: d :: rest =>
        if isDigit d then (d :: rest.takeWhile isDigit, rest.dropWhile isDigit) else ([], cs2)
      | _ => ([], cs2)
    let expPart : Option (Bool × List Point × Input) := match cs3 with
      | .char e :: rest =>
        if e == 'e' || e == 'E' then
          let (expNeg, rest') := match rest with
            | .char '-' :: r => (true, r)
            | .char '+' :: r => (false, r)
            | _ => (false, rest)
          let ds := rest'.takeWhile isDigit
          if ds.isEmpty then none else some (expNeg, ds, rest'.dropWhile isDigit)
        else none
      | _ => none
    match expPart with
    | none =>
      if fracDigits.isEmpty then
        if intDigits.length > maxIntDigits then .error (.tooManyDigits intDigits.length)
        else
          let n := (digitsValue intDigits : Int)
          .ok (.int (if neg then -n else n), cs3)
      else
        let mant := digitsValue (intDigits ++ fracDigits)
        .ok (.float (Double.ofDecimal neg mant (-(fracDigits.length : Int))), cs3)
    | some (expNeg, expDigits, rest) =>
      let e := (digitsValue expDigits : Int)
      let mant := digitsValue (intDigits ++ fracDigits)
      let exp := (if expNeg then -e else e) - (fracDigits.length : Int)
      .ok (.float (Double.ofDecimal neg mant exp), rest)

/-- Whether the input starts with the given characters; the rest after them. -/
def literal (word : List Char) (cs : Input) : Option Input :=
  match word, cs with
  | [], rest => some rest
  | c :: w, .char d :: rest => if c == d then literal w rest else none
  | _, _ => none

mutual

/-- Reads one value, within `fuel` nested reads. -/
def readValue : Nat → Input → Except ReadError (Value × Input)
  | 0, _ => .error .malformed
  | fuel + 1, cs =>
    match cs with
    | .char '"' :: rest => (readString rest []).map fun (t, r) => (.str t, r)
    | .char '{' :: rest => readMembers fuel (skipBlank rest) []
    | .char '[' :: rest => readItems fuel (skipBlank rest) []
    | _ =>
      match literal ['n', 'u', 'l', 'l'] cs with
      | some r => .ok (.null, r)
      | none =>
      match literal ['t', 'r', 'u', 'e'] cs with
      | some r => .ok (.bool true, r)
      | none =>
      match literal ['f', 'a', 'l', 's', 'e'] cs with
      | some r => .ok (.bool false, r)
      | none =>
      match literal ['N', 'a', 'N'] cs with
      | some r => .ok (.float (0.0 / 0.0), r)
      | none =>
      match literal ['I', 'n', 'f', 'i', 'n', 'i', 't', 'y'] cs with
      | some r => .ok (.float (1.0 / 0.0), r)
      | none =>
      match literal ['-', 'I', 'n', 'f', 'i', 'n', 'i', 't', 'y'] cs with
      | some r => .ok (.float (-1.0 / 0.0), r)
      | none => readNumber cs

/-- Reads the items of an array after its opening bracket and blanks. -/
def readItems : Nat → Input → List Value → Except ReadError (Value × Input)
  | 0, _, _ => .error .malformed
  | fuel + 1, cs, acc =>
    match cs with
    | .char ']' :: rest => if acc.isEmpty then .ok (.array [], rest) else .error .malformed
    | _ =>
      match readValue fuel cs with
      | .error e => .error e
      | .ok (v, rest) =>
        match skipBlank rest with
        | .char ']' :: rest' => .ok (.array (v :: acc).reverse, rest')
        | .char ',' :: rest' =>
          match skipBlank rest' with
          | .char ']' :: _ => .error .malformed
          | more => readItems fuel more (v :: acc)
        | _ => .error .malformed

/-- Reads the members of an object after its opening brace and blanks. -/
def readMembers : Nat → Input → Fields → Except ReadError (Value × Input)
  | 0, _, _ => .error .malformed
  | fuel + 1, cs, acc =>
    match cs with
    | .char '}' :: rest => if acc.isEmpty then .ok (.object [], rest) else .error .malformed
    | .char '"' :: rest =>
      match readString rest [] with
      | .error e => .error e
      | .ok (key, afterKey) =>
        match skipBlank afterKey with
        | .char ':' :: afterColon =>
          match readValue fuel (skipBlank afterColon) with
          | .error e => .error e
          | .ok (v, rest') =>
            let acc' := acc.set key v
            match skipBlank rest' with
            | .char '}' :: rest'' => .ok (.object acc', rest'')
            | .char ',' :: rest'' =>
              match skipBlank rest'' with
              | .char '"' :: _ => readMembers fuel (skipBlank rest'') acc'
              | _ => .error .malformed
            | _ => .error .malformed
        | _ => .error .malformed
    | _ => .error .malformed

end

/-- Reads a whole text as one JSON value between blanks. A leading byte order mark is refused. -/
def parse (cs : Input) : Except ReadError Value :=
  match cs with
  | .char '\uFEFF' :: _ => .error .malformed
  | _ =>
    match readValue (cs.length + 1) (skipBlank cs) with
    | .error e => .error e
    | .ok (v, rest) => if (skipBlank rest).isEmpty then .ok v else .error .malformed

/-- Reads plain text as JSON. -/
def parseString (s : String) : Except ReadError Value := parse (Text.ofString s).points

/-- The encoding of JSON bytes, told by a byte order mark or by the zero bytes at the start. -/
inductive ByteEncoding where
  | utf8
  | utf8Marked
  | utf16 (bigEndian : Bool) (marked : Bool)
  | utf32 (bigEndian : Bool) (marked : Bool)
  deriving DecidableEq, Repr

/-- Tells the encoding of JSON bytes. -/
def detectEncoding (bs : List UInt8) : ByteEncoding :=
  match bs with
  | 0 :: 0 :: 0xFE :: 0xFF :: _ => .utf32 true true
  | 0xFF :: 0xFE :: 0 :: 0 :: _ => .utf32 false true
  | 0xFE :: 0xFF :: _ => .utf16 true true
  | 0xFF :: 0xFE :: _ => .utf16 false true
  | 0xEF :: 0xBB :: 0xBF :: _ => .utf8Marked
  | b0 :: b1 :: b2 :: b3 :: _ =>
    if b0 == 0 then (if b1 != 0 then .utf16 true false else .utf32 true false)
    else if b1 == 0 then (if b2 != 0 || b3 != 0 then .utf16 false false else .utf32 false false)
    else .utf8
  | [b0, b1] =>
    if b0 == 0 then .utf16 true false
    else if b1 == 0 then .utf16 false false
    else .utf8
  | _ => .utf8

/-- Turns JSON bytes into text by their encoding; a byte order mark is dropped. -/
def decodeBytes (bs : List UInt8) : Option Text :=
  match detectEncoding bs with
  | .utf8 => Utf8.decodePassing? bs
  | .utf8Marked => Utf8.decodePassing? (bs.drop 3)
  | .utf16 be marked => Utf16.decode? be (if marked then bs.drop 2 else bs)
  | .utf32 be marked => Utf32.decode? be (if marked then bs.drop 4 else bs)

/-- Reads JSON bytes: their text first, then the value. -/
def parseBytes (bs : List UInt8) : Except ReadError Value :=
  match decodeBytes bs with
  | none => .error .malformed
  | some t => parse t.points

end Json

end RecipeCatalog
