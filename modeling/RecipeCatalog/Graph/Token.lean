import RecipeCatalog.Text.Point

/-!
# GraphQL tokens

A GraphQL document is read as a sequence of tokens: punctuators, names, integer and float
numbers, strings and block strings. Blanks, commas, byte order marks, line breaks and comments
separate tokens and are not tokens themselves. A character that no token can begin with, a
malformed number, an unterminated string or an invalid escape is a syntax error at its offset.

An error is reported at a line and a column: the lines of the text before the offset, split at
every line boundary and without a final empty line, give the line count and the length of the
last of them.

Main definitions: `Graph.Kind`, `Graph.Token`, `Graph.lex`, `Graph.locate`.
-/

namespace RecipeCatalog

namespace Graph

/-- A place in a document: line and column, both counted from 1. -/
structure Pos where
  line : Nat
  column : Nat
  deriving DecidableEq, Repr

/-- A step of a path into a response: a field's response key or a list index. -/
inductive PathKey where
  | key (name : String)
  | index (i : Nat)
  deriving DecidableEq, Repr

/-- An error of a GraphQL request: a message, the places it concerns, and where in the
response it arose. -/
structure Error where
  message : String
  locations : List Pos
  path : List PathKey
  deriving DecidableEq, Repr

/-- The message a fault is reported with: something went wrong that is not a refusal by the
schema or the rules, and what it was stays hidden. -/
def faultMessage : String := "Unexpected error."

/-- Whether a code point ends a line. -/
def isLineBreak (c : Nat) : Bool :=
  c == 10 || c == 13 || c == 11 || c == 12 || (0x1C ≤ c && c ≤ 0x1E) || c == 0x85 ||
  c == 0x2028 || c == 0x2029

/-- The lines of a text: a carriage return and line feed end one line, and a final line break
starts no new line. -/
def lines (cs : List Nat) : List (List Nat) :=
  let rec go (cur : List Nat) : List Nat → List (List Nat)
    | [] => if cur.isEmpty then [] else [cur.reverse]
    | 13 :: 10 :: rest => cur.reverse :: go [] rest
    | c :: rest => if isLineBreak c then cur.reverse :: go [] rest else go (c :: cur) rest
  go [] cs

/-- The line and column of an offset in a body. -/
def locate (body : Array Nat) (offset : Nat) : Pos :=
  match (lines (body.toList.take offset)).reverse with
  | [] => ⟨1, 1⟩
  | last :: before => ⟨before.length + 1, last.length + 1⟩

/-- A syntax error at an offset. -/
def syntaxError (body : Array Nat) (offset : Nat) (description : String) : Error :=
  ⟨"Syntax Error: " ++ description, [locate body offset], []⟩

/-- The kinds of tokens. -/
inductive Kind where
  | sof | eof | bang | dollar | amp | parenL | parenR | spread | colon | equals | atSign
  | bracketL | bracketR | braceL | pipe | braceR | name | int | float | string | blockString
  deriving DecidableEq, Repr

namespace Kind

/-- How a kind is named in messages: punctuators in quotes. -/
def describe : Kind → String
  | sof => "<SOF>"
  | eof => "<EOF>"
  | bang => "'!'"
  | dollar => "'$'"
  | amp => "'&'"
  | parenL => "'('"
  | parenR => "')'"
  | spread => "'...'"
  | colon => "':'"
  | equals => "'='"
  | atSign => "'@'"
  | bracketL => "'['"
  | bracketR => "']'"
  | braceL => "'\x7b'"
  | pipe => "'|'"
  | braceR => "'\x7d'"
  | name => "Name"
  | int => "Int"
  | float => "Float"
  | string => "String"
  | blockString => "BlockString"

/-- The punctuator a character stands for. -/
def ofPunctuator (c : Nat) : Option Kind :=
  if c == 33 then some bang else if c == 36 then some dollar else if c == 38 then some amp
  else if c == 40 then some parenL else if c == 41 then some parenR
  else if c == 58 then some colon else if c == 61 then some equals
  else if c == 64 then some atSign else if c == 91 then some bracketL
  else if c == 93 then some bracketR else if c == 123 then some braceL
  else if c == 124 then some pipe else if c == 125 then some braceR else none

end Kind

/-- A token: its kind, where it starts and ends, and its value (empty for punctuators). -/
structure Token where
  kind : Kind
  start : Nat
  stop : Nat
  value : String
  deriving DecidableEq, Repr

namespace Token

/-- How a token is named in messages. -/
def describe (t : Token) : String :=
  match t.kind with
  | .name | .int | .float | .string | .blockString => t.kind.describe ++ " '" ++ t.value ++ "'"
  | k => k.describe

end Token

/-- Whether a code point is a Unicode scalar value. -/
def isScalar (c : Nat) : Bool := c < 0xD800 || (0xDFFF < c && c < 0x110000)

/-- Whether a code point may begin a name. -/
def isNameStart (c : Nat) : Bool := (65 ≤ c && c ≤ 90) || (97 ≤ c && c ≤ 122) || c == 95

/-- Whether a code point is a decimal digit. -/
def isDigit (c : Nat) : Bool := 48 ≤ c && c ≤ 57

/-- Whether a code point may continue a name. -/
def isNameContinue (c : Nat) : Bool := isNameStart c || isDigit c

/-- The value of a hexadecimal digit, if it is one. -/
def hexValue? (c : Nat) : Option Nat :=
  if isDigit c then some (c - 48)
  else if 65 ≤ c && c ≤ 70 then some (c - 55)
  else if 97 ≤ c && c ≤ 102 then some (c - 87)
  else none

/-- Four hexadecimal digits padded, in uppercase. -/
def hexUpper (n : Nat) : String :=
  let ds := Nat.toDigits 16 n |>.map Char.toUpper
  String.ofList (List.replicate (4 - ds.length) '0' ++ ds)

/-- The code point at an offset, or none past the end. -/
def at? (body : Array Nat) (i : Nat) : Option Nat := body[i]?

/-- How the character at an offset is named in messages. -/
def printAt (body : Array Nat) (i : Nat) : String :=
  match at? body i with
  | none => "<EOF>"
  | some c =>
    if 0x20 ≤ c && c ≤ 0x7E then
      if c == 34 then "'\"'" else "'" ++ (Char.ofNat c).toString ++ "'"
    else "U+" ++ hexUpper c

/-- The text of a range of a body. -/
def slice (body : Array Nat) (a b : Nat) : String :=
  String.ofList ((body.toList.drop a).take (b - a) |>.map Char.ofNat)

/-- The end of the run of characters satisfying a test from an offset. -/
def runEnd (body : Array Nat) (p : Nat → Bool) (i : Nat) : Nat :=
  i + ((body.toList.drop i).takeWhile p).length

/-- The end of the digits starting at an offset; there must be one. -/
def readDigits (body : Array Nat) (i : Nat) : Except Error Nat :=
  match at? body i with
  | some c =>
    if isDigit c then .ok (runEnd body isDigit i)
    else .error (syntaxError body i ("Invalid number, expected digit but got: " ++ printAt body i ++ "."))
  | none => .error (syntaxError body i ("Invalid number, expected digit but got: " ++ printAt body i ++ "."))

/-- Reads a number from an offset: its kind and end. -/
def readNumber (body : Array Nat) (start : Nat) : Except Error (Kind × Nat) := do
  let i := if at? body start == some 45 then start + 1 else start
  let i ← if at? body i == some 48 then
      if (at? body (i + 1)).any isDigit then
        .error (syntaxError body (i + 1)
          ("Invalid number, unexpected digit after 0: " ++ printAt body (i + 1) ++ "."))
      else pure (i + 1)
    else readDigits body i
  let (isFloat, i) ← if at? body i == some 46 then do
      let j ← readDigits body (i + 1)
      pure (true, j)
    else pure (false, i)
  let (isFloat, i) ← if at? body i == some 69 || at? body i == some 101 then do
      let j := if at? body (i + 1) == some 43 || at? body (i + 1) == some 45 then i + 2 else i + 1
      let k ← readDigits body j
      pure (true, k)
    else pure (isFloat, i)
  match at? body i with
  | some c =>
    if c == 46 || isNameStart c then
      .error (syntaxError body i ("Invalid number, expected digit but got: " ++ printAt body i ++ "."))
    else pure (if isFloat then .float else .int, i)
  | none => pure (if isFloat then .float else .int, i)

/-- The value of four hexadecimal digits at an offset, if they are. -/
def hex4? (body : Array Nat) (i : Nat) : Option Nat := do
  let a ← (at? body i).bind hexValue?
  let b ← (at? body (i + 1)).bind hexValue?
  let c ← (at? body (i + 2)).bind hexValue?
  let d ← (at? body (i + 3)).bind hexValue?
  pure (((a * 16 + b) * 16 + c) * 16 + d)

/-- The escape characters of strings and what they stand for. -/
def simpleEscape? (c : Nat) : Option Nat :=
  if c == 34 then some 34 else if c == 47 then some 47 else if c == 92 then some 92
  else if c == 98 then some 8 else if c == 102 then some 12 else if c == 110 then some 10
  else if c == 114 then some 13 else if c == 116 then some 9 else none

/-- Reads the escape sequence at an offset (at its backslash): the code point and its length. -/
def readEscape (body : Array Nat) (i : Nat) : Except Error (Nat × Nat) :=
  let bad (len : Nat) (what : String) : Except Error (Nat × Nat) :=
    .error (syntaxError body i (what ++ " '" ++ slice body i (i + len) ++ "'."))
  if at? body (i + 1) == some 117 then
    if at? body (i + 2) == some 123 then
      let limit := min 12 (body.size - i)
      let rec braces (size point : Nat) (fuel : Nat) : Except Error (Nat × Nat) :=
        match fuel with
        | 0 => bad size "Invalid Unicode escape sequence:"
        | fuel + 1 =>
          if size < limit then
            match at? body (i + size) with
            | some 125 =>
              if size + 1 < 5 || !isScalar point then bad (size + 1) "Invalid Unicode escape sequence:"
              else .ok (point, size + 1)
            | some c =>
              match hexValue? c with
              | some h => braces (size + 1) (point * 16 + h) fuel
              | none => bad (size + 1) "Invalid Unicode escape sequence:"
            | none => bad size "Invalid Unicode escape sequence:"
          else bad size "Invalid Unicode escape sequence:"
      braces 3 0 12
    else
      match hex4? body (i + 2) with
      | some code =>
        if isScalar code then .ok (code, 6)
        else if 0xD800 ≤ code && code ≤ 0xDBFF && at? body (i + 6) == some 92 &&
            at? body (i + 7) == some 117 then
          match hex4? body (i + 8) with
          | some low =>
            if 0xDC00 ≤ low && low ≤ 0xDFFF then
              .ok (0x10000 + (code - 0xD800) * 1024 + (low - 0xDC00), 12)
            else bad 6 "Invalid Unicode escape sequence:"
          | none => bad 6 "Invalid Unicode escape sequence:"
        else bad 6 "Invalid Unicode escape sequence:"
      | none => bad 6 "Invalid Unicode escape sequence:"
  else
    match (at? body (i + 1)).bind simpleEscape? with
    | some c => .ok (c, 2)
    | none => bad 2 "Invalid character escape sequence:"

/-- Reads the rest of a string from an offset inside it, gathering its code points; answers the
value and the end of the string. -/
def readString (body : Array Nat) (i : Nat) (acc : List Nat) : Except Error (List Nat × Nat) :=
  if h : i < body.size then
    let c := body[i]
    if c == 34 then .ok (acc.reverse, i + 1)
    else if c == 92 then
      match readEscape body i with
      | .ok (point, len) =>
        if hl : 0 < len then readString body (i + len) (point :: acc)
        else .error (syntaxError body i "Unterminated string.")
      | .error e => .error e
    else if c == 10 || c == 13 then .error (syntaxError body i "Unterminated string.")
    else if isScalar c then readString body (i + 1) (c :: acc)
    else .error (syntaxError body i ("Invalid character within String: " ++ printAt body i ++ "."))
  else .error (syntaxError body i "Unterminated string.")
termination_by body.size - i

/-- The width of the blanks a line starts with. -/
def indent (line : List Nat) : Nat := (line.takeWhile fun c => c == 32 || c == 9).length

/-- The lines of a block string without their common indentation (the first line keeps its
own) and without leading and trailing blank lines. -/
def dedent (ls : List (List Nat)) : List (List Nat) :=
  let indexed := ls.zipIdx
  let nonBlank := indexed.filter fun (l, _) => indent l != l.length
  let common := (nonBlank.filter (·.2 != 0)).foldl (fun m (l, _) => min m (indent l)) (ls.foldl (fun m l => m + l.length) 0 + 1)
  let firstKept := (nonBlank.head?.map (·.2)).getD 0
  let lastKept := (nonBlank.getLast?.map (·.2 + 1)).getD 0
  let shifted := indexed.map fun (l, k) => if k == 0 then l else l.drop common
  (shifted.take lastKept).drop firstKept

/-- Reads the rest of a block string from an offset inside it; answers its lines, the end of
the string, and the number of line breaks it holds. -/
def readBlock (body : Array Nat) (i : Nat) (line : List Nat) (done : List (List Nat)) :
    Except Error (List (List Nat) × Nat) :=
  if h : i < body.size then
    let c := body[i]
    if c == 34 && at? body (i + 1) == some 34 && at? body (i + 2) == some 34 then
      .ok ((line.reverse :: done).reverse, i + 3)
    else if c == 92 && at? body (i + 1) == some 34 && at? body (i + 2) == some 34 &&
        at? body (i + 3) == some 34 then
      readBlock body (i + 4) (34 :: 34 :: 34 :: line) done
    else if c == 13 && at? body (i + 1) == some 10 then
      readBlock body (i + 2) [] (line.reverse :: done)
    else if c == 10 || c == 13 then readBlock body (i + 1) [] (line.reverse :: done)
    else if isScalar c then readBlock body (i + 1) (c :: line) done
    else .error (syntaxError body i ("Invalid character within String: " ++ printAt body i ++ "."))
  else .error (syntaxError body i "Unterminated string.")
termination_by body.size - i

/-- The end of a comment starting at an offset. -/
def commentEnd (body : Array Nat) (start : Nat) : Nat :=
  runEnd body (fun c => c != 10 && c != 13 && isScalar c) (start + 1)

/-- The text of a list of code points. -/
def text (cs : List Nat) : String := String.ofList (cs.map Char.ofNat)

/-- Reads the token starting at an offset that is not a separator. -/
def readToken (body : Array Nat) (i : Nat) (c : Nat) : Except Error Token :=
  match Kind.ofPunctuator c with
  | some k => .ok ⟨k, i, i + 1, ""⟩
  | none =>
    if isNameStart c then
      let j := runEnd body isNameContinue (i + 1)
      .ok ⟨.name, i, j, slice body i j⟩
    else if isDigit c || c == 45 then do
      let (k, j) ← readNumber body i
      pure ⟨k, i, j, slice body i j⟩
    else if c == 34 then
      if at? body (i + 1) == some 34 && at? body (i + 2) == some 34 then do
        let (ls, j) ← readBlock body (i + 3) [] []
        pure ⟨.blockString, i, j, "\n".intercalate ((dedent ls).map text)⟩
      else do
        let (cs, j) ← readString body (i + 1) []
        pure ⟨.string, i, j, text cs⟩
    else if c == 46 && at? body (i + 1) == some 46 && at? body (i + 2) == some 46 then
      .ok ⟨.spread, i, i + 3, ""⟩
    else if c == 39 then
      .error (syntaxError body i
        "Unexpected single quote character ('), did you mean to use a double quote (\")?")
    else if isScalar c then
      .error (syntaxError body i ("Unexpected character: " ++ printAt body i ++ "."))
    else .error (syntaxError body i ("Invalid character: " ++ printAt body i ++ "."))

/-- Whether a code point separates tokens: blank, tab, comma, byte order mark or line break. -/
def isSeparator (c : Nat) : Bool := c == 32 || c == 9 || c == 44 || c == 0xFEFF || c == 10 || c == 13

/-- The tokens of a body from an offset, ending with the end token, or with the error met
first. -/
def tokensFrom (body : Array Nat) (i : Nat) : List Token × Option Error :=
  if h : i < body.size then
    let c := body[i]
    if isSeparator c then tokensFrom body (i + 1)
    else if c == 35 then
      let j := commentEnd body i
      if hj : i < j then tokensFrom body j else ([], some (syntaxError body i "Unterminated comment."))
    else
      match readToken body i c with
      | .error e => ([], some e)
      | .ok t =>
        if ht : i < t.stop then
          let (rest, err) := tokensFrom body t.stop
          (t :: rest, err)
        else ([t], none)
  else ([⟨.eof, body.size, body.size, ""⟩], none)
termination_by body.size - i

/-- The tokens of a document. -/
def lex (body : Array Nat) : List Token × Option Error := tokensFrom body 0

end Graph

end RecipeCatalog
