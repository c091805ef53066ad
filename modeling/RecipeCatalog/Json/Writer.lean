import RecipeCatalog.Json.Value
import RecipeCatalog.Decimal.Notation

/-!
# Writing JSON text

Values are written compactly, in field order. Text is written in ASCII: a quote, a backslash and
the control characters are escaped, and every point above ASCII is written as `\uXXXX` units
(a pair for a point above U+FFFF, one unit for a lone surrogate), so the output reads back as the
same text. Doubles use their shortest digits.

Main definitions: `Json.number`, `Json.quote`, `Value.render`.
-/

namespace RecipeCatalog

namespace Json

/-- Doubles in JSON: positional for decimal exponents from -4 to 15, an integral value ending in
`.0`, otherwise `e` with a signed exponent of at least two digits; the literals `NaN` and
`Infinity` for the values JSON has no number for. -/
def number : Notation where
  sciBelow := -4
  sciFrom := 16
  pointZero := true
  expMark := "e"
  expPlus := true
  expMinDigits := 2
  nanText := "NaN"
  infText := "Infinity"

/-- The four lowercase hexadecimal digits of a unit. -/
def hex4 (u : Nat) : String :=
  let d (k : Nat) : Char := "0123456789abcdef".toList.getD (u / Nat.pow 16 k % 16) '0'
  String.ofList [d 3, d 2, d 1, d 0]

/-- The escaped form of one point. -/
def escapePoint : Point → String
  | .lone s => "\\u" ++ hex4 s.val
  | .char c =>
    if c == '"' then "\\\""
    else if c == '\\' then "\\\\"
    else if c == '\n' then "\\n"
    else if c == '\r' then "\\r"
    else if c == '\t' then "\\t"
    else if c == '\x08' then "\\b"
    else if c == '\x0c' then "\\f"
    else if c.toNat < 0x20 then "\\u" ++ hex4 c.toNat
    else if c.toNat < 0x80 then c.toString
    else if c.toNat < 0x10000 then "\\u" ++ hex4 c.toNat
    else
      let v := c.toNat - 0x10000
      "\\u" ++ hex4 (0xD800 + v / 1024) ++ "\\u" ++ hex4 (0xDC00 + v % 1024)

/-- Text in quotes, escaped. -/
def quote (t : Text) : String := "\"" ++ String.join (t.points.map escapePoint) ++ "\""

end Json

namespace Value

/-- The JSON text of a value. -/
def render : Value → String
  | null => "null"
  | bool b => if b then "true" else "false"
  | int n => toString n
  | float x => Json.number.render x
  | str t => Json.quote t
  | array items => "[" ++ ",".intercalate (items.attach.map fun ⟨v, _⟩ => render v) ++ "]"
  | object fields =>
    "\x7b" ++ ",".intercalate (fields.attach.map fun ⟨(k, v), _⟩ =>
      Json.quote k ++ ":" ++ render v) ++ "\x7d"
termination_by v => sizeOf v
decreasing_by
  all_goals simp_wf
  · have := List.sizeOf_lt_of_mem ‹_ ∈ items›
    omega
  · have := List.sizeOf_lt_of_mem ‹_ ∈ fields›
    simp at this
    omega

end Value

end RecipeCatalog
