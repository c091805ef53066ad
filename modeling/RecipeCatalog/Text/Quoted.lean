import RecipeCatalog.Text.Point

/-!
# Quoted text in messages

Messages quote the text they are about: in single quotes, or in double quotes when the text
holds a single quote and no double quote. Inside, the chosen quote and the backslash are
escaped, tab, line feed and carriage return get their letters, and every other point that does
not print is written by its number: `\xNN` below U+0100, `\uNNNN` below U+10000, `\UNNNNNNNN`
above.

A point does not print when it is a control, a format character, a separator other than the
space, a surrogate, for private use, or a noncharacter.

Main definitions: `Text.printable`, `Text.quoted`.
-/

namespace RecipeCatalog

namespace Text

/-- Ranges of points that do not print, besides controls, surrogates and private use. -/
def unprintableRanges : List (Nat × Nat) :=
  [(0x00A0, 0x00A0), (0x00AD, 0x00AD), (0x0600, 0x0605), (0x061C, 0x061C), (0x06DD, 0x06DD),
   (0x070F, 0x070F), (0x0890, 0x0891), (0x08E2, 0x08E2), (0x1680, 0x1680), (0x180E, 0x180E),
   (0x2000, 0x200F), (0x2028, 0x202F), (0x205F, 0x2064), (0x2066, 0x206F), (0x3000, 0x3000),
   (0xFDD0, 0xFDEF), (0xFEFF, 0xFEFF), (0xFFF9, 0xFFFB), (0x110BD, 0x110BD),
   (0x110CD, 0x110CD), (0x13430, 0x1343F), (0x1BCA0, 0x1BCA3), (0x1D173, 0x1D17A),
   (0xE0001, 0xE0001), (0xE0020, 0xE007F)]

/-- Whether a code point prints. -/
def printable (n : Nat) : Bool :=
  if n < 0x20 || (0x7F ≤ n && n < 0xA0) then false
  else if 0xD800 ≤ n && n < 0xE000 then false
  else if 0xE000 ≤ n && n < 0xF900 then false
  else if 0xF0000 ≤ n then false
  else if n % 0x10000 ≥ 0xFFFE then false
  else !(unprintableRanges.any fun r => r.1 ≤ n && n ≤ r.2)

/-- Lowercase hexadecimal digits of a number, padded to a width. -/
def hexPadded (width n : Nat) : String :=
  let ds := Nat.toDigits 16 n
  String.ofList (List.replicate (width - ds.length) '0' ++ ds)

/-- The escaped form of one code point inside quotes `q`. -/
def quotedPoint (q : Char) (n : Nat) : String :=
  if n == q.toNat then "\\" ++ q.toString
  else if n == '\\'.toNat then "\\\\"
  else if n == 9 then "\\t"
  else if n == 10 then "\\n"
  else if n == 13 then "\\r"
  else if printable n then (Char.ofNat n).toString
  else if n < 0x100 then "\\x" ++ hexPadded 2 n
  else if n < 0x10000 then "\\u" ++ hexPadded 4 n
  else "\\U" ++ hexPadded 8 n

/-- Text in quotes, as messages show it. -/
def quoted (t : Text) : String :=
  let cs := t.codes
  let q := if cs.contains '\''.toNat && !cs.contains '"'.toNat then '"' else '\''
  q.toString ++ String.join (cs.map (quotedPoint q)) ++ q.toString

end Text

end RecipeCatalog
