import RecipeCatalog.Text.Case
import RecipeCatalog.Text.Mark
import RecipeCatalog.Text.Encoding
import RecipeCatalog.Url.Punycode

/-!
# Hosts of URLs

The host of a URL is an IPv6 address in brackets, an IPv4 address, a domain, or, for schemes
without special meaning, a string taken as it is.

* `Ipv4.number?`, `Ipv4.address?` — the parts of a dotted address (decimal, `0x` hexadecimal or
  `0` octal) and the address they give: at most four parts, all but the last below 256, the last
  filling the bytes that remain.
* `Ipv6.read?` — the eight 16-bit pieces of an IPv6 text, one character per step, with at most
  one `::` and an optional dotted IPv4 tail.
* `Domain.labels?` — a percent-decoded domain mapped to lowercase labels: ignored points dropped,
  full-width forms and ideographic full stops folded, controls, private use and
  non-characters refused, `xn--` labels decoded, no label starting with a combining mark, no
  forbidden ASCII point left.
* `Host.special?`, `Host.plain?`, `Host.file?` — the host rules of special, other and `file`
  URLs.
-/

namespace RecipeCatalog

namespace Url

/-- Splits a list at every separator; the result always has one more piece than separators. -/
def pieces {α : Type} [BEq α] (sep : α) : List α → List (List α)
  | [] => [[]]
  | c :: rest =>
    match pieces sep rest with
    | [] => [[c]]
    | p :: more => if c == sep then [] :: p :: more else (c :: p) :: more

/-- The value of a hexadecimal digit. -/
def hexValue (c : Char) : Nat :=
  if c.isDigit then c.toNat - '0'.toNat
  else if 'a' ≤ c && c ≤ 'f' then c.toNat - 'a'.toNat + 10
  else c.toNat - 'A'.toNat + 10

/-- Whether a character is an ASCII hexadecimal digit. -/
def isHex (c : Char) : Bool := c.isDigit || ('a' ≤ c && c ≤ 'f') || ('A' ≤ c && c ≤ 'F')

/-- The host a URL names. -/
inductive Host where
  | domain (labels : List (List Nat))
  | ipv4 (address : Nat)
  | ipv6 (pieces : List Nat)
  | plain (text : List Char)
  | empty
  deriving DecidableEq, Repr

namespace Ipv4

/-- Whether a character is a digit of a radix 8, 10 or 16. -/
def isDigitIn (radix : Nat) (c : Char) : Bool :=
  if radix == 16 then isHex c else c.isDigit && c.toNat - '0'.toNat < radix

/-- The number a part of a dotted address stands for: `0x` or `0X` before hexadecimal digits,
a `0` before further octal digits, otherwise decimal digits; a prefix with nothing after it is
zero. The number is not bounded here. -/
def number? (part : List Char) : Option Nat :=
  if part.isEmpty then none
  else
    let (radix, ds) : Nat × List Char := match part with
      | '0' :: 'x' :: r => (16, r)
      | '0' :: 'X' :: r => (16, r)
      | '0' :: r@(_ :: _) => (8, r)
      | _ => (10, part)
    if ds.all (isDigitIn radix) then some (ds.foldl (fun acc c => acc * radix + hexValue c) 0)
    else none

/-- The labels without one empty last label. -/
def trimmed (labels : List (List Char)) : List (List Char) :=
  match labels.reverse with
  | [] :: rest => rest.reverse
  | _ => labels

/-- Whether a host ends in a number, so that it must be an IPv4 address: its last label, after
dropping one empty last label, is made of decimal digits or is a number. -/
def endsInNumber (labels : List (List Char)) : Bool :=
  match (trimmed labels).reverse with
  | last :: _ => (!last.isEmpty && last.all Char.isDigit) || (number? last).isSome
  | [] => false

/-- The address of a dotted IPv4 host. -/
def address? (labels : List (List Char)) : Option Nat := do
  let parts := trimmed labels
  if 4 < parts.length then none
  let nums ← parts.mapM number?
  match nums.reverse with
  | [] => none
  | last :: firsts =>
    if Nat.pow 256 (4 - firsts.length) ≤ last ∨ firsts.any (255 < ·) then none
    else some (firsts.reverse.foldl (fun acc n => acc * 256 + n) 0 * Nat.pow 256 (4 - firsts.length)
      + last)

end Ipv4

namespace Ipv6

/-- Where the reader of an IPv6 text stands. -/
inductive Stage where
  /-- At the start of a piece, or right after `::`. -/
  | pieceStart
  /-- After the colon that ends a piece; the text may not end here. -/
  | afterColon
  /-- Inside a piece, with its digits so far (one to four). -/
  | piece (digits : List Char)
  deriving DecidableEq, Repr

/-- Pieces read so far: those before `::`, and those after it once it has been read. -/
structure Pieces where
  head : List Nat
  tail : Option (List Nat)
  deriving DecidableEq, Repr

namespace Pieces

/-- The slots taken: each piece one, and `::` one. -/
def slots (p : Pieces) : Nat :=
  p.head.length + match p.tail with
    | none => 0
    | some t => t.length + 1

/-- Adds a piece. -/
def push (p : Pieces) (v : Nat) : Pieces :=
  match p.tail with
  | none => { p with head := p.head ++ [v] }
  | some t => { p with tail := some (t ++ [v]) }

/-- The eight pieces of the address: `::` stands for as many zero pieces as are missing. -/
def finish (p : Pieces) : Option (List Nat) :=
  match p.tail with
  | none => if p.head.length == 8 then some p.head else none
  | some t => some (p.head ++ List.replicate (8 - p.head.length - t.length) 0 ++ t)

end Pieces

/-- The value of a run of hexadecimal digits. -/
def pieceValue (ds : List Char) : Nat := ds.foldl (fun acc c => acc * 16 + hexValue c) 0

/-- A decimal byte of a dotted tail: digits without a leading zero, at most 255. -/
def byte? (part : List Char) : Option Nat :=
  if part.isEmpty || !part.all Char.isDigit then none
  else if part.head? == some '0' && 1 < part.length then none
  else
    let v := part.foldl (fun acc c => acc * 10 + (c.toNat - '0'.toNat)) 0
    if 255 < v then none else some v

/-- The four bytes of a dotted tail. -/
def dotted? (cs : List Char) : Option (List Nat) :=
  match (pieces '.' cs).mapM byte? with
  | some [a, b, c, d] => some [a * 256 + b, c * 256 + d]
  | _ => none

/-- Reads the rest of an IPv6 text. -/
def go (p : Pieces) : Stage → List Char → Option (List Nat)
  | .pieceStart, [] => p.finish
  | .afterColon, [] => none
  | .piece ds, [] => (p.push (pieceValue ds)).finish
  | .pieceStart, c :: rest | .afterColon, c :: rest =>
    if p.slots == 8 then none
    else if c == ':' then
      if p.tail.isSome then none else go { p with tail := some [] } .pieceStart rest
    else if isHex c then go p (.piece [c]) rest
    else none
  | .piece ds, c :: rest =>
    if isHex c then
      if ds.length < 4 then go p (.piece (ds ++ [c])) rest else none
    else if c == '.' then
      if 6 < p.slots then none
      else
        match dotted? (ds ++ c :: rest) with
        | some two => (two.foldl Pieces.push p).finish
        | none => none
    else if c == ':' then go (p.push (pieceValue ds)) .afterColon rest
    else none

/-- The eight pieces of an IPv6 text (without brackets). -/
def read? (cs : List Char) : Option (List Nat) :=
  if cs.length < 2 then none
  else
    match cs with
    | ':' :: ':' :: rest => go ⟨[], some []⟩ .pieceStart rest
    | ':' :: _ => none
    | _ => go ⟨[], none⟩ .pieceStart cs

end Ipv6

namespace Domain

/-- Code points that mapping drops. -/
def isIgnored (n : Nat) : Bool :=
  n == 0xAD || n == 0x34F || (0x180B ≤ n && n ≤ 0x180D) || n == 0x180F || n == 0x200B ||
  n == 0x2060 || n == 0x2064 || (0xFE00 ≤ n && n ≤ 0xFE0F) || n == 0xFEFF ||
  (0x1BCA0 ≤ n && n ≤ 0x1BCA3) || (0xE0100 ≤ n && n ≤ 0xE01EF)

/-- Code points that mapping turns into a space. -/
def isSpaceLike (n : Nat) : Bool :=
  n == 0xA0 || (0x2000 ≤ n && n ≤ 0x200A) || n == 0x202F || n == 0x205F || n == 0x3000

/-- Code points no domain may hold: C1 controls, line and paragraph separators, direction
marks and embeddings, private use, non-characters, specials and tags. -/
def isRefused (n : Nat) : Bool :=
  (0x80 ≤ n && n ≤ 0x9F) || n == 0x2028 || n == 0x2029 || n == 0x200E || n == 0x200F ||
  (0x202A ≤ n && n ≤ 0x202E) || (0x2066 ≤ n && n ≤ 0x2069) || (0xE000 ≤ n && n ≤ 0xF8FF) ||
  0xF0000 ≤ n || (0xFDD0 ≤ n && n ≤ 0xFDEF) || 0xFFFE ≤ n % 0x10000 ||
  (0xFFF9 ≤ n && n ≤ 0xFFFD) || (0xE0000 ≤ n && n ≤ 0xE007F)

/-- The code points one code point maps to, or none when it is refused. -/
def map? (n : Nat) : Option (List Nat) :=
  if isIgnored n then some []
  else if isRefused n then none
  else if isSpaceLike n then some [0x20]
  else if n == 0x3002 || n == 0xFF0E || n == 0xFF61 then some [0x2E]
  else if 0xFF01 ≤ n && n ≤ 0xFF5E then some [Case.lowerCode (n - 0xFEE0)]
  else if n == 0x130 then some [0x69, 0x307]
  else some [Case.lowerCode n]

/-- ASCII code points that may not stand in a domain: controls, space, delete and
`%#/:<>?@[\]^|`. -/
def isForbidden (n : Nat) : Bool :=
  n ≤ 0x20 || n == 0x7F || "%#/:<>?@[\\]^|".toList.any (fun c => c.toNat == n)

/-- Whether a code point is left as it is by mapping. -/
def isKept (n : Nat) : Bool := map? n == some [n]

/-- The code points of `xn--`. -/
def acePrefix : List Nat := [0x78, 0x6E, 0x2D, 0x2D]

/-- Whether a label in Unicode form is valid: it does not begin with a combining mark, and its
joiners stand after viramas. -/
def isValidLabel (label : List Nat) : Bool :=
  (match label.head? with
    | some n => !Mark.isMark n && n != 0x200C && n != 0x200D
    | none => true) &&
  (List.zip label label.tail).all (fun (a, b) => (b != 0x200C && b != 0x200D) || Mark.isVirama a)

/-- Checks one mapped label; a label with the `xn--` prefix is replaced by its decoding, which
must be non-empty, hold a non-ASCII point, be left as it is by mapping and not begin with
`xn--` again. -/
def label? (label : List Nat) : Option (List Nat) :=
  if label.take 4 == acePrefix then do
    let decoded ← Punycode.decode? (label.drop 4)
    if decoded.isEmpty || decoded.all (· < 0x80) || !decoded.all isKept ||
      decoded.take 4 == acePrefix || !isValidLabel decoded then none
    else some label
  else if isValidLabel label then some label else none

/-- The labels of a domain given as UTF-8 bytes, after mapping and checking. -/
def labels? (bytes : List UInt8) : Option (List (List Nat)) := do
  let s ← Utf8.decode? bytes
  let mapped ← (s.toList.map Char.toNat).mapM map?
  let flat := mapped.flatten
  if flat.any isForbidden then none
  (pieces 0x2E flat).mapM label?

end Domain

/-- Replaces each `%` and two hexadecimal digits by the byte they name. -/
def percentDecode (bs : List UInt8) : List UInt8 :=
  match bs with
  | 0x25 :: h :: l :: more =>
    let hc := Char.ofNat h.toNat
    let lc := Char.ofNat l.toNat
    if isHex hc && isHex lc then
      (hexValue hc * 16 + hexValue lc).toUInt8 :: percentDecode more
    else 0x25 :: percentDecode (h :: l :: more)
  | b :: rest => b :: percentDecode rest
  | [] => []
termination_by bs.length

namespace Host

/-- Characters the host of a scheme without special meaning may not hold. -/
def isForbiddenPlain (c : Char) : Bool := "\x00\t\n\r #/:<>?@[\\]^|".toList.contains c

/-- The host of a URL with a special scheme: an IPv6 address in brackets, or a domain that,
percent-decoded and mapped, is not empty; a domain whose last label is a number must be an IPv4
address. -/
def special? (text : List Char) : Option Host :=
  if text.head? == some '[' then
    if text.getLast? == some ']' && 2 ≤ text.length then
      (Ipv6.read? ((text.drop 1).dropLast)).map .ipv6
    else none
  else do
    let labels ← Domain.labels? (percentDecode (Utf8.encode (String.ofList text)))
    if labels == [[]] then none
    let ascii := labels.map (fun l => l.map Char.ofNat)
    if Ipv4.endsInNumber ascii then (Ipv4.address? ascii).map .ipv4
    else some (.domain labels)

/-- The host of a URL with another scheme: an IPv6 address in brackets, or text without the
forbidden characters. -/
def plain? (text : List Char) : Option Host :=
  if text.head? == some '[' then
    if text.getLast? == some ']' && 2 ≤ text.length then
      (Ipv6.read? ((text.drop 1).dropLast)).map .ipv6
    else none
  else if text.any isForbiddenPlain then none
  else if text.isEmpty then some .empty
  else some (.plain text)

/-- Whether two characters are a drive letter: an ASCII letter and `:` or `|`. -/
def isDriveLetter : List Char → Bool
  | [a, b] => a.isAlpha && (b == ':' || b == '|')
  | _ => false

/-- The host of a `file` URL: none for an empty host or a drive letter, otherwise a special
host. -/
def file? (text : List Char) : Option Host :=
  if text.isEmpty || isDriveLetter text then some .empty else special? text

end Host

end Url

end RecipeCatalog
