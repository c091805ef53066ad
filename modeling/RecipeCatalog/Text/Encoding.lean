import RecipeCatalog.Text.Point

/-!
# Byte encodings of text

UTF-8 writing and reading, and the UTF-16 and UTF-32 readers that JSON bodies may need.

Reading UTF-8 goes by the well-formed byte sequences of the Unicode standard. An ill-formed
stretch is the longest prefix of some well-formed sequence (at least one byte): strict reading
refuses it, lossy reading puts one U+FFFD in its place, and reading that lets surrogates pass
takes the three-byte form of a surrogate (`ED A0..BF 80..BF`) as that lone surrogate.

Main definitions: `Utf8.encode`, `Utf8.decode?`, `Utf8.decodeLossy`, `Utf16.decode?`,
`Utf32.decode?`.
-/

namespace RecipeCatalog

namespace Utf8

/-- The UTF-8 bytes of a code point number below `0x110000` (surrogates take the three-byte
form). -/
def encodeCode (n : Nat) : List UInt8 :=
  if n < 0x80 then [n.toUInt8]
  else if n < 0x800 then [(0xC0 + n / 64).toUInt8, (0x80 + n % 64).toUInt8]
  else if n < 0x10000 then
    [(0xE0 + n / 4096).toUInt8, (0x80 + n / 64 % 64).toUInt8, (0x80 + n % 64).toUInt8]
  else
    [(0xF0 + n / 262144).toUInt8, (0x80 + n / 4096 % 64).toUInt8, (0x80 + n / 64 % 64).toUInt8,
      (0x80 + n % 64).toUInt8]

/-- The UTF-8 bytes of plain text. -/
def encode (s : String) : List UInt8 := s.toList.flatMap (fun c => encodeCode c.toNat)

/-- The bytes of text whose lone surrogates take their three-byte form. -/
def encodePassing (t : Text) : List UInt8 := t.points.flatMap (fun p => encodeCode p.code)

/-- Whether a byte continues a sequence. -/
def isCont (b : UInt8) : Bool := 0x80 ≤ b && b ≤ 0xBF

/-- One step of reading: a point, or none for an ill-formed stretch, and the bytes it took. -/
structure Step where
  point : Option Point
  width : Nat
  width_pos : 0 < width

/-- Reads a sequence after its lead byte: the second byte must lie in `lo..hi`, and `n`
continuation bytes follow the lead in all. A surrogate is kept only when `surrogate` is set. -/
def multi (lead : UInt8) (lo hi : UInt8) (rest : List UInt8) (n : Nat) (surrogate : Bool) : Step :=
  match rest with
  | [] => ⟨none, 1, by omega⟩
  | b1 :: more =>
    if !(lo ≤ b1 && b1 ≤ hi) then ⟨none, 1, by omega⟩
    else
      let conts := (more.take (n - 1)).takeWhile isCont
      if conts.length < n - 1 then ⟨none, 1 + 1 + conts.length, by omega⟩
      else
        let lowBits := (b1 :: conts).foldl (fun acc b => acc * 64 + (b.toNat - 0x80)) 0
        let leadBits := lead.toNat % (if n = 1 then 32 else if n = 2 then 16 else 8)
        let code := leadBits * Nat.pow 64 n + lowBits
        let p : Option Point :=
          if surrogate then Point.ofCode? code else some (.char (Char.ofNat code))
        ⟨p, n + 1, by omega⟩

/-- Reads one sequence at the front of non-empty bytes. -/
def step (passSurrogates : Bool) (b : UInt8) (rest : List UInt8) : Step :=
  if b < 0x80 then ⟨some (.char (Char.ofNat b.toNat)), 1, by omega⟩
  else if 0xC2 ≤ b && b ≤ 0xDF then multi b 0x80 0xBF rest 1 false
  else if b == 0xE0 then multi b 0xA0 0xBF rest 2 false
  else if b == 0xED then
    if passSurrogates then
      match rest with
      | b1 :: _ => if 0xA0 ≤ b1 && b1 ≤ 0xBF then multi b 0xA0 0xBF rest 2 true
          else multi b 0x80 0x9F rest 2 false
      | [] => ⟨none, 1, by omega⟩
    else multi b 0x80 0x9F rest 2 false
  else if 0xE1 ≤ b && b ≤ 0xEF then multi b 0x80 0xBF rest 2 false
  else if b == 0xF0 then multi b 0x90 0xBF rest 3 false
  else if 0xF1 ≤ b && b ≤ 0xF3 then multi b 0x80 0xBF rest 3 false
  else if b == 0xF4 then multi b 0x80 0x8F rest 3 false
  else ⟨none, 1, by omega⟩

/-- Reads all bytes, mending each ill-formed stretch with `mend` (or failing when it gives
none). -/
def decodeWith (passSurrogates : Bool) (mend : Option Point) (bs : List UInt8) :
    Option (List Point) :=
  match bs with
  | [] => some []
  | b :: rest =>
    let s := step passSurrogates b rest
    let tail := decodeWith passSurrogates mend ((b :: rest).drop s.width)
    match s.point, mend with
    | some p, _ => tail.map (p :: ·)
    | none, some m => tail.map (m :: ·)
    | none, none => none
termination_by bs.length
decreasing_by
  have := (step passSurrogates b rest).width_pos
  simp only [List.length_drop, List.length_cons]
  omega

/-- Strict reading: the text, or none if some stretch is ill-formed. -/
def decode? (bs : List UInt8) : Option String :=
  (decodeWith false none bs).bind fun ps => (Text.mk ps).toString?

/-- Strict reading that lets the three-byte forms of surrogates through. -/
def decodePassing? (bs : List UInt8) : Option Text :=
  (decodeWith true none bs).map Text.mk

/-- Lossy reading: each ill-formed stretch becomes one U+FFFD. -/
def decodeLossy (bs : List UInt8) : String :=
  match decodeWith false (some (.char '�')) bs with
  | some ps => ((Text.mk ps).toString?).getD ""
  | none => ""

end Utf8

namespace Utf16

/-- The code units of bytes read two at a time, in big- or little-endian order; none for an odd
count. -/
def units (bigEndian : Bool) : List UInt8 → Option (List Nat)
  | [] => some []
  | [_] => none
  | a :: b :: rest =>
    let u := if bigEndian then a.toNat * 256 + b.toNat else b.toNat * 256 + a.toNat
    (units bigEndian rest).map (u :: ·)

/-- Pairs surrogate units; a unit left alone stays a lone surrogate. -/
def points : List Nat → Option (List Point)
  | [] => some []
  | [u] => (Point.ofCode? u).map ([·])
  | u :: v :: rest =>
    if 0xD800 ≤ u ∧ u < 0xDC00 ∧ 0xDC00 ≤ v ∧ v < 0xE000 then
      let code := 0x10000 + (u - 0xD800) * 1024 + (v - 0xDC00)
      (points rest).map (.char (Char.ofNat code) :: ·)
    else
      match Point.ofCode? u with
      | some p => (points (v :: rest)).map (p :: ·)
      | none => none

/-- Reads UTF-16 in the given order, lone surrogates passing. -/
def decode? (bigEndian : Bool) (bs : List UInt8) : Option Text :=
  (units bigEndian bs).bind fun us => (points us).map Text.mk

end Utf16

namespace Utf32

/-- Reads UTF-32 in the given order, lone surrogates passing; none for a count not divisible by
four or a unit above U+10FFFF. -/
def decode? (bigEndian : Bool) : List UInt8 → Option Text
  | [] => some ⟨[]⟩
  | a :: b :: c :: d :: rest =>
    let u := if bigEndian then ((a.toNat * 256 + b.toNat) * 256 + c.toNat) * 256 + d.toNat
      else ((d.toNat * 256 + c.toNat) * 256 + b.toNat) * 256 + a.toNat
    match Point.ofCode? u, decode? bigEndian rest with
    | some p, some t => some ⟨p :: t.points⟩
    | _, _ => none
  | _ => none

end Utf32

end RecipeCatalog
