/-!
# Base64

Bytes written with the 64 characters `A`–`Z`, `a`–`z`, `0`–`9`, `+`, `/`, three bytes to four
characters, the last group padded with `=`. Reading skips characters outside the alphabet and
needs the padding that writing puts.

Main definitions: `Base64.encode`, `Base64.decode?`.
-/

namespace RecipeCatalog

namespace Base64

/-- The alphabet. -/
def alphabet : List Char :=
  "ABCDEFGHIJKLMNOPQRSTUVWXYZabcdefghijklmnopqrstuvwxyz0123456789+/".toList

/-- The character of a six-bit value. -/
def char (n : Nat) : Char := alphabet.getD n 'A'

/-- The six-bit value of a character of the alphabet. -/
def value? (c : Char) : Option Nat := alphabet.idxOf? c

/-- Writes bytes. -/
def encode : List UInt8 → String
  | a :: b :: c :: rest =>
    let n := a.toNat * 65536 + b.toNat * 256 + c.toNat
    String.ofList [char (n / 262144), char (n / 4096 % 64), char (n / 64 % 64), char (n % 64)] ++
      encode rest
  | [a, b] =>
    let n := a.toNat * 65536 + b.toNat * 256
    String.ofList [char (n / 262144), char (n / 4096 % 64), char (n / 64 % 64), '=']
  | [a] =>
    let n := a.toNat * 65536
    String.ofList [char (n / 262144), char (n / 4096 % 64), '=', '=']
  | [] => ""

/-- Reads groups of four values; `=` may only pad the last group. -/
def groups : List (Option Nat) → Option (List UInt8)
  | [some a, some b, some c, some d] =>
    let n := a * 262144 + b * 4096 + c * 64 + d
    some [(n / 65536).toUInt8, (n / 256 % 256).toUInt8, (n % 256).toUInt8]
  | [some a, some b, some c, none] =>
    let n := a * 262144 + b * 4096 + c * 64
    some [(n / 65536).toUInt8, (n / 256 % 256).toUInt8]
  | [some a, some b, none, none] =>
    let n := a * 262144 + b * 4096
    some [(n / 65536).toUInt8]
  | some a :: some b :: some c :: some d :: rest => do
    let n := a * 262144 + b * 4096 + c * 64 + d
    let more ← groups rest
    pure ([(n / 65536).toUInt8, (n / 256 % 256).toUInt8, (n % 256).toUInt8] ++ more)
  | [] => some []
  | _ => none

/-- Reads bytes. -/
def decode? (s : String) : Option (List UInt8) :=
  let kept := s.toList.filter (fun c => (value? c).isSome || c == '=')
  groups (kept.map value?)

end Base64

end RecipeCatalog
