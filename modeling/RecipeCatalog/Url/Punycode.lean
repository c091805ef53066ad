/-!
# Punycode

Decoding of the bootstring encoding that internationalized domain labels use after their
`xn--` prefix. The basic code points stand before the last hyphen; each further code point is
a variable-length integer in base 36 that says where to insert which code point. Every number
the decoder forms must stay below 2^32, and every inserted code point must be a Unicode scalar
value; otherwise the label has no decoding.

Main definitions: `Punycode.adapt`, `Punycode.integer`, `Punycode.decode?`.
-/

namespace RecipeCatalog

namespace Punycode

/-- The value of a base-36 digit: letters in either case are 0 to 25, decimal digits 26 to 35. -/
def digit? (n : Nat) : Option Nat :=
  if 0x41 ≤ n ∧ n ≤ 0x5A then some (n - 0x41)
  else if 0x61 ≤ n ∧ n ≤ 0x7A then some (n - 0x61)
  else if 0x30 ≤ n ∧ n ≤ 0x39 then some (n - 0x30 + 26)
  else none

/-- Numbers of the decoder stay below this bound. -/
def bound : Nat := Nat.pow 2 32

/-- Whether a number is a Unicode scalar value. -/
def isScalar (n : Nat) : Bool := n < 0xD800 || (0xDFFF < n && n < 0x110000)

/-- The threshold of the digit at position `k` for a bias: between 1 and 26. -/
def threshold (k bias : Nat) : Nat :=
  if k ≤ bias then 1 else if bias + 26 ≤ k then 26 else k - bias

/-- Divides a delta by 35 until it is at most 455, counting 36 for each division. -/
def shrink (delta k : Nat) : Nat × Nat :=
  if 455 < delta then shrink (delta / 35) (k + 36) else (delta, k)
termination_by delta
decreasing_by exact Nat.div_lt_self (by omega) (by omega)

/-- The bias after a delta, for a text of `points` code points. -/
def adapt (delta points : Nat) (first : Bool) : Nat :=
  let d := if first then delta / 700 else delta / 2
  let (d, k) := shrink (d + d / points) 0
  k + 36 * d / (d + 38)

/-- Reads one variable-length integer, adding it to `i` with the weight `w`; returns the sum and
the rest of the input. -/
def integer (bias : Nat) : List Nat → Nat → Nat → Nat → Option (Nat × List Nat)
  | [], _, _, _ => none
  | c :: rest, k, w, i =>
    match digit? c with
    | none => none
    | some d =>
      let t := threshold k bias
      if bound ≤ d * w ∨ bound ≤ i + d * w then none
      else if d < t then some (i + d * w, rest)
      else if bound ≤ w * (36 - t) then none
      else integer bias rest (k + 36) (w * (36 - t)) (i + d * w)

/-- Reading an integer consumes input. -/
theorem integer_length (bias : Nat) :
    ∀ (l : List Nat) (k w i : Nat) (r : Nat × List Nat),
      integer bias l k w i = some r → r.2.length < l.length
  | [], _, _, _, _, h => by simp [integer] at h
  | c :: rest, k, w, i, r, h => by
    rw [integer] at h
    split at h
    · simp at h
    · split at h
      · simp at h
      · dsimp only at h
        split at h
        · rw [← Option.some.inj h]; simp
        · split at h
          · simp at h
          · have := integer_length bias rest _ _ _ r h
            simp only [List.length_cons]
            omega

/-- Inserts the code points that the integers of the input describe, starting from the
basic code points `out`. -/
def insertions (bias n i : Nat) (out : List Nat) : List Nat → Option (List Nat)
  | [] => some out
  | c :: rest =>
    match _ : integer bias (c :: rest) 36 1 i with
    | none => none
    | some (j, remaining) =>
      let size := out.length + 1
      let point := n + j / size
      if bound ≤ point ∨ !isScalar point then none
      else
        insertions (adapt (j - i) size (i == 0)) point (j % size + 1)
          (out.insertIdx (j % size) point) remaining
termination_by l => l.length
decreasing_by
  have := integer_length bias (c :: rest) 36 1 i (j, remaining)
    ‹integer bias (c :: rest) 36 1 i = some (j, remaining)›
  simpa using this

/-- The code points a Punycode text decodes to, if it has a decoding. -/
def decode? (input : List Nat) : Option (List Nat) :=
  let hyphen := 0x2D
  if input.any (fun n => 0x80 ≤ n) then none
  else if input.contains hyphen then
    let back := input.reverse
    let extended := (back.takeWhile (· != hyphen)).reverse
    let basic := ((back.dropWhile (· != hyphen)).drop 1).reverse
    insertions 72 128 0 basic extended
  else insertions 72 128 0 [] input

end Punycode

end RecipeCatalog
