/-!
# Text as JSON carries it

A JSON string may hold the escape of a lone surrogate (`\ud800`): a UTF-16 unit that is not a
Unicode scalar value and so has no `Char`. `Text` is therefore a list of `Point`s, each a scalar
value or a lone surrogate unit. Most text of the catalogue is plain `String`; `Text` appears where
a client's JSON reaches the library unchanged.

Main statements: `Text.toString?_ofString` (plain text reads back) and `Text.ofString_inj`.
-/

namespace RecipeCatalog

/-- A UTF-16 surrogate unit, 0xD800 to 0xDFFF, standing alone in text. -/
structure Surrogate where
  val : Nat
  lo : 0xD800 ≤ val
  hi : val < 0xE000
  deriving DecidableEq, Repr

/-- One code point of text: a Unicode scalar value or a lone surrogate. -/
inductive Point where
  | char (c : Char)
  | lone (s : Surrogate)
  deriving DecidableEq, Repr

namespace Point

/-- The code point number. -/
def code : Point → Nat
  | char c => c.toNat
  | lone s => s.val

/-- The scalar value, when the point is one. -/
def char? : Point → Option Char
  | char c => some c
  | lone _ => none

/-- The point with a given number: a scalar value, a lone surrogate, or nothing above U+10FFFF. -/
def ofCode? (n : Nat) : Option Point :=
  if h : 0xD800 ≤ n ∧ n < 0xE000 then some (lone ⟨n, h.1, h.2⟩)
  else if n < 0x110000 then some (char (Char.ofNat n))
  else none

end Point

/-- Text that may hold lone surrogates. -/
structure Text where
  points : List Point
  deriving DecidableEq, Repr

namespace Text

instance : Inhabited Text := ⟨⟨[]⟩⟩

/-- Plain text as a `Text`. -/
def ofString (s : String) : Text := ⟨s.toList.map Point.char⟩

instance : Coe String Text := ⟨ofString⟩

/-- The plain text, when no point is a lone surrogate. -/
def toString? (t : Text) : Option String :=
  (t.points.mapM Point.char?).map String.ofList

/-- The number of code points. -/
def length (t : Text) : Nat := t.points.length

/-- Whether the text is exactly the given plain text. -/
def is (t : Text) (s : String) : Bool := t == ofString s

/-- The first lone surrogate and its position, counted in code points. -/
def firstLone? (t : Text) : Option (Nat × Surrogate) :=
  go 0 t.points
where
  go (i : Nat) : List Point → Option (Nat × Surrogate)
    | [] => none
    | .char _ :: rest => go (i + 1) rest
    | .lone s :: _ => some (i, s)

/-- Whether some point is a lone surrogate. -/
def hasLone (t : Text) : Bool := (firstLone? t).isSome

/-- The code point numbers. -/
def codes (t : Text) : List Nat := t.points.map Point.code

theorem mapM_char? (l : List Char) : (l.map Point.char).mapM Point.char? = some l := by
  induction l with
  | nil => rfl
  | cons c rest ih => simp [List.mapM_cons, Point.char?, ih]

theorem toString?_ofString (s : String) : (ofString s).toString? = some s := by
  rw [toString?, ofString, mapM_char?]
  simp

theorem ofString_inj {s u : String} (h : ofString s = ofString u) : s = u := by
  have := congrArg toString? h
  simpa [toString?_ofString] using this

end Text

end RecipeCatalog
