import RecipeCatalog.Text.Point

/-!
# White space

The white space of Unicode (version 14.0) as text is trimmed by it: the characters of
bidirectional class WS, B or S and those of general category Zs. Lone surrogates are not white
space.

Main definitions: `Text.isSpace`, `Text.strip`.
-/

namespace RecipeCatalog

namespace Text

/-- Ranges of the white-space code points. -/
def spaceRanges : List (Nat × Nat) :=
  [(0x9, 0xD), (0x1C, 0x20), (0x85, 0x85), (0xA0, 0xA0), (0x1680, 0x1680), (0x2000, 0x200A),
   (0x2028, 0x2029), (0x202F, 0x202F), (0x205F, 0x205F), (0x3000, 0x3000)]

/-- Whether a point is white space. -/
def isSpace : Point → Bool
  | .char c => spaceRanges.any fun r => r.1 ≤ c.toNat && c.toNat ≤ r.2
  | .lone _ => false

/-- Text without white space at either end. -/
def strip (t : Text) : Text :=
  ⟨((t.points.dropWhile isSpace).reverse.dropWhile isSpace).reverse⟩

end Text

end RecipeCatalog
