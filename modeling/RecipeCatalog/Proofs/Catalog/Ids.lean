import Mathlib
import RecipeCatalog.Catalog.Seed
import RecipeCatalog.Catalog.Ids
import RecipeCatalog.Recipe.Check

/-!
# Drawn ids

The `n`-th id drawn is `ffffffff-0000-4000-8000-` followed by `n` in twelve hexadecimal digits.

* `Ids.drawn_injective` — **no two draws give the same id**: the digits read back as `n`;
* `Ids.drawn_ne_seed` — no draw gives the id of a sample recipe;
* `Ids.isUuid_drawn` — the ids of the first `16^12 - 1` draws have the shape of a UUID, as the
  ids of the sample recipes have (`Ids.isUuid_seed`). Past them the number needs a thirteenth
  digit.
-/

set_option autoImplicit false

namespace RecipeCatalog

namespace Ids

/-! ## Reading hexadecimal digits back -/

/-- The value of a lowercase hexadecimal digit. -/
def hexValueOf (c : Char) : Nat := if c.isDigit then c.toNat - 48 else c.toNat - 87

/-- The number that hexadecimal digits stand for, most significant first. -/
def hexValue (cs : List Char) : Nat := cs.foldl (fun acc c => acc * 16 + hexValueOf c) 0

theorem hexValueOf_digitChar {d : Nat} (hd : d < 16) : hexValueOf (Nat.digitChar d) = d := by
  interval_cases d <;> rfl

theorem hexValue_append (cs : List Char) (c : Char) :
    hexValue (cs ++ [c]) = hexValue cs * 16 + hexValueOf c := by
  simp [hexValue, List.foldl_append]

theorem hexValue_toDigits (n : Nat) : hexValue (Nat.toDigits 16 n) = n := by
  induction n using Nat.strong_induction_on with
  | _ n ih =>
    rw [Nat.toDigits_eq_if (by decide)]
    split
    · rename_i h
      simp [hexValue, hexValueOf_digitChar h]
    · rw [hexValue_append, ih (n / 16) (by omega),
        hexValueOf_digitChar (Nat.mod_lt _ (by decide))]
      omega

theorem hexValue_replicate_zero (k : Nat) (cs : List Char) :
    hexValue (List.replicate k '0' ++ cs) = hexValue cs := by
  have hz : (List.replicate k '0').foldl (fun acc c => acc * 16 + hexValueOf c) 0 = 0 := by
    induction k with
    | zero => rfl
    | succ k ih => rw [List.replicate_succ', List.foldl_append, ih]; rfl
  simp only [hexValue, List.foldl_append, hz]

theorem hexValue_hexDigits (w n : Nat) : hexValue (hexDigits w n).toList = n := by
  simp [hexDigits, hexValue_replicate_zero, hexValue_toDigits]

/-- **No two draws give the same id.** -/
theorem drawn_injective {a b : Nat} (h : drawn a = drawn b) : a = b := by
  unfold drawn at h
  have hd := (String.append_right_inj _).1 h
  rw [← hexValue_hexDigits 12 a, ← hexValue_hexDigits 12 b, hd]

theorem head_drawn (k : Nat) : (drawn k).toList.head? = some 'f' := by
  have hp : "ffffffff-0000-4000-8000-".toList.head? = some 'f' := by decide
  unfold drawn
  rw [String.toList_append, List.head?_append, hp]
  rfl

/-- No draw gives the id of a sample recipe: those start with `0`. -/
theorem drawn_ne_seed (k : Nat) : ∀ r ∈ Seed.recipes, drawn k ≠ r.id := by
  intro r hr he
  have h := head_drawn k
  rw [he] at h
  simp only [Seed.recipes, List.mem_cons, List.not_mem_nil, or_false] at hr
  rcases hr with rfl | rfl | rfl | rfl | rfl <;> revert h <;> decide

/-! ## The shape of a UUID -/

theorem isHex_digitChar {d : Nat} (hd : d < 16) :
    ((Nat.digitChar d).isDigit || ('a' ≤ Nat.digitChar d && Nat.digitChar d ≤ 'f') ||
      ('A' ≤ Nat.digitChar d && Nat.digitChar d ≤ 'F')) = true := by
  interval_cases d <;> decide

theorem mem_toDigits {n : Nat} {c : Char} (h : c ∈ Nat.toDigits 16 n) :
    ∃ d < 16, c = Nat.digitChar d := by
  induction n using Nat.strong_induction_on with
  | _ n ih =>
    rw [Nat.toDigits_eq_if (by decide)] at h
    split at h
    · rename_i hn
      exact ⟨n, hn, List.mem_singleton.1 h⟩
    · rcases List.mem_append.1 h with h | h
      · exact ih (n / 16) (by omega) h
      · exact ⟨n % 16, Nat.mod_lt _ (by decide), List.mem_singleton.1 h⟩

theorem hexDigits_twelve {k : Nat} (hk : k < 16 ^ 12) :
    (hexDigits 12 k).toList.length = 12 ∧
      ∀ c ∈ (hexDigits 12 k).toList, ∃ d < 16, c = Nat.digitChar d := by
  have hl : (Nat.toDigits 16 k).length ≤ 12 := Nat.toDigits_length 16 k 12 (by decide) hk
  simp only [hexDigits, String.toList_ofList, List.length_append, List.length_replicate,
    List.mem_append, List.mem_replicate]
  refine ⟨by omega, ?_⟩
  rintro c (⟨_, rfl⟩ | hc)
  · exact ⟨0, by decide, rfl⟩
  · exact mem_toDigits hc

/-- The ids of the first `16^12 - 1` draws have the shape of a UUID. -/
theorem isUuid_drawn {k : Nat} (hk : k < 16 ^ 12) :
    Field.isUuid (Text.ofString (drawn k)) = true := by
  obtain ⟨hlen, hdig⟩ := hexDigits_twelve hk
  have hp : "ffffffff-0000-4000-8000-".toList = ['f', 'f', 'f', 'f', 'f', 'f', 'f', 'f', '-', '0',
      '0', '0', '0', '-', '4', '0', '0', '0', '-', '8', '0', '0', '0', '-'] := by simp
  unfold Field.isUuid Text.ofString drawn
  rw [String.toList_append, hp, List.map_append]
  generalize (hexDigits 12 k).toList = H at hlen hdig
  simp only [List.length_append, Bool.and_eq_true, beq_iff_eq, List.all_eq_true, List.mem_range]
  refine ⟨by simp [hlen], fun x hx => ?_⟩
  by_cases h24 : x < 24
  · -- the fixed head: eight `f`s and the hyphens in place
    rw [List.getD_append _ _ _ _ (by simpa using h24)]
    revert x
    decide
  · -- the twelve digits of the number
    have hx' : x - 24 < H.length := by omega
    rw [List.getD_append_right _ _ _ _ (by simp; omega)]
    simp only [List.length_map, List.length_cons, List.length_nil]
    rw [List.getD_eq_getElem _ _ (by simpa using hx')]
    obtain ⟨d, hd, hc⟩ := hdig _ (List.getElem_mem hx')
    have hnot : (x == 8 || x == 13 || x == 18 || x == 23) = false := by simp; omega
    simp only [hnot, Bool.false_eq_true, if_false, List.getElem_map, hc]
    exact isHex_digitChar hd

theorem isUuid_seed : ∀ r ∈ Seed.recipes, Field.isUuid (Text.ofString r.id) = true := by
  simp only [Seed.recipes, List.mem_cons, List.not_mem_nil, or_false]
  rintro r (rfl | rfl | rfl | rfl | rfl) <;> decide

end Ids

end RecipeCatalog
