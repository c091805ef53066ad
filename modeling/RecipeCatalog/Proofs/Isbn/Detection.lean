import Mathlib
import RecipeCatalog.Isbn

/-!
# What the check digit of an ISBN detects

A reference code is checked on its significant part, the points left once hyphens and spaces
are dropped, by a weighted sum of the values of its places: the weights 10, 9, …, 1 modulo 11
for an ISBN-10, where `X` is worth 10, and the weights 1, 3, 1, 3, … modulo 10 for an ISBN-13.
Every weight is prime to its modulus, eleven is prime, and two values of a place of an ISBN-10
differ by less than eleven; so for every code that passes,

* `Isbn.check_separator` — hyphens and spaces may be put in or taken out anywhere;
* `Isbn.check_replace` — changing one place to a point of another value makes it fail;
* `Isbn.check_swap` — exchanging two places of different values of an ISBN-10 makes it fail.

`Isbn.check_detects_errors` gathers the three.
-/

set_option autoImplicit false

namespace RecipeCatalog

namespace Isbn

/-! ## Hyphens and spaces -/

/-- Whether a point is kept in the significant part. -/
def kept (p : Point) : Bool := p != .char '-' && p != .char ' '

theorem significant_append (a b : List Point) :
    significant ⟨a ++ b⟩ = significant ⟨a⟩ ++ significant ⟨b⟩ := by
  simp [significant]

theorem significant_cons (p : Point) (ps : List Point) :
    significant ⟨p :: ps⟩ = (if kept p then [p] else []) ++ significant ⟨ps⟩ := by
  unfold significant kept
  by_cases h : (p != .char '-' && p != .char ' ') = true
  · simp only [List.filter_cons, h, if_true]
    rfl
  · simp only [List.filter_cons, Bool.not_eq_true] at h ⊢
    simp [h]

/-- **Hyphens and spaces may be put in or taken out anywhere.** -/
theorem check_separator (pre post : List Point) {sep : Point} (hsep : kept sep = false) :
    check ⟨pre ++ sep :: post⟩ = check ⟨pre ++ post⟩ := by
  unfold check
  rw [significant_append, significant_append, significant_cons, hsep]
  rfl

/-! ## Weighted sums -/

/-- The sum of values weighted by their places, the first place being `n`. -/
def weighted (w : Nat → Nat) (n : Nat) : List Nat → Nat
  | [] => 0
  | d :: ds => w n * d + weighted w (n + 1) ds

/-- The weight of place `i` of an ISBN-10. -/
def weight10 (i : Nat) : Nat := 10 - i

/-- The weight of place `i` of an ISBN-13. -/
def weight13 (i : Nat) : Nat := if i % 2 == 1 then 3 else 1

theorem weighted_append (w : Nat → Nat) (n : Nat) (a b : List Nat) :
    weighted w n (a ++ b) = weighted w n a + weighted w (n + a.length) b := by
  induction a generalizing n with
  | nil => simp [weighted]
  | cons d a ih =>
    simp only [List.cons_append, weighted, ih, List.length_cons]
    rw [Nat.add_assoc, Nat.add_comm a.length 1, Nat.add_assoc]

/-- Changing the value at one place changes the sum by the weight of the place. -/
theorem weighted_set (w : Nat → Nat) (n : Nat) (ds : List Nat) {k : Nat} (hk : k < ds.length)
    (x : Nat) :
    weighted w n (ds.set k x) + w (n + k) * ds[k] = weighted w n ds + w (n + k) * x := by
  induction ds generalizing n k with
  | nil => simp at hk
  | cons d ds ih =>
    cases k with
    | zero => simp only [List.set_cons_zero, weighted, List.getElem_cons_zero, Nat.add_zero]; omega
    | succ k =>
      have := ih (n + 1) (k := k) (by simpa using hk)
      simp only [List.set_cons_succ, weighted, List.getElem_cons_succ]
      rw [show n + (k + 1) = n + 1 + k by omega]
      omega

/-- The model's ISBN-10 sum over the first nine places is the weighted sum. -/
theorem foldr_sum10 (ds : List Nat) (n : Nat) :
    (ds.zipIdx n).foldr (fun (d, i) acc => (10 - i) * d + acc) 0 = weighted weight10 n ds := by
  induction ds generalizing n with
  | nil => rfl
  | cons d ds ih => simp [List.zipIdx_cons, weighted, weight10, ih]

theorem foldr_sum13 (ds : List Nat) (n : Nat) :
    (ds.zipIdx n).foldr (fun (d, i) acc => (if i % 2 == 1 then 3 * d else d) + acc) 0 =
      weighted weight13 n ds := by
  induction ds generalizing n with
  | nil => rfl
  | cons d ds ih =>
    simp only [List.zipIdx_cons, List.foldr_cons, weighted, weight13, ih]
    split <;> simp

/-! ## The value of a place -/

/-- The value of a point at a place of an ISBN: a digit's, 10 for `X` and `x`, else zero. -/
def value (p : Point) : Nat := (lastValue? p).getD 0

theorem digit?_char (c : Char) :
    digit? (.char c) = if c.isDigit then some (c.toNat - 48) else none := rfl

theorem bounds_of_isDigit {c : Char} (h : c.isDigit = true) : 48 ≤ c.toNat ∧ c.toNat ≤ 57 := by
  simp only [Char.isDigit, Bool.and_eq_true, decide_eq_true_eq] at h
  exact ⟨UInt32.le_iff_toNat_le.1 h.1, UInt32.le_iff_toNat_le.1 h.2⟩

/-- A digit is worth what its digit says, at most nine. -/
theorem lastValue?_of_isDigit {p : Point} (h : isDigit p = true) :
    lastValue? p = digit? p ∧ digit? p = some (value p) ∧ value p ≤ 9 := by
  cases p with
  | lone s => simp [isDigit, digit?] at h
  | char c =>
    have hc : c.isDigit = true := by simpa [isDigit, digit?] using h
    have hb := bounds_of_isDigit hc
    have hX : c ≠ 'X' := by rintro rfl; simp at hb
    have hx : c ≠ 'x' := by rintro rfl; simp at hb
    have hl : lastValue? (.char c) = digit? (.char c) := by
      unfold lastValue?
      split <;> simp_all
    refine ⟨hl, ?_, ?_⟩ <;> simp only [value, hl, digit?_char, hc, if_true, Option.getD_some]
    omega

theorem lastValue?_eq_value {p : Point} (h : (lastValue? p).isSome = true) :
    lastValue? p = some (value p) := by
  unfold value
  cases hp : lastValue? p with
  | none => simp [hp] at h
  | some v => rfl

/-- A point with a place value is a digit, or `X` or `x`. -/
theorem isDigit_or_ten {p : Point} (h : (lastValue? p).isSome = true) :
    isDigit p = true ∨ value p = 10 := by
  unfold value lastValue? at *
  split
  · exact .inr rfl
  · exact .inr rfl
  · rename_i q _ _
    left
    simpa [isDigit] using h

theorem value_le_ten (p : Point) : value p ≤ 10 := by
  cases h : lastValue? p with
  | none => simp [value, h]
  | some v =>
    rcases isDigit_or_ten (by rw [h]; rfl) with hd | h10
    · exact (lastValue?_of_isDigit hd).2.2.trans (by omega)
    · exact h10.le

/-! ## The forms of a significant part -/

/-- What may stand at place `i` of an ISBN-10: a digit, and at the last place also `X`. -/
def fits10 (i : Nat) (p : Point) : Bool := if i < 9 then isDigit p else (lastValue? p).isSome

theorem fits10_of_isDigit {p : Point} (h : isDigit p = true) (i : Nat) : fits10 i p = true := by
  unfold fits10
  split
  · exact h
  · rw [(lastValue?_of_isDigit h).1, (lastValue?_of_isDigit h).2.1]
    rfl

theorem form10_iff {ps : List Point} :
    form10 ps = true ↔ ps.length = 10 ∧ ∀ i (h : i < ps.length), fits10 i ps[i] = true := by
  simp only [form10, Bool.and_eq_true, beq_iff_eq, List.all_eq_true]
  constructor
  · rintro ⟨⟨hl, h9⟩, hlast⟩
    refine ⟨hl, fun i hi => ?_⟩
    unfold fits10
    split
    · exact h9 _ (List.mem_iff_getElem.2 ⟨i, by simp; omega, by simp⟩)
    · exact hlast _ (List.mem_iff_getElem.2 ⟨i - 9, by simp; omega, by simp; congr; omega⟩)
  · rintro ⟨hl, hfit⟩
    refine ⟨⟨hl, fun p hp => ?_⟩, fun p hp => ?_⟩
    · obtain ⟨i, hi, rfl⟩ := List.mem_iff_getElem.1 hp
      have := hfit i (by simp at hi; omega)
      simp only [List.getElem_take]
      simpa [fits10, show i < 9 by simp at hi; omega] using this
    · obtain ⟨i, hi, rfl⟩ := List.mem_iff_getElem.1 hp
      have := hfit (9 + i) (by simp at hi; omega)
      simp only [List.getElem_drop]
      simpa [fits10] using this

/-- A significant part ends after its places, or after one line feed. -/
def Ending (ps : List Point) (n : Nat) : Prop :=
  ps.length = n ∨ (ps.length = n + 1 ∧ ps.getLast? = some (.char '\n'))

theorem withLineEnd_iff {ps : List Point} {n : Nat} {form : List Point → Bool} :
    withLineEnd ps n form = true ↔ form (ps.take n) = true ∧ Ending ps n := by
  unfold withLineEnd Ending
  simp only [Bool.or_eq_true, Bool.and_eq_true, beq_iff_eq]
  constructor
  · rintro (⟨hl, hf⟩ | ⟨⟨hl, he⟩, hf⟩)
    · exact ⟨by rw [List.take_of_length_le (by omega)]; exact hf, .inl hl⟩
    · exact ⟨hf, .inr ⟨hl, he⟩⟩
  · rintro ⟨hf, hl | ⟨hl, he⟩⟩
    · exact .inl ⟨hl, by rwa [List.take_of_length_le (by omega)] at hf⟩
    · exact .inr ⟨⟨hl, he⟩, hf⟩

/-- A change before the last place keeps how a significant part ends. -/
theorem ending_set {ps : List Point} {n k : Nat} (hk : k < n) (q : Point) :
    Ending (ps.set k q) n ↔ Ending ps n := by
  unfold Ending
  rw [List.length_set]
  constructor <;> rintro (hl | ⟨hl, he⟩)
  · exact .inl hl
  · refine .inr ⟨hl, ?_⟩
    rwa [List.getLast?_eq_getElem?, List.length_set, List.getElem?_set_ne (by omega),
      ← List.getLast?_eq_getElem?] at he
  · exact .inl hl
  · refine .inr ⟨hl, ?_⟩
    rwa [List.getLast?_eq_getElem?, List.length_set, List.getElem?_set_ne (by omega),
      ← List.getLast?_eq_getElem?]

/-- The places of an ISBN-10 that ends in a line feed stop before it. -/
theorem lt_ten_of_ending {ps : List Point} (he : Ending ps 10) {k : Nat} (hk : k < ps.length)
    (hp : (lastValue? ps[k]).isSome = true) : k < 10 := by
  rcases he with hl | ⟨hl, hlast⟩
  · omega
  · by_contra hge
    have hk10 : k = 10 := by omega
    subst hk10
    rw [List.getLast?_eq_getElem?, hl, List.getElem?_eq_getElem hk] at hlast
    rw [Option.some.inj hlast] at hp
    simp [lastValue?, digit?] at hp

/-! ## The verdict on each form -/

section Verdict

variable {code : Text}

/-- The weighted sum of the ten places of an ISBN-10. -/
def total10 (ps : List Point) : Nat := weighted weight10 0 ((ps.take 10).map value)

/-- The weighted sum of the places of an ISBN-13. -/
def total13 (ps : List Point) : Nat := weighted weight13 0 (ps.map value)

theorem filterMap_digit? {ps : List Point} (h : ∀ p ∈ ps, isDigit p = true) :
    ps.filterMap digit? = ps.map value := by
  induction ps with
  | nil => rfl
  | cons p ps ih =>
    have hp := (lastValue?_of_isDigit (h p List.mem_cons_self)).2.1
    rw [List.filterMap_cons, hp, List.map_cons, ih fun q hq => h q (List.mem_cons_of_mem p hq)]

/-- An ISBN-10 passes exactly when its weighted sum is a multiple of eleven. -/
theorem check_of_ten (h : withLineEnd (significant code) 10 form10 = true) :
    check code = .ok (total10 (significant code) % 11 == 0) := by
  obtain ⟨hf, -⟩ := withLineEnd_iff.1 h
  obtain ⟨hl, hfit⟩ := form10_iff.1 hf
  generalize hps : significant code = ps at *
  have h9 : 9 < ps.length := by simp at hl; omega
  have hdig : ∀ p ∈ ps.take 9, isDigit p = true := by
    intro p hp
    obtain ⟨i, hi, rfl⟩ := List.mem_iff_getElem.1 hp
    have := hfit i (by simp at hi ⊢; omega)
    simpa [fits10, show i < 9 by simp at hi; omega] using this
  have hlast : (lastValue? ps[9]).isSome = true := by
    have := hfit 9 (by rw [hl]; omega)
    simp only [List.getElem_take] at this
    simpa [fits10] using this
  have htake : (ps.take 10).map value = (ps.take 9).map value ++ [value ps[9]] := by
    rw [List.take_add_one (i := 9), List.getElem?_eq_getElem h9]
    simp only [Option.toList_some, List.map_append, List.map_cons, List.map_nil]
  have hsum : sum10 ((ps.take 9).filterMap digit?) (((ps.drop 9).head?.bind lastValue?).getD 0) =
      total10 ps := by
    rw [total10, htake, weighted_append, filterMap_digit? hdig, sum10, foldr_sum10,
      List.head?_drop, List.getElem?_eq_getElem h9, Option.bind_some, lastValue?_eq_value hlast]
    simp [weighted, weight10, Nat.min_eq_left h9.le]
  unfold check
  rw [hps, if_pos h]
  dsimp only
  rw [hsum]

/-- An ISBN-13 passes exactly when its weighted sum is a multiple of ten. -/
theorem check_of_thirteen (h : form13 (significant code) = true) :
    check code = .ok (total13 (significant code) % 10 == 0) := by
  simp only [form13, Bool.and_eq_true, beq_iff_eq, List.all_eq_true] at h
  obtain ⟨hl, hdig⟩ := h
  have h10 : withLineEnd (significant code) 10 form10 = false := by
    simp [withLineEnd, form10, hl]
  have h13 : withLineEnd (significant code) 13 form13 = true := by
    simp [withLineEnd, form13, hl, List.all_eq_true.2 hdig]
  unfold check
  simp only [h10, h13, hl, Bool.false_eq_true, if_false, if_true, beq_self_eq_true]
  rw [filterMap_digit? hdig, sum13, foldr_sum13]
  rfl

theorem check_of_neither (h10 : withLineEnd (significant code) 10 form10 = false)
    (h13 : withLineEnd (significant code) 13 form13 = false) : check code = .ok false := by
  unfold check
  simp only [h10, h13, Bool.false_eq_true, if_false]

/-- A code that passes is an ISBN-10 with a weighted sum that eleven divides, or an ISBN-13
with one that ten divides. -/
theorem form_of_check (h : check code = .ok true) :
    (withLineEnd (significant code) 10 form10 = true ∧ total10 (significant code) % 11 = 0) ∨
      (form13 (significant code) = true ∧ total13 (significant code) % 10 = 0) := by
  by_cases h10 : withLineEnd (significant code) 10 form10 = true
  · rw [check_of_ten h10] at h
    exact .inl ⟨h10, by simpa using h⟩
  · by_cases h13 : form13 (significant code) = true
    · rw [check_of_thirteen h13] at h
      exact .inr ⟨h13, by simpa using h⟩
    · -- thirteen places and a line feed fault; anything else fails
      unfold check at h
      dsimp only at h
      rw [if_neg h10] at h
      split at h
      · rename_i hw
        split at h
        · rename_i hl
          obtain ⟨hf, -⟩ := withLineEnd_iff.1 hw
          rw [List.take_of_length_le (by simp at hl; omega)] at hf
          exact absurd hf h13
        · cases h
      · cases h

end Verdict

/-! ## Changing places -/

/-- Changing one place of an ISBN-10 changes its sum by the weight of the place. -/
theorem total10_set (ps : List Point) {k : Nat} (hk : k < 10) (hl : k < ps.length) (q : Point) :
    total10 (ps.set k q) + weight10 k * value ps[k] = total10 ps + weight10 k * value q := by
  have hk' : k < ((ps.take 10).map value).length := by simp; omega
  have := weighted_set weight10 0 ((ps.take 10).map value) hk' (value q)
  simp only [Nat.zero_add, List.getElem_map, List.getElem_take] at this
  rw [total10, List.take_set, List.map_set]
  exact this

theorem total13_set (ps : List Point) {k : Nat} (hl : k < ps.length) (q : Point) :
    total13 (ps.set k q) + weight13 k * value ps[k] = total13 ps + weight13 k * value q := by
  have hk' : k < (ps.map value).length := by simp; omega
  have := weighted_set weight13 0 (ps.map value) hk' (value q)
  simp only [Nat.zero_add, List.getElem_map] at this
  rw [total13, List.map_set]
  exact this

/-- Two sums that differ by a product of two numbers that eleven does not divide are not both
multiples of eleven: eleven is prime. -/
theorem mod_eleven_ne {a b : Nat} {w d : ℤ} (hab : (b : ℤ) + w * d = a) (hw : 0 < w ∧ w < 11)
    (hd : d ≠ 0 ∧ -11 < d ∧ d < 11) (ha : a % 11 = 0) : b % 11 ≠ 0 := by
  intro hb
  have hdvd : ((11 : Nat) : ℤ) ∣ w * d := by push_cast; omega
  rcases Int.Prime.dvd_mul' (by norm_num) hdvd with h | h <;> push_cast at h <;> omega

/-- A form of ISBN-10 kept by a change at place `k`. -/
theorem ten_set {ps : List Point} (h : withLineEnd ps 10 form10 = true) {k : Nat} (hk : k < 10)
    {q : Point} (hq : fits10 k q = true) : withLineEnd (ps.set k q) 10 form10 = true := by
  obtain ⟨hf, he⟩ := withLineEnd_iff.1 h
  obtain ⟨hl, hfit⟩ := form10_iff.1 hf
  refine withLineEnd_iff.2 ⟨form10_iff.2 ⟨by simpa [List.take_set] using hl, fun i hi => ?_⟩,
    (ending_set hk q).2 he⟩
  simp only [List.take_set, List.getElem_set]
  split
  · rename_i hki
    exact hki ▸ hq
  · exact hfit i (by simpa using hi)

/-- Ten places, perhaps followed by a line feed, with a point where it cannot stand in an ISBN-10,
are of neither form. -/
theorem neither_of_not_fits {ps : List Point} (hlen : ps.length = 10 ∨ ps.length = 11) {k : Nat}
    (hk : k < 10) (hq : fits10 k (ps[k]) = false) :
    withLineEnd ps 10 form10 = false ∧ withLineEnd ps 13 form13 = false := by
  constructor
  · rw [← Bool.not_eq_true, withLineEnd_iff, form10_iff]
    rintro ⟨⟨-, hfit⟩, -⟩
    have := hfit k (by simp only [List.length_take]; omega)
    simp only [List.getElem_take] at this
    rw [this] at hq
    cases hq
  · rw [← Bool.not_eq_true, withLineEnd_iff]
    rintro ⟨-, hl | ⟨hl, -⟩⟩ <;> omega

/-- In an ISBN-10 that passes, a place changed to another value makes the code fail: the sum
moves by a multiple of the place's weight that eleven does not divide, or an `X` comes to stand
before the last place. -/
theorem check_set_ten {code' : Text} {ps : List Point} {k : Nat} {q : Point}
    (h10 : withLineEnd ps 10 form10 = true) (hsum : total10 ps % 11 = 0) (hk : k < ps.length)
    (hs : significant code' = ps.set k q) (hp : (lastValue? ps[k]).isSome = true)
    (hv : value q ≠ value ps[k]) : check code' = .ok false := by
  have hk10 := lt_ten_of_ending (withLineEnd_iff.1 h10).2 hk hp
  cases hfit : fits10 k q with
  | true =>
    rw [check_of_ten (hs ▸ ten_set h10 hk10 hfit), hs]
    have hw : 0 < weight10 k ∧ weight10 k < 11 := by unfold weight10; omega
    have hne := mod_eleven_ne (a := total10 ps) (b := total10 (ps.set k q))
      (w := weight10 k) (d := (value ps[k] : ℤ) - value q)
      (by have h := total10_set ps hk10 hk q; zify at h; linear_combination h)
      (by exact_mod_cast hw)
      (by have := value_le_ten q; have := value_le_ten ps[k]; omega) hsum
    simpa using hne
  | false =>
    have hlen : (ps.set k q).length = 10 ∨ (ps.set k q).length = 11 := by
      rw [List.length_set]
      rcases (withLineEnd_iff.1 h10).2 with hl | ⟨hl, -⟩ <;> omega
    obtain ⟨h10', h13'⟩ := neither_of_not_fits hlen hk10 (by simpa using hfit)
    exact check_of_neither (hs ▸ h10') (hs ▸ h13')

/-- In an ISBN-13 that passes, a digit changed to another value makes the code fail: the sum
moves by the change times one or three, or a letter comes to stand among the digits. -/
theorem check_set_thirteen {code' : Text} {ps : List Point} {k : Nat} {q : Point}
    (h13 : form13 ps = true) (hsum : total13 ps % 10 = 0) (hk : k < ps.length)
    (hs : significant code' = ps.set k q) (hv : value q ≠ value ps[k]) :
    check code' = .ok false := by
  simp only [form13, Bool.and_eq_true, beq_iff_eq, List.all_eq_true] at h13
  obtain ⟨hl, hdig⟩ := h13
  have hp9 := (lastValue?_of_isDigit (hdig _ (List.getElem_mem hk))).2.2
  by_cases hqd : isDigit q = true
  · have h13' : form13 (significant code') = true := by
      simp only [form13, hs, List.length_set, hl, Bool.and_eq_true, beq_iff_eq, List.all_eq_true,
        true_and]
      intro x hx
      rcases List.mem_or_eq_of_mem_set hx with hx | rfl
      · exact hdig x hx
      · exact hqd
    rw [check_of_thirteen h13', hs]
    have hq9 := (lastValue?_of_isDigit hqd).2.2
    have := total13_set ps hk q
    have hw : weight13 k = 1 ∨ weight13 k = 3 := by unfold weight13; split <;> simp
    simp only [beq_eq_false_iff_ne, ne_eq, Except.ok.injEq]
    rcases hw with hw | hw <;> rw [hw] at this <;> omega
  · -- a letter among thirteen places: neither form
    apply check_of_neither
    · simp [withLineEnd, form10, hs, hl]
    · rw [← Bool.not_eq_true, withLineEnd_iff, hs]
      rintro ⟨hf, -⟩
      simp only [form13, List.take_set, Bool.and_eq_true, List.all_eq_true] at hf
      exact hqd (hf.2 q (List.mem_set (by simp; omega) q))

/-- **A code that passes fails once one of its places is changed to a point of another
value.** -/
theorem check_set {code code' : Text} {ps : List Point} {k : Nat} {q : Point}
    (hps : significant code = ps) (h : check code = .ok true) (hk : k < ps.length)
    (hs : significant code' = ps.set k q) (hp : (lastValue? ps[k]).isSome = true)
    (hv : value q ≠ value ps[k]) : check code' = .ok false := by
  rcases form_of_check h with ⟨h10, hsum⟩ | ⟨h13, hsum⟩
  · rw [hps] at h10 hsum
    exact check_set_ten h10 hsum hk hs hp hv
  · rw [hps] at h13 hsum
    exact check_set_thirteen h13 hsum hk hs hv

/-- **An ISBN-10 that passes fails once two of its places of different values are
exchanged.** -/
theorem check_exchange {code code' : Text} {ps : List Point} {i j : Nat}
    (hps : significant code = ps) (h : check code = .ok true) (hlen : ps.length = 10)
    (hij : i < j) (hj : j < 10)
    (hs : significant code' = (ps.set i (ps[j])).set j (ps[i]))
    (hv : value (ps[i]) ≠ value (ps[j])) : check code' = .ok false := by
  rcases form_of_check h with ⟨h10, hsum⟩ | ⟨h13, -⟩
  · rw [hps] at h10 hsum
    have hfit := (form10_iff.1 (withLineEnd_iff.1 h10).1).2
    have hdi : isDigit ps[i] = true := by
      have := hfit i (by simp; omega)
      simpa [fits10, show i < 9 by omega] using this
    by_cases hdj : isDigit ps[j] = true
    · -- two digits exchanged: the form stays, the sum moves by `(j - i) * (v i - v j)`
      have h1 := ten_set h10 (by omega : i < 10) (fits10_of_isDigit hdj i)
      have h2 := ten_set h1 hj (fits10_of_isDigit hdi j)
      rw [check_of_ten (hs ▸ h2), hs]
      have s1 := total10_set ps (by omega : i < 10) (by omega) ps[j]
      have s2 := total10_set (ps.set i ps[j]) hj (by simp; omega) ps[i]
      have hjl : j < (ps.set i ps[j]).length := by simp; omega
      have hj' : (ps.set i ps[j])[j] = ps[j] := by
        rw [List.getElem_set_ne (by omega)]
      rw [hj'] at s2
      have hne := mod_eleven_ne (a := total10 ps) (b := total10 ((ps.set i ps[j]).set j ps[i]))
        (w := (j : ℤ) - i) (d := (value ps[i] : ℤ) - value ps[j])
        (by zify at s1 s2; unfold weight10 at s1 s2; push_cast [show i ≤ 10 by omega,
          show j ≤ 10 by omega] at s1 s2; linear_combination s2 + s1)
        (by omega) (by have := value_le_ten ps[i]; have := value_le_ten ps[j]; omega) hsum
      simpa using hne
    · -- the `X` of the last place moved before it, where it cannot stand
      have hlen' : ((ps.set i ps[j]).set j ps[i]).length = 10 := by simp [hlen]
      have hil : i < ((ps.set i ps[j]).set j ps[i]).length := by simp; omega
      have hat : ((ps.set i ps[j]).set j ps[i])[i] = ps[j] := by
        rw [List.getElem_set_ne (by omega), List.getElem_set_self]
      obtain ⟨h10', h13'⟩ := neither_of_not_fits (.inl hlen') (by omega : i < 10)
        (by simp only [hat, fits10, show i < 9 by omega, if_true]; simpa using hdj)
      exact check_of_neither (hs ▸ h10') (hs ▸ h13')
  · simp only [form13, Bool.and_eq_true, beq_iff_eq, hps, hlen] at h13
    omega

/-! ## Edits of a code -/

theorem kept_of_isSome {p : Point} (h : (lastValue? p).isSome = true) : kept p = true := by
  have h1 : p ≠ .char '-' := by rintro rfl; revert h; decide
  have h2 : p ≠ .char ' ' := by rintro rfl; revert h; decide
  simp [kept, h1, h2]

theorem significant_place (pre post : List Point) {p : Point} (hp : kept p = true) :
    significant ⟨pre ++ p :: post⟩ = significant ⟨pre⟩ ++ p :: significant ⟨post⟩ := by
  rw [significant_append, significant_cons, hp]
  rfl

theorem value_ne {p q : Point} (hp : (lastValue? p).isSome = true)
    (hq : (lastValue? q).isSome = true) (h : lastValue? p ≠ lastValue? q) : value p ≠ value q := by
  intro hv
  rw [lastValue?_eq_value hp, lastValue?_eq_value hq, hv] at h
  exact h rfl

/-- **A code that passes fails once one of its places, a digit or the `X` of an ISBN-10, is
changed to a digit, `X` or `x` of another value.** -/
theorem check_replace {pre post : List Point} {p q : Point}
    (h : check ⟨pre ++ p :: post⟩ = .ok true) (hp : (lastValue? p).isSome = true)
    (hq : (lastValue? q).isSome = true) (hpq : lastValue? q ≠ lastValue? p) :
    check ⟨pre ++ q :: post⟩ = .ok false := by
  have hsp := significant_place pre post (kept_of_isSome hp)
  have hsq := significant_place pre post (kept_of_isSome hq)
  generalize significant ⟨pre⟩ = S, significant ⟨post⟩ = T at hsp hsq
  have hat : (S ++ p :: T)[S.length] = p := by simp
  refine check_set hsp h (k := S.length) (by simp) ?_ (by rw [hat]; exact hp)
    (by rw [hat]; exact value_ne hq hp hpq)
  rw [hsq, List.set_append_right _ _ (le_refl _)]
  simp

/-- **An ISBN-10 that passes fails once two of its places of different values are exchanged.** -/
theorem check_swap {a b e : List Point} {p q : Point}
    (h : check ⟨a ++ p :: b ++ q :: e⟩ = .ok true)
    (hlen : (significant ⟨a ++ p :: b ++ q :: e⟩).length = 10)
    (hp : (lastValue? p).isSome = true) (hq : (lastValue? q).isSome = true)
    (hpq : lastValue? p ≠ lastValue? q) : check ⟨a ++ q :: b ++ p :: e⟩ = .ok false := by
  -- the significant part is `A ++ p :: B ++ q :: E`, with `p` at place `i` and `q` at `j`
  have hsig : ∀ x y : Point, kept x = true → kept y = true →
      significant ⟨a ++ x :: b ++ y :: e⟩ =
        significant ⟨a⟩ ++ x :: (significant ⟨b⟩ ++ y :: significant ⟨e⟩) := by
    intro x y hx hy
    rw [List.append_assoc, List.cons_append, significant_place _ _ hx, significant_place _ _ hy]
  have hs := hsig p q (kept_of_isSome hp) (kept_of_isSome hq)
  have hs' := hsig q p (kept_of_isSome hq) (kept_of_isSome hp)
  generalize significant ⟨a⟩ = A, significant ⟨b⟩ = B, significant ⟨e⟩ = E at hs hs'
  have hjl : A.length + 1 + B.length < (A ++ p :: (B ++ q :: E)).length := by simp; omega
  have hi : (A ++ p :: (B ++ q :: E))[A.length] = p := by simp
  have hj : (A ++ p :: (B ++ q :: E))[A.length + 1 + B.length] = q := by
    rw [List.getElem_append_right (by omega)]
    simp [show A.length + 1 + B.length - A.length = B.length + 1 by omega]
  rw [hs] at hlen
  refine check_exchange hs h hlen (i := A.length) (j := A.length + 1 + B.length) (by omega)
    (by simp at hlen; omega) ?_ ?_
  · simp only [hs', hi, hj]
    rw [List.set_append_right _ _ (le_refl _), List.set_append_right _ _ (by omega)]
    simp [show A.length + 1 + B.length - A.length = B.length + 1 by omega]
  · simp only [hi, hj]
    exact value_ne hp hq hpq

/-- **What the check digit detects.** Hyphens and spaces may be put in or taken out anywhere;
and for every code that passes, changing one place (a digit, or the `X` of an ISBN-10) to a
digit, `X` or `x` of another value makes it fail, and so does exchanging two places of
different values of an ISBN-10. -/
theorem check_detects_errors :
    (∀ pre post : List Point, ∀ sep : Point, sep = .char '-' ∨ sep = .char ' ' →
      check ⟨pre ++ sep :: post⟩ = check ⟨pre ++ post⟩) ∧
    (∀ pre post : List Point, ∀ p q : Point, check ⟨pre ++ p :: post⟩ = .ok true →
      (lastValue? p).isSome = true → (lastValue? q).isSome = true →
      lastValue? q ≠ lastValue? p → check ⟨pre ++ q :: post⟩ = .ok false) ∧
    (∀ a b e : List Point, ∀ p q : Point, check ⟨a ++ p :: b ++ q :: e⟩ = .ok true →
      (significant ⟨a ++ p :: b ++ q :: e⟩).length = 10 →
      (lastValue? p).isSome = true → (lastValue? q).isSome = true →
      lastValue? p ≠ lastValue? q → check ⟨a ++ q :: b ++ p :: e⟩ = .ok false) := by
  refine ⟨fun pre post sep hsep => check_separator pre post ?_, fun _ _ _ _ => check_replace,
    fun _ _ _ _ _ => check_swap⟩
  rcases hsep with rfl | rfl <;> decide

/-- The ISBN-10 `0-306-40615-2` passes; without its hyphens it still does, and it fails with its
fourth digit changed or with its first two digits exchanged. -/
theorem check_detects_errors_sample :
    check ⟨(Text.ofString "0").points ++ .char '-' :: (Text.ofString "306-40615-2").points⟩ =
        check ⟨(Text.ofString "0").points ++ (Text.ofString "306-40615-2").points⟩ ∧
      check ⟨(Text.ofString "0-30").points ++ .char '6' :: (Text.ofString "-40615-2").points⟩ =
        .ok true ∧
      check ⟨(Text.ofString "0-30").points ++ .char '7' :: (Text.ofString "-40615-2").points⟩ =
        .ok false ∧
      check ⟨[] ++ .char '0' :: (Text.ofString "-").points ++ .char '3' ::
        (Text.ofString "06-40615-2").points⟩ = .ok true ∧
      check ⟨[] ++ .char '3' :: (Text.ofString "-").points ++ .char '0' ::
        (Text.ofString "06-40615-2").points⟩ = .ok false :=
  ⟨check_detects_errors.1 _ _ _ (.inl rfl), by decide,
    check_detects_errors.2.1 (Text.ofString "0-30").points (Text.ofString "-40615-2").points
      (.char '6') (.char '7') (by decide) (by decide) (by decide) (by decide),
    by decide,
    check_detects_errors.2.2 [] (Text.ofString "-").points (Text.ofString "06-40615-2").points
      (.char '0') (.char '3') (by decide) (by decide) (by decide) (by decide) (by decide)⟩

end Isbn

end RecipeCatalog
