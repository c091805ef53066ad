import Mathlib
import RecipeCatalog.Catalog.Store
import RecipeCatalog.Http.Rest

/-!
# Reading version tokens

A token carries a version when, after its leading ASCII blanks, it goes on with an optional sign
and at least one ASCII digit (`Version.StartsWithDigit`). The version is then the number that the
longest run of digits denotes (`Version.denoted`, leading zeros allowed), negated after a `-`;
whatever follows the digits is ignored (`Version.Carries`).

* `Version.read_eq_none_iff` — **a token is read as no version exactly when it does not go on,
  after its blanks, with an optional sign and a digit**;
* `Version.read_of_carries` — **otherwise it is read as the signed number its digits denote, as
  long as there are at most 4300 of them**; a longer run of digits is too long to convert and
  faults (`Version.read_faults_on_long_digits`);
* `Version.read_etag` — **the token a replacement takes from the entity tag of a version, the tag
  without its first and last character, reads back as that version.**

`Version.read_spec` gathers them, with a missing token refused by the update.
-/

set_option autoImplicit false

namespace RecipeCatalog

namespace Version

/-! ## What a token carries -/

/-- The signs a version may have: none, `+` or `-`, with whether it negates. -/
def Signed (sign : List Point) (neg : Bool) : Prop :=
  (sign = [] ∧ neg = false) ∨ (sign = [.char '+'] ∧ neg = false) ∨
    (sign = [.char '-'] ∧ neg = true)

/-- The number decimal digits denote, the most significant first. -/
def denoted (ds : List Point) : Nat := Nat.ofDigits 10 (ds.map fun p => p.code - 48).reverse

/-- A token goes on, after blanks, with an optional sign and a digit. -/
def StartsWithDigit (t : Text) : Prop :=
  ∃ blanks sign neg d rest, t.points = blanks ++ sign ++ d :: rest ∧
    (∀ p ∈ blanks, isBlank p = true) ∧ Signed sign neg ∧ isDigit d = true

/-- A token carries the digits `ds` under a sign: blanks, the sign, the digits, and then nothing
that continues them. -/
def Carries (t : Text) (neg : Bool) (ds : List Point) : Prop :=
  ∃ blanks sign rest, t.points = blanks ++ sign ++ ds ++ rest ∧
    (∀ p ∈ blanks, isBlank p = true) ∧ Signed sign neg ∧ ds ≠ [] ∧
    (∀ p ∈ ds, isDigit p = true) ∧ ∀ p ∈ rest.head?, isDigit p = false

theorem digitsValue_append (ds : List Point) (p : Point) :
    digitsValue (ds ++ [p]) = digitsValue ds * 10 + (p.code - 48) := by
  simp [digitsValue, List.foldl_append]

theorem digitsValue_eq_denoted (ds : List Point) : digitsValue ds = denoted ds := by
  induction ds using List.reverseRecOn with
  | nil => rfl
  | append_singleton ds p ih =>
    rw [digitsValue_append, ih, denoted, denoted, List.map_append, List.reverse_append]
    simp only [List.map_cons, List.map_nil, List.reverse_cons, List.reverse_nil, List.nil_append,
      List.singleton_append, Nat.ofDigits_cons]
    ring

theorem isBlank_of_isDigit {p : Point} (h : isDigit p = true) : isBlank p = false := by
  cases p with
  | lone s => rfl
  | char c =>
    have hc : 48 ≤ c.toNat ∧ c.toNat ≤ 57 := by
      simp only [isDigit, Char.isDigit, Bool.and_eq_true, decide_eq_true_eq] at h
      exact ⟨UInt32.le_iff_toNat_le.1 h.1, UInt32.le_iff_toNat_le.1 h.2⟩
    have hne : ∀ b : Char, b.toNat < 48 → c ≠ b := fun b hb hcb => by rw [hcb] at hc; omega
    simp only [isBlank, Bool.or_eq_false_iff, beq_eq_false_iff_ne]
    exact ⟨⟨⟨⟨⟨hne _ (by decide), hne _ (by decide)⟩, hne _ (by decide)⟩, hne _ (by decide)⟩,
      hne _ (by decide)⟩, hne _ (by decide)⟩

theorem dropWhile_of_carries {t : Text} {blanks sign ds rest : List Point} {neg : Bool}
    (ht : t.points = blanks ++ sign ++ ds ++ rest) (hb : ∀ p ∈ blanks, isBlank p = true)
    (hs : Signed sign neg) (hne : ds ≠ []) (hd : ∀ p ∈ ds, isDigit p = true) :
    t.points.dropWhile isBlank = sign ++ (ds ++ rest) := by
  obtain ⟨d, ds', rfl⟩ := List.exists_cons_of_ne_nil hne
  rw [ht, List.append_assoc, List.append_assoc, List.dropWhile_append_of_pos hb]
  rcases hs with ⟨rfl, -⟩ | ⟨rfl, -⟩ | ⟨rfl, -⟩
  · exact List.dropWhile_cons_of_neg (by simp [isBlank_of_isDigit (hd d List.mem_cons_self)])
  · exact List.dropWhile_cons_of_neg (by decide)
  · exact List.dropWhile_cons_of_neg (by decide)

/-! ## Reading in two steps: the sign, then the digits -/

/-- Whether the points after the blanks start with a sign that negates, and what follows it. -/
def splitSign (ps : List Point) : Bool × List Point :=
  match ps with
  | .char '-' :: r => (true, r)
  | .char '+' :: r => (false, r)
  | _ => (false, ps)

/-- What the reading answers for the points after the sign. -/
def fromRun (neg : Bool) (rest : List Point) : Except Fault (Option Int) :=
  let ds := rest.takeWhile isDigit
  if ds.isEmpty then .ok none
  else if ds.length > 4300 then .error (.tooManyDigits ds.length)
  else .ok (some (if neg then -(digitsValue ds : Int) else digitsValue ds))

/-- Reading splits off the sign after the blanks, then reads the digits that follow it. -/
theorem read_eq (t : Text) :
    read t = match splitSign (t.points.dropWhile isBlank) with
      | (neg, rest) => fromRun neg rest := by
  unfold read splitSign fromRun
  rfl

theorem signed_of_splitSign {ps r : List Point} {neg : Bool} (h : splitSign ps = (neg, r)) :
    ∃ sign, Signed sign neg ∧ ps = sign ++ r := by
  unfold splitSign at h
  split at h <;> cases h
  · exact ⟨[.char '-'], .inr (.inr ⟨rfl, rfl⟩), rfl⟩
  · exact ⟨[.char '+'], .inr (.inl ⟨rfl, rfl⟩), rfl⟩
  · exact ⟨[], .inl ⟨rfl, rfl⟩, rfl⟩

theorem splitSign_signed {sign r : List Point} {neg : Bool} {d : Point} (hs : Signed sign neg)
    (hd : isDigit d = true) : splitSign (sign ++ d :: r) = (neg, d :: r) := by
  rcases hs with ⟨rfl, rfl⟩ | ⟨rfl, rfl⟩ | ⟨rfl, rfl⟩
  · -- no sign: the digit is neither `-` nor `+`
    have hm : d ≠ .char '-' ∧ d ≠ .char '+' := by
      constructor <;> rintro rfl <;> revert hd <;> decide
    unfold splitSign
    split
    · rename_i r' heq
      exact absurd (List.cons.inj heq).1 hm.1
    · rename_i r' heq
      exact absurd (List.cons.inj heq).1 hm.2
    · rfl
  · rfl
  · rfl

theorem fromRun_of_takeWhile_eq_nil {neg : Bool} {rest : List Point}
    (h : rest.takeWhile isDigit = []) : fromRun neg rest = .ok none := by
  unfold fromRun
  rw [h]
  rfl

/-- Digits that stop where the rest begins come out whole, as long as there are at most 4300. -/
theorem fromRun_of_digits (neg : Bool) {ds rest : List Point} (hne : ds ≠ [])
    (hd : ∀ p ∈ ds, isDigit p = true) (hr : ∀ p ∈ rest.head?, isDigit p = false) :
    fromRun neg (ds ++ rest) =
      if ds.length ≤ 4300 then .ok (some (if neg then -(denoted ds : Int) else denoted ds))
        else .error (.tooManyDigits ds.length) := by
  have htake : (ds ++ rest).takeWhile isDigit = ds := by
    rw [List.takeWhile_append_of_pos hd]
    cases rest with
    | nil => simp
    | cons x r => rw [List.takeWhile_cons_of_neg (by simpa using hr x rfl), List.append_nil]
  unfold fromRun
  rw [htake]
  by_cases hlen : ds.length ≤ 4300
  · rw [if_pos hlen, if_neg (by simpa using hne), if_neg (by omega), digitsValue_eq_denoted]
  · rw [if_neg hlen, if_neg (by simpa using hne), if_pos (by omega)]

/-- **A token that carries digits under a sign is read as the signed number they denote, when
there are at most 4300 of them; more digits are a fault.** -/
theorem read_of_carries {t : Text} {neg : Bool} {ds : List Point} (h : Carries t neg ds) :
    read t = if ds.length ≤ 4300 then .ok (some (if neg then -(denoted ds : Int) else denoted ds))
      else .error (.tooManyDigits ds.length) := by
  obtain ⟨blanks, sign, rest, ht, hb, hs, hne, hd, hr⟩ := h
  have hdrop := dropWhile_of_carries ht hb hs hne hd
  obtain ⟨d, ds', rfl⟩ := List.exists_cons_of_ne_nil hne
  rw [read_eq, hdrop, List.cons_append, splitSign_signed hs (hd d List.mem_cons_self),
    ← List.cons_append]
  exact fromRun_of_digits neg hne hd hr

/-- A token that goes on with a sign and a digit carries the longest run of digits there. -/
theorem carries_of_startsWithDigit {t : Text} (h : StartsWithDigit t) :
    ∃ neg ds, Carries t neg ds := by
  obtain ⟨blanks, sign, neg, d, rest, ht, hb, hs, hd⟩ := h
  refine ⟨neg, (d :: rest).takeWhile isDigit, blanks, sign, (d :: rest).dropWhile isDigit,
    by rw [ht]; simp, hb, hs, by simp [hd], fun p hp => List.mem_takeWhile_imp hp, ?_⟩
  intro p hp
  have := List.head?_dropWhile_not isDigit (d :: rest)
  rw [Option.mem_def] at hp
  rw [hp] at this
  exact this

/-- **A token is read as no version exactly when it does not go on, after its blanks, with an
optional sign and a digit.** -/
theorem read_eq_none_iff (t : Text) : read t = .ok none ↔ ¬ StartsWithDigit t := by
  constructor
  · rintro h hs
    obtain ⟨neg, ds, hc⟩ := carries_of_startsWithDigit hs
    rw [read_of_carries hc] at h
    split at h <;> cases h
  · intro hn
    rw [read_eq]
    rcases hp : splitSign (t.points.dropWhile isBlank) with ⟨neg, r⟩
    apply fromRun_of_takeWhile_eq_nil
    obtain ⟨sign, hs, hsplit⟩ := signed_of_splitSign hp
    cases r with
    | nil => rfl
    | cons x r =>
      apply List.takeWhile_cons_of_neg
      intro hx
      refine hn ⟨t.points.takeWhile isBlank, sign, _, x, r, ?_,
        fun p hp => List.mem_takeWhile_imp hp, hs, hx⟩
      rw [List.append_assoc, ← hsplit, List.takeWhile_append_dropWhile]

/-- **A token of 4301 ones goes on with a digit, but is no answer: its digits are too many to
convert, and reading it faults.** -/
theorem read_faults_on_long_digits :
    StartsWithDigit ⟨List.replicate 4301 (.char '1')⟩ ∧
      read ⟨List.replicate 4301 (.char '1')⟩ = .error (.tooManyDigits 4301) := by
  have hd : ∀ p ∈ List.replicate 4301 (Point.char '1'), isDigit p = true := by
    intro p hp
    rw [List.eq_of_mem_replicate hp]
    rfl
  -- the run is too long to unfold: only its length is used
  have hc : Carries ⟨List.replicate 4301 (.char '1')⟩ false (List.replicate 4301 (.char '1')) :=
    ⟨[], [], [], by rw [List.append_nil, List.nil_append, List.nil_append],
      fun _ h => absurd h List.not_mem_nil, .inl ⟨rfl, rfl⟩, List.replicate_succ_ne_nil, hd,
      fun _ h => absurd h (Option.not_mem_none _)⟩
  refine ⟨⟨[], [], false, .char '1', List.replicate 4300 (.char '1'), rfl,
    fun _ h => absurd h List.not_mem_nil, .inl ⟨rfl, rfl⟩, rfl⟩, ?_⟩
  rw [read_of_carries hc, if_neg (by rw [List.length_replicate]; omega), List.length_replicate]

/-! ## Entity tags -/

theorem digitsValue_toDigits (v : Nat) :
    digitsValue ((Nat.toDigits 10 v).map Point.char) = v := by
  conv_rhs => rw [← Nat.ofDigitChars_ten_toDigits (n := v)]
  rw [digitsValue, List.foldl_map, Nat.ofDigitChars_eq_foldl]
  congr 1
  funext acc c
  simp [Point.code, Nat.mul_comm]

/-- **The token a replacement takes from the entity tag of a version, the tag without its first
and last character, reads back as that version**, for a version of at most 4300 digits. -/
theorem read_etag (v : Nat) (hv : (toString v).length ≤ 4300) :
    read (Text.ofString (String.ofList (((Http.Rest.etag v).toList.drop 1).dropLast))) =
      .ok (some v) := by
  have hpoints : (Text.ofString (String.ofList (((Http.Rest.etag v).toList.drop 1).dropLast))).points
      = (Nat.toDigits 10 v).map Point.char := by
    simp [Http.Rest.etag, Text.ofString]
  have hc : Carries (Text.ofString (String.ofList (((Http.Rest.etag v).toList.drop 1).dropLast)))
      false ((Nat.toDigits 10 v).map Point.char) := by
    refine ⟨[], [], [], by rw [hpoints]; simp, by simp, .inl ⟨rfl, rfl⟩,
      by simp [Nat.toDigits_ne_nil], fun p hp => ?_, by simp⟩
    obtain ⟨c, hc, rfl⟩ := List.mem_map.1 hp
    simpa [isDigit] using Nat.isDigit_of_mem_toDigits (by decide) (by decide) hc
  have hlen : ((Nat.toDigits 10 v).map Point.char).length ≤ 4300 := by
    rwa [List.length_map, ← String.length_ofList, ← Nat.toString_eq_ofList_toDigits]
  rw [read_of_carries hc, if_pos hlen, ← digitsValue_eq_denoted, digitsValue_toDigits]
  rfl

/-! ## Reading tokens -/

/-- **How version tokens are read.** A missing token is refused by the update. A token is read as
no version exactly when it does not go on, after its blanks, with an optional sign and a digit;
one that does carries the longest run of digits there, and is read as the signed number it
denotes when the run has at most 4300 digits, and faults when it has more. The token a
replacement takes from the entity tag of a version of at most 4300 digits reads back as that
version. -/
theorem read_spec (s : Store) (c : Fields) (t : Text) (v : Nat) :
    s.update c none = .ok (.error (.versionInvalid none), s) ∧
    (read t = .ok none ↔ ¬ StartsWithDigit t) ∧
    (StartsWithDigit t → ∃ neg ds, Carries t neg ds) ∧
    (∀ (neg : Bool) (ds : List Point), Carries t neg ds →
      read t = if ds.length ≤ 4300 then .ok (some (if neg then -(denoted ds : Int) else denoted ds))
        else .error (.tooManyDigits ds.length)) ∧
    ((toString v).length ≤ 4300 →
      read (Text.ofString (String.ofList (((Http.Rest.etag v).toList.drop 1).dropLast))) =
        .ok (some v)) :=
  ⟨rfl, read_eq_none_iff t, carries_of_startsWithDigit, fun _ _ => read_of_carries, read_etag v⟩

/-- The token ` -007x` carries the digits `007` under a minus and is read as `-7`; the entity tag
of version 42 gives back 42. -/
theorem read_spec_sample :
    Carries (Text.ofString " -007x") true (Text.ofString "007").points ∧
      read (Text.ofString " -007x") = .ok (some (-7)) ∧
      (toString 42).length ≤ 4300 ∧
      read (Text.ofString (String.ofList (((Http.Rest.etag 42).toList.drop 1).dropLast))) =
        .ok (some 42) := by
  have hc : Carries (Text.ofString " -007x") true (Text.ofString "007").points :=
    ⟨[.char ' '], [.char '-'], [.char 'x'], by decide, by decide, .inr (.inr ⟨rfl, rfl⟩),
      by decide, by decide, by decide⟩
  refine ⟨hc, ?_, by decide, (read_spec Store.empty [] (Text.ofString " -007x") 42).2.2.2.2 (by decide)⟩
  rw [(read_spec Store.empty [] (Text.ofString " -007x") 42).2.2.2.1 _ _ hc]
  decide

end Version

end RecipeCatalog
