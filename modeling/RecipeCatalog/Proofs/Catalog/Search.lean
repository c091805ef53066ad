import Mathlib
import RecipeCatalog.Proofs.Catalog.Answers

/-!
# What a search finds

A search takes criteria as a JSON object. Its documentation describes what it selects by the
object's values alone (`Criteria.Selects`): a short name part that the recipe's name contains,
both lowered; the ingredients a flag asks for; a category and a preparer equal to the text a
value stands for (`Value.asText`, a string itself, any other value as it is written as a
literal).

The store runs the search as the database does: it lowers the name in ASCII only, and reads the
name and the name part up to a NUL. So the two agree on a recipe whose name holds no NUL and has
no capital outside ASCII, for a name part without NUL (`Criteria.NamePlain`).

* `Store.find_answers` — **on a reachable store a search faults exactly when a text it compares
  holds a lone surrogate; otherwise it answers recipes of the store, each once, in strictly
  ascending order of names, and of the recipes whose names compare plainly, exactly those the
  criteria select.**
* `Store.find_faults_on_lone_surrogate` — a name part holding a lone surrogate faults.
-/

set_option autoImplicit false

namespace RecipeCatalog

/-! ## The text a value stands for -/

namespace Value

/-- How a value is written as a literal: `None`, `True` and `False`, an integer in decimal, a
double in its shortest form (`inf` and `nan` for those that are no finite number), text quoted,
and lists and objects in brackets and braces with their items written the same way, separated by
a comma and a space. -/
def literal : Value → String
  | .null => "None"
  | .bool b => if b then "True" else "False"
  | .int n => toString n
  | .float x => Graph.shownNumber.render x
  | .str t => Text.quoted t
  | .array items => "[" ++ ", ".intercalate (items.attach.map fun ⟨v, _⟩ => literal v) ++ "]"
  | .object fields =>
    "\x7b" ++ ", ".intercalate (fields.attach.map fun ⟨(k, v), _⟩ =>
      Text.quoted k ++ ": " ++ literal v) ++ "\x7d"
termination_by v => sizeOf v
decreasing_by
  all_goals simp_wf
  · have := List.sizeOf_lt_of_mem ‹_ ∈ items›
    omega
  · have := List.sizeOf_lt_of_mem ‹_ ∈ fields›
    simp at this
    omega

/-- The text a value stands for when it is compared with stored text: a string is its own text,
any other value the text of its literal. -/
def asText : Value → Text
  | .str t => t
  | v => Text.ofString v.literal

end Value

/-! ## The first character of a literal -/

theorem Nat.toString_head (n : Nat) : ∃ c rest, (toString n).toList = c :: rest ∧ c.isDigit := by
  rw [Nat.toString_eq_repr, Nat.toList_repr]
  obtain ⟨c, rest, h⟩ := List.exists_cons_of_ne_nil (Nat.toDigits_ne_nil (b := 10) (n := n))
  have hc : c ∈ Nat.toDigits 10 n := by
    rw [h]
    exact List.mem_cons_self
  exact ⟨c, rest, h, Nat.isDigit_of_mem_toDigits (by decide) (by decide) hc⟩

/-- An integer is written starting with its sign or a digit. -/
theorem Int.toString_head (n : Int) :
    ∃ c rest, (toString n).toList = c :: rest ∧ (c = '-' ∨ c.isDigit) := by
  cases n with
  | ofNat m =>
    obtain ⟨c, rest, h, hc⟩ := Nat.toString_head m
    exact ⟨c, rest, h, .inr hc⟩
  | negSucc m => simp [toString, Int.repr]

/-- A double is written starting with a sign or a digit, or with the first letter of `nan` or
`inf`. -/
theorem Notation.shownNumber_head (x : Float) :
    ∃ c rest, (Graph.shownNumber.render x).toList = c :: rest ∧
      (c = '-' ∨ c = 'n' ∨ c = 'i' ∨ c.isDigit) := by
  unfold Notation.render
  generalize Double.decode x = d
  cases d with
  | nan => exact ⟨'n', ['a', 'n'], rfl, by simp⟩
  | inf neg => cases neg <;> simp [Graph.shownNumber]
  | finite neg m q =>
    dsimp only
    generalize Shortest.digits m q = p
    obtain ⟨n, s⟩ := p
    obtain ⟨c, rest, hds, hc⟩ := Nat.toString_head n
    generalize toString n = ds at hds ⊢
    cases neg <;> split_ifs <;> simp [hds, hc, String.toList_append]
    all_goals
      obtain ⟨k, hk⟩ : ∃ k, (s + (ds.length : Int)).toNat = k + 1 :=
        ⟨(s + ds.length).toNat - 1, by simp only at *; omega⟩
      simp [hk, hc]

/-- The literal of a value that is neither text nor null starts with `T` or `F`, a sign or a
digit, `n` or `i`, or an opening bracket or brace. -/
theorem Value.literal_head {v : Value} (hs : ∀ t, v ≠ .str t) (hn : v ≠ .null) :
    ∃ c rest, v.literal.toList = c :: rest ∧
      (c ∈ ['T', 'F', '-', 'n', 'i', '[', '\x7b'] ∨ c.isDigit) := by
  cases v with
  | null => exact absurd rfl hn
  | str t => exact absurd rfl (hs t)
  | bool b => cases b <;> simp [Value.literal]
  | int n =>
    obtain ⟨c, rest, h, hc⟩ := Int.toString_head n
    refine ⟨c, rest, by rw [Value.literal]; exact h, ?_⟩
    rcases hc with rfl | hc <;> simp [*]
  | float x =>
    obtain ⟨c, rest, h, hc⟩ := Notation.shownNumber_head x
    refine ⟨c, rest, by rw [Value.literal]; exact h, ?_⟩
    rcases hc with rfl | rfl | rfl | hc <;> simp [*]
  | array items => simp [Value.literal]
  | object fields => simp [Value.literal]

/-- No literal of a value that is neither text nor null is empty or starts with `S`, `H` or `J`,
as the words a category or a preparer takes do. -/
theorem Value.literal_ne {v : Value} (hs : ∀ t, v ≠ .str t) (hn : v ≠ .null) {x : String}
    (hx : ∀ c rest, x.toList = c :: rest → c ∈ ['S', 'H', 'J']) : x ≠ v.literal := by
  obtain ⟨c, rest, hv, hc⟩ := Value.literal_head hs hn
  rintro rfl
  have hSHJ := hx c rest hv
  simp only [List.mem_cons, List.not_mem_nil, or_false] at hSHJ
  rcases hSHJ with rfl | rfl | rfl <;> simp at hc

theorem Value.asText_of_ne_str {v : Value} (hs : ∀ t, v ≠ .str t) :
    v.asText = Text.ofString v.literal := by
  cases v <;> first | rfl | exact absurd rfl (hs _)

/-! ## The words a sound recipe stores -/

namespace Recipe.Sound

variable {r : Recipe}

theorem ofString_is_iff {x s : String} : (Text.ofString x).is s = true ↔ x = s :=
  Text.is_iff.trans ⟨Text.ofString_inj, congrArg _⟩

/-- A sound recipe's category, when it has one, is `SNACK`, `HAUPTMAHLZEIT` or empty. -/
theorem category_listed (h : r.Sound) {x : String} (hx : r.category = some x) :
    x = "SNACK" ∨ x = "HAUPTMAHLZEIT" ∨ x = "" := by
  have hc := h.admits .category (by decide) (by decide)
  simp only [Recipe.column, hx, Recipe.optional, Value.ofString, reduceCtorEq, false_or] at hc
  cases hc with
  | category ht => simpa [ofString_is_iff] using ht

/-- A sound recipe's preparer is `STEFFEN_HENSSLER` or `JOHANN_LAFER`. -/
theorem preparer_listed (h : r.Sound) :
    r.preparer = "STEFFEN_HENSSLER" ∨ r.preparer = "JOHANN_LAFER" := by
  have hc := h.admits .preparer (by decide) (by decide)
  simp only [Recipe.column, Value.ofString, reduceCtorEq, false_or] at hc
  cases hc with
  | preparer ht => simpa [ofString_is_iff, h.named] using ht

end Recipe.Sound

/-! ## Text written as UTF-8 -/

namespace Text

theorem firstLone?_go_isSome_iff : ∀ (i : Nat) (ps : List Point),
    (firstLone?.go i ps).isSome ↔ ∃ s, Point.lone s ∈ ps
  | _, [] => by simp [firstLone?.go]
  | i, .char _ :: rest => by simp [firstLone?.go, firstLone?_go_isSome_iff (i + 1) rest]
  | _, .lone s :: _ => by simp [firstLone?.go]

theorem hasLone_iff {t : Text} : t.hasLone = true ↔ ∃ s, Point.lone s ∈ t.points :=
  firstLone?_go_isSome_iff 0 t.points

theorem utf8?_eq_error_iff {t : Text} : (∃ e, t.utf8? = .error e) ↔ t.hasLone = true := by
  constructor
  · rintro ⟨e, he⟩
    cases hl : t.hasLone
    · obtain ⟨s, hs⟩ := toString?_of_hasLone hl
      simp [utf8?, hs] at he
    · rfl
  · intro hl
    have hs : t.toString? = none := by
      cases h : t.toString? with
      | none => rfl
      | some s => simp [hasLone_eq_false_of_toString? h] at hl
    obtain ⟨⟨i, s⟩, hf⟩ := Option.isSome_iff_exists.1 hl
    simp [utf8?, hs, hf]

/-- A step that writes text as UTF-8 before going on faults where the text holds a lone
surrogate, and else where going on does. -/
theorem utf8?_bind_eq_error_iff {t : Text} {α : Type} {k : Except Fault α} :
    (∃ e, (t.utf8? >>= fun _ => k) = .error e) ↔ t.hasLone = true ∨ ∃ e, k = .error e := by
  cases h : t.utf8? with
  | error e =>
    have hl : t.hasLone = true := utf8?_eq_error_iff.1 ⟨e, h⟩
    simp [hl, bind, Except.bind]
  | ok s =>
    have hl : t.hasLone = false := Bool.eq_false_iff.2 fun hl => by
      obtain ⟨e, he⟩ := utf8?_eq_error_iff.2 hl
      simp [h] at he
    simp [hl, bind, Except.bind]

/-- Lowering keeps the lone surrogates of text. -/
theorem lone_mem_lowerFrom (s : Surrogate) : ∀ (before : List Nat) (ps : List Point),
    Point.lone s ∈ Case.lowerFrom before ps ↔ Point.lone s ∈ ps
  | _, [] => by simp [Case.lowerFrom]
  | before, .lone x :: rest => by
    simp [Case.lowerFrom, lone_mem_lowerFrom s (x.val :: before) rest]
  | before, .char c :: rest => by
    simp only [Case.lowerFrom, List.mem_append, lone_mem_lowerFrom s (c.toNat :: before) rest]
    split_ifs <;> simp

@[simp] theorem hasLone_lower {t : Text} : t.lower.hasLone = t.hasLone :=
  Bool.eq_iff_iff.2 (by simp [hasLone_iff, lower, lone_mem_lowerFrom])

end Text

namespace Criteria

@[simp] theorem hasLone_escaped {t : Text} : (escaped t).hasLone = t.hasLone := by
  apply Bool.eq_iff_iff.2
  simp only [Text.hasLone_iff, escaped, List.mem_flatMap]
  constructor
  · rintro ⟨s, p, hp, hs⟩
    split_ifs at hs <;> simp at hs <;> grind
  · rintro ⟨s, hs⟩
    exact ⟨s, _, hs, by split_ifs <;> simp⟩

/-- The texts of a search fault exactly when the name part, a category or a preparer holds a
lone surrogate. -/
theorem encode_eq_error_iff {q : Criteria} :
    (∃ e, q.encode = .error e) ↔
      (∃ f, q.fragment = some f ∧ f.hasLone) ∨
      (∃ t, q.category = .text t ∧ t.hasLone) ∨ (∃ t, q.preparer = .text t ∧ t.hasLone) := by
  obtain ⟨fragment, ingredients, category, preparer⟩ := q
  cases fragment <;> cases category <;> cases preparer <;>
    simp [encode, Text.utf8?_bind_eq_error_iff, pure, Except.pure]

end Criteria

/-! ## The name test -/

theorem Char.toLower_eq_nul {c : Char} (h : c.toLower = '\x00') : c = '\x00' := by
  unfold Char.toLower at h
  split at h
  · rename_i hu
    have hv := congrArg (fun x => x.val.toNat) h
    have hZ : c.val.toNat ≤ 90 := hu.2
    have hc : c.toNat = c.val.toNat := rfl
    simp [UInt32.toNat_add] at hv
    omega
  · exact h

namespace Criteria

theorem containsPart_iff {whole part : List Point} :
    containsPart whole part = true ↔ part <:+: whole := by
  simp only [containsPart, List.any_eq_true, List.mem_range, beq_iff_eq]
  constructor
  · rintro ⟨i, -, h⟩
    rw [← h]
    exact (List.take_prefix _ _).isInfix.trans (List.drop_suffix _ _).isInfix
  · intro h
    obtain ⟨t, hp, hs⟩ := List.infix_iff_prefix_suffix.1 h
    refine ⟨whole.length - t.length, by omega, ?_⟩
    rw [← List.suffix_iff_eq_drop.1 hs]
    exact (List.prefix_iff_eq_take.1 hp).symm

theorem untilNul_of_not_mem {ps : List Point} (h : Point.char '\x00' ∉ ps) : untilNul ps = ps :=
  List.takeWhile_eq_self_iff.2 fun p hp => by
    simp only [bne_iff_ne, ne_eq]
    rintro rfl
    exact h hp

theorem nul_not_mem_asciiLower {name : String} (h : '\x00' ∉ name.toList) :
    Point.char '\x00' ∉ (Case.asciiLowerText (Text.ofString name)).points := by
  simp only [Case.asciiLowerText, Text.ofString, List.map_map, List.mem_map, Function.comp,
    Point.char.injEq, not_exists, not_and]
  intro c hc hl
  exact h (Char.toLower_eq_nul hl ▸ hc)

/-- Without a NUL in the name or the part, a name matches a part exactly when the part is a
contiguous part of the name lowered in ASCII. -/
theorem nameMatches_iff {part : Text} {name : String} (hp : Point.char '\x00' ∉ part.points)
    (hn : '\x00' ∉ name.toList) :
    nameMatches part name = true ↔ part.points <:+: (Case.asciiLowerText (Text.ofString name)).points := by
  unfold nameMatches
  rw [if_neg (by simpa using hp), untilNul_of_not_mem (nul_not_mem_asciiLower hn),
    containsPart_iff]

end Criteria

/-! ## What the criteria select -/

namespace Criteria

/-- A flag is switched on by `true` or by a string that lowers to `true`. -/
def Switches (v : Option Value) : Prop :=
  v = some (.bool true) ∨ ∃ t, v = some (.str t) ∧ t.lower = Text.ofString "true"

/-- The recipes a JSON object of criteria selects, read off its values alone: a name part of
fewer than ten code points, lowered, is a contiguous part of the name lowered; a flag switched
on asks for its ingredient; a category and a preparer that are not null are the text the value
stands for. Other keys are ignored. -/
structure Selects (q : Fields) (r : Recipe) : Prop where
  name : ∀ t, q.lookup "name" = some (.str t) → t.length < 10 →
    t.lower.points <:+: (Text.ofString r.name).lower.points
  javascript : Switches (q.lookup "javascript") → Text.ofString "JAVASCRIPT" ∈ r.ingredients
  typescript : Switches (q.lookup "typescript") → Text.ofString "TYPESCRIPT" ∈ r.ingredients
  category : ∀ v, q.lookup "category" = some v → v ≠ .null →
    r.category.map Text.ofString = some v.asText
  preparer : ∀ v, q.lookup "preparer" = some v → v ≠ .null → Text.ofString r.preparer = v.asText

/-- The name test compares plainly: the lowered name part holds no NUL, and the name holds no NUL
and lowers in ASCII as it does in full. -/
def NamePlain (q : Fields) (r : Recipe) : Prop :=
  ∀ t, q.lookup "name" = some (.str t) → t.length < 10 →
    Point.char '\x00' ∉ t.lower.points ∧ '\x00' ∉ r.name.toList ∧
      (Text.ofString r.name).lower = Case.asciiLowerText (Text.ofString r.name)

/-- A search faults when a text it writes holds a lone surrogate: a name part it uses, a
category or a preparer given as a string. -/
def Faults (q : Fields) : Prop :=
  (∃ t, q.lookup "name" = some (.str t) ∧ t.length < 10 ∧ t.hasLone) ∨
  (∃ t, q.lookup "category" = some (.str t) ∧ t.hasLone) ∨
  (∃ t, q.lookup "preparer" = some (.str t) ∧ t.hasLone)

theorem isOn_iff {v : Option Value} : isOn v = true ↔ Switches v := by
  rcases v with _ | ⟨_ | ⟨_ | _⟩ | _ | _ | t | _ | _⟩ <;> simp [isOn, Switches, Text.is_iff]

/-- The name part the criteria keep, lowered. -/
theorem fragment_ofFields (q : Fields) :
    (ofFields q).fragment = match q.lookup "name" with
      | some (.str t) => if t.length < 10 then some t.lower else none
      | _ => none := rfl

theorem fragment_ofFields_eq_some {q : Fields} {f : Text} (h : (ofFields q).fragment = some f) :
    ∃ t, q.lookup "name" = some (.str t) ∧ t.length < 10 ∧ f = t.lower := by
  rw [fragment_ofFields] at h
  split at h
  · rename_i t ht
    split_ifs at h with hl
    exact ⟨t, ht, hl, (Option.some.inj h).symm⟩
  · cases h

theorem fragment_ofFields_of_lookup {q : Fields} {t : Text} (ht : q.lookup "name" = some (.str t))
    (hl : t.length < 10) : (ofFields q).fragment = some t.lower := by
  rw [fragment_ofFields, ht]
  simp [hl]

/-- The name test of the criteria, for a name that compares plainly, is the one they select by. -/
theorem name_admits_iff {q : Fields} {r : Recipe} (hp : NamePlain q r) :
    (match (ofFields q).fragment with
      | some f => nameMatches f r.name
      | none => true) = true ↔
    ∀ t, q.lookup "name" = some (.str t) → t.length < 10 →
      t.lower.points <:+: (Text.ofString r.name).lower.points := by
  cases hf : (ofFields q).fragment with
  | none =>
    simp only [true_iff]
    intro t ht hl
    rw [fragment_ofFields_of_lookup ht hl] at hf
    cases hf
  | some f =>
    obtain ⟨t, ht, hl, rfl⟩ := fragment_ofFields_eq_some hf
    obtain ⟨hnf, hnn, hlower⟩ := hp t ht hl
    simp only [nameMatches_iff hnf hnn, ← hlower]
    constructor
    · rintro h t' ht' -
      obtain rfl : t = t' := by simpa [ht] using ht'
      exact h
    · intro h
      exact h t ht hl

theorem ofValue_of_ne_str {v : Value} (hs : ∀ t, v ≠ .str t) (hn : v ≠ .null) :
    Equals.ofValue (some v) = .nothing := by
  cases v <;> first | rfl | exact absurd rfl hn | exact absurd rfl (hs _)

/-- The condition a criterion's value sets passes a stored value exactly when the criterion is
absent or null, or the stored value is the text the criterion stands for; provided no literal of
a value other than text spells a stored value. -/
theorem admits_ofValue_iff {v : Option Value} {s : Option String}
    (hs : ∀ x, s = some x → ∀ w : Value, (∀ t, w ≠ .str t) → w ≠ .null → x ≠ w.literal) :
    (Equals.ofValue v).admits s = true ↔
      ∀ w, v = some w → w ≠ .null → s.map Text.ofString = some w.asText := by
  rcases v with _ | w
  · simp [Equals.ofValue, Equals.admits]
  by_cases hn : w = .null
  · subst hn
    simp [Equals.ofValue, Equals.admits]
  by_cases hstr : ∃ t, w = .str t
  · obtain ⟨t, rfl⟩ := hstr
    cases s with
    | none => simp [Equals.ofValue, Equals.admits]
    | some x =>
      simp only [Equals.ofValue, Equals.admits, beq_iff_eq, Option.map_some, Option.some.injEq,
        forall_eq', ne_eq, reduceCtorEq, not_false_eq_true, forall_const, Value.asText]
      exact eq_comm
  · simp only [not_exists] at hstr
    rw [ofValue_of_ne_str hstr hn]
    refine ⟨fun h => by simp [Equals.admits] at h, fun h => ?_⟩
    obtain ⟨x, rfl, hx⟩ := Option.map_eq_some_iff.1 (h w rfl hn)
    rw [Value.asText_of_ne_str hstr] at hx
    exact absurd (Text.ofString_inj hx) (hs x rfl w hstr hn)

theorem ingredients_admit_iff {q : Fields} {r : Recipe} :
    (ofFields q).ingredients.all (fun i => r.ingredients.contains (Text.ofString i)) = true ↔
      (Switches (q.lookup "javascript") → Text.ofString "JAVASCRIPT" ∈ r.ingredients) ∧
      (Switches (q.lookup "typescript") → Text.ofString "TYPESCRIPT" ∈ r.ingredients) := by
  simp only [ofFields, List.all_append, Bool.and_eq_true, ← isOn_iff]
  cases isOn (q.lookup "javascript") <;> cases isOn (q.lookup "typescript") <;> simp

/-- **For a sound recipe whose name compares plainly, the criteria admit the recipe exactly
when they select it.** -/
theorem admits_ofFields_iff {q : Fields} {r : Recipe} (hr : r.Sound) (hp : NamePlain q r) :
    (ofFields q).admits r = true ↔ Selects q r := by
  have hcat : (ofFields q).category.admits r.category = true ↔
      ∀ v, q.lookup "category" = some v → v ≠ .null →
        r.category.map Text.ofString = some v.asText := by
    refine admits_ofValue_iff fun x hx w hs hn => Value.literal_ne hs hn fun c rest hc => ?_
    rcases hr.category_listed hx with rfl | rfl | rfl <;> simp at hc <;> simp [← hc.1]
  have hprep : (ofFields q).preparer.admits (some r.preparer) = true ↔
      ∀ v, q.lookup "preparer" = some v → v ≠ .null →
        Text.ofString r.preparer = v.asText := by
    have h := admits_ofValue_iff (v := q.lookup "preparer") (s := some r.preparer)
      fun x hx w hs hn => Value.literal_ne hs hn fun c rest hc => by
        obtain rfl := Option.some.inj hx
        rcases hr.preparer_listed with h | h <;> simp [h] at hc <;> simp [← hc.1]
    exact h.trans (by simp)
  simp only [admits, Bool.and_eq_true, hcat, hprep, ingredients_admit_iff]
  constructor
  · rintro ⟨⟨⟨hn, hc⟩, hpr⟩, hj, ht⟩
    exact ⟨(name_admits_iff hp).1 hn, hj, ht, hc, hpr⟩
  · rintro ⟨hn, hj, ht, hc, hpr⟩
    exact ⟨⟨⟨(name_admits_iff hp).2 hn, hc⟩, hpr⟩, hj, ht⟩

/-- The texts of the criteria a JSON object gives fault exactly as `Faults` says. -/
theorem encode_ofFields_eq_error_iff {q : Fields} :
    (∃ e, (ofFields q).encode = .error e) ↔ Faults q := by
  rw [encode_eq_error_iff, Faults]
  have hname : (∃ f, (ofFields q).fragment = some f ∧ f.hasLone = true) ↔
      ∃ t, q.lookup "name" = some (.str t) ∧ t.length < 10 ∧ t.hasLone = true := by
    constructor
    · rintro ⟨f, hf, hl⟩
      obtain ⟨t, ht, hlt, rfl⟩ := fragment_ofFields_eq_some hf
      exact ⟨t, ht, hlt, by simpa using hl⟩
    · rintro ⟨t, ht, hlt, hl⟩
      exact ⟨t.lower, fragment_ofFields_of_lookup ht hlt, by simpa using hl⟩
  have htext : ∀ key, (∃ t, Equals.ofValue (q.lookup key) = .text t ∧ t.hasLone = true) ↔
      ∃ t, q.lookup key = some (.str t) ∧ t.hasLone = true := by
    intro key
    rcases q.lookup key with _ | ⟨_ | _ | _ | _ | t | _ | _⟩ <;> simp [Equals.ofValue]
  rw [hname, ofFields, htext, htext]

end Criteria

/-! ## What a search answers -/

namespace Store

variable {S : Store} {q : Criteria}

theorem find_eq_error_iff : (∃ e, S.find q = .error e) ↔ ∃ e, q.encode = .error e := by
  unfold find
  cases q.encode <;> simp [bind, Except.bind, pure, Except.pure]

theorem eq_of_find_eq_ok {rs : List Recipe} (h : S.find q = .ok rs) :
    rs = (S.recipes.filter q.admits).mergeSort fun a b => a.name ≤ b.name := by
  unfold find at h
  cases he : q.encode <;> simp [he, bind, Except.bind, pure, Except.pure] at h
  exact h.symm

/-- Recipes with distinct names, sorted by name, stand in strictly ascending order of names. -/
theorem pairwise_mergeSort_name {l : List Recipe} (hl : (l.map (·.name)).Nodup) :
    (l.mergeSort fun a b => a.name ≤ b.name).Pairwise (·.name < ·.name) := by
  have hle : (l.mergeSort fun a b => a.name ≤ b.name).Pairwise
      (fun a b => decide (a.name ≤ b.name) = true) :=
    List.pairwise_mergeSort
      (fun a b c hab hbc => by simp only [decide_eq_true_eq] at *; exact le_trans hab hbc)
      (fun a b => by simpa using le_total a.name b.name) l
  have hne : ((l.mergeSort fun a b => a.name ≤ b.name).map (·.name)).Nodup :=
    ((List.mergeSort_perm l _).map _).nodup_iff.2 hl
  exact (hle.and (List.pairwise_map.1 hne)).imp fun ⟨h1, h2⟩ =>
    lt_of_le_of_ne (by simpa using h1) h2

/-- What a search of a store answers: it faults exactly as `Criteria.Faults` says; otherwise it
answers recipes of the store, each once, in strictly ascending order of names, and of the
recipes whose names compare plainly, exactly those the criteria select. -/
def FindOutcomes (S : Store) (q : Fields) : Prop :=
  ((∃ e, S.find (Criteria.ofFields q) = .error e) ↔ Criteria.Faults q) ∧
  ∀ rs, S.find (Criteria.ofFields q) = .ok rs →
    rs.Pairwise (·.name < ·.name) ∧ rs.Nodup ∧ (∀ r ∈ rs, r ∈ S.recipes) ∧
    ∀ r ∈ S.recipes, Criteria.NamePlain q r → (r ∈ rs ↔ Criteria.Selects q r)

/-- **On a reachable store a search faults exactly when a text it compares holds a lone
surrogate; otherwise it answers recipes of the store, each once, in strictly ascending order of
names, and of the recipes whose names compare plainly, exactly those the criteria select.** -/
theorem find_answers (hS : S.Reachable) (q : Fields) : S.FindOutcomes q := by
  have hv := hS.valid
  refine ⟨find_eq_error_iff.trans Criteria.encode_ofFields_eq_error_iff, fun rs h => ?_⟩
  obtain rfl := eq_of_find_eq_ok h
  -- names are distinct in a valid store, so sorting by them leaves no ties
  have hnames : ((S.recipes.filter (Criteria.ofFields q).admits).map (·.name)).Nodup :=
    hv.names.sublist (List.filter_sublist.map _)
  have hsorted := pairwise_mergeSort_name hnames
  have hnodup : List.Nodup _ := hsorted.imp fun h => ne_of_apply_ne Recipe.name h.ne
  refine ⟨hsorted, hnodup, fun r hr => ?_, fun r hr hp => ?_⟩
  · exact (List.mem_filter.1 (List.mem_mergeSort.1 hr)).1
  · rw [List.mem_mergeSort, List.mem_filter, Criteria.admits_ofFields_iff (hv.sound r hr) hp]
    exact and_iff_right hr

theorem seeded_find_answers :
    seeded.Reachable ∧ seeded.FindOutcomes [(Text.ofString "name", .ofString "a")] :=
  ⟨reachable_seeded, find_answers reachable_seeded _⟩

/-- A name part holding a lone surrogate faults. -/
theorem find_faults_on_lone_surrogate :
    ∃ e, seeded.find (Criteria.ofFields
      [(Text.ofString "name", .str ⟨[.lone ⟨0xD800, by decide, by decide⟩]⟩)]) = .error e :=
  find_eq_error_iff.2 (Criteria.encode_ofFields_eq_error_iff.2 (.inl ⟨_, rfl, by decide, rfl⟩))

end Store

end RecipeCatalog
