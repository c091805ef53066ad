import Mathlib
import RecipeCatalog.Recipe.Check
import RecipeCatalog.Proofs.Text.Plain

/-!
# What checking a candidate reports

`Candidate.check` runs the rule of every field present, collects the keys that name no field and
adds the required fields a candidate lacks. This file states that report field by field and
proves that the check gives it:

* `Field.Admits` — the rule of each field, as the schema states it, for a value that is present
  and not null; `Field.accepts_eq_ok_true_iff` shows the executable rule decides it.
* `Candidate.expected` — the fields whose values the schema does not admit, in schema order;
  then the required fields lacking that are not reported yet; then every key that names no
  field, once, in input order. A key holding a lone surrogate leaves only the fields lacking and
  the empty key.
* `Candidate.check_eq_expected` — **checking faults exactly when a price or an intensity is an
  integer too large for a double, and answers `Candidate.expected` otherwise.**
* `Candidate.check_eq_ok_empty_iff` — a candidate passes exactly when its fields admit every
  value present, no required field is lacking and every key names a field.
* `Candidate.check_reports_name_with_lone_surrogate` — a name that starts with a letter but
  holds a lone surrogate is reported: a string the schema reads must be proper Unicode.

The bookkeeping of a report (a field reported twice keeps its first place) is one fold,
`appendNew`, for fields and unknown keys alike; `foldl_appendNew` says what it leaves.
-/

set_option autoImplicit false

namespace RecipeCatalog

/-! ## Adding what is not there yet -/

/-- One step of a report's bookkeeping: an element joins the end unless it is there already. -/
def appendNew {α : Type} [BEq α] (acc : List α) (x : α) : List α :=
  if acc.contains x then acc else acc ++ [x]

theorem foldl_appendNew {α : Type} [BEq α] [LawfulBEq α] :
    ∀ (l acc : List α), l.foldl appendNew acc = acc ++ (l.removeAll acc).eraseDups
  | [], acc => by simp [List.removeAll]
  | x :: l, acc => by
    rw [List.foldl_cons, foldl_appendNew l]
    unfold appendNew
    by_cases hx : x ∈ acc
    · simp [List.removeAll, hx]
    · -- `x` joins the end, and the rest is deduplicated against one more element
      have hkeep : ∀ y, (!decide (y ∈ acc ++ [x])) = (!y == x && !decide (y ∈ acc)) := by
        intro y
        by_cases h1 : y = x <;> by_cases h2 : y ∈ acc <;> simp [h1, h2, hx]
      simp [List.removeAll, List.eraseDups_cons, hx, List.filter_filter, hkeep]

theorem eraseDups_of_nodup {α : Type} [BEq α] [LawfulBEq α] :
    ∀ {l : List α}, l.Nodup → l.eraseDups = l
  | [], _ => rfl
  | a :: l, h => by
    obtain ⟨ha, hl⟩ := List.nodup_cons.1 h
    have hkeep : l.filter (fun b => !b == a) = l := by
      apply List.filter_eq_self.2
      intro b hb
      have : b ≠ a := fun e => ha (e ▸ hb)
      simpa using this
    rw [List.eraseDups_cons, hkeep, eraseDups_of_nodup hl]

/-- `filterM` in `Except`, for a predicate that answers or fails with one error per element. -/
theorem filterAuxM_except {α ε : Type} (p : α → Except ε Bool) (q bad : α → Bool) (e : ε)
    (h : ∀ a, p a = if bad a then .error e else .ok (q a)) :
    ∀ (l acc : List α), List.filterAuxM p l acc =
      if l.any bad then .error e else .ok ((l.filter q).reverse ++ acc)
  | [], acc => rfl
  | a :: l, acc => by
    simp only [List.filterAuxM, h a]
    by_cases hb : bad a
    · simp [hb]; rfl
    · have ih := filterAuxM_except p q bad e h l
      cases hq : q a <;> simp [hb, hq, ih] <;> rfl

namespace Report

theorem foldl_add (l : List Field) (r : Report) :
    l.foldl add r = ⟨l.foldl appendNew r.fields, r.unknown⟩ := by
  induction l generalizing r with
  | nil => rfl
  | cons f l ih =>
    rw [List.foldl_cons, ih, List.foldl_cons]
    unfold add appendNew
    split <;> rfl

theorem foldl_addUnknown (ks : List Text) (r : Report) :
    ks.foldl addUnknown r = ⟨r.fields, ks.foldl appendNew r.unknown⟩ := by
  induction ks generalizing r with
  | nil => rfl
  | cons k ks ih =>
    rw [List.foldl_cons, ih, List.foldl_cons]
    unfold addUnknown appendNew
    split <;> rfl

end Report

/-! ## The rules of the fields -/

namespace Field

theorem nodup_all : all.Nodup := by decide

/-- The fields of one filter of the schema that another leaves out. -/
theorem removeAll_filter_all (p q : Field → Bool) :
    (all.filter p).removeAll (all.filter q) = all.filter (fun f => p f && !q f) := by
  simp only [List.removeAll, List.filter_filter]
  congr 1
  funext f
  simp [mem_all, Bool.and_comm]

/-- The rule of each field for a value that is present and not null, as the schema states it. -/
inductive Admits : Field → Value → Prop
  | id {t : Text} : isUuid t → Admits id (.str t)
  | version {n : Int} : 0 ≤ n → Admits version (.int n)
  | name {t : Text} : isName t → Admits name (.str t)
  | difficulty {n : Int} : 0 ≤ n → n ≤ maxDifficulty → Admits difficulty (.int n)
  | category {t : Text} : t.is "SNACK" ∨ t.is "HAUPTMAHLZEIT" ∨ t.is "" → Admits category (.str t)
  | preparer {t : Text} :
      t.is "STEFFEN_HENSSLER" ∨ t.is "JOHANN_LAFER" ∨ t.is "" → Admits preparer (.str t)
  | priceInt {n : Int} {x : Float} : Double.ofInt? n = some x → 0.0 ≤ x → Admits price (.int n)
  | priceFloat {x : Float} : x.isFinite → 0.0 ≤ x → Admits price (.float x)
  | intensityInt {n : Int} {x : Float} :
      Double.ofInt? n = some x → 0.0 < x → x < 1.0 → Admits intensity (.int n)
  | intensityFloat {x : Float} : x.isFinite → 0.0 < x → x < 1.0 → Admits intensity (.float x)
  | available (b : Bool) : Admits available (.bool b)
  | date {t : Text} : isDate t → Admits date (.str t)
  | referenceCode {t : Text} : isReference t → Admits referenceCode (.str t)
  | homepage {t : Text} : Url.isAbsolute t → Admits homepage (.str t)
  | ingredients {items : List Value} :
      (∀ i ∈ items, ∃ t, i = .str t) → Admits ingredients (.array items)
  | extras {items : List Value} :
      (∀ i ∈ items, ∃ fs, i = .object fs) → Admits extras (.array items)

theorem accepts_eq_ok_true_iff {f : Field} {v : Value} : f.accepts v = .ok true ↔ Admits f v := by
  constructor
  · intro h
    cases f <;> cases v <;> simp [accepts, numberWithin] at h
    case id.str => exact .id h
    case version.int => exact .version h
    case name.str => exact .name h
    case difficulty.int => exact .difficulty h.1 h.2
    case category.str => exact .category (by simpa [or_assoc] using h)
    case preparer.str => exact .preparer (by simpa [or_assoc] using h)
    case price.int n =>
      cases hx : Double.ofInt? n with
      | none => simp [hx] at h
      | some x => exact .priceInt hx (by simpa [hx] using h)
    case price.float => exact .priceFloat h.1 h.2
    case intensity.int n =>
      cases hx : Double.ofInt? n with
      | none => simp [hx] at h
      | some x =>
        simp only [hx] at h
        have hb : (decide (0.0 < x) && decide (x < 1.0)) = true := by injection h
        simp only [Bool.and_eq_true, decide_eq_true_eq] at hb
        exact .intensityInt hx hb.1 hb.2
    case intensity.float => exact .intensityFloat h.1 h.2.1 h.2.2
    case available.bool b => exact .available b
    case date.str => exact .date h
    case referenceCode.str => exact .referenceCode h
    case homepage.str => exact .homepage h
    case ingredients.array items =>
      refine .ingredients fun i hi => ?_
      have hs := h i hi
      split at hs
      · exact ⟨_, rfl⟩
      · cases hs
    case extras.array items =>
      refine .extras fun i hi => ?_
      have hs := h i hi
      split at hs
      · exact ⟨_, rfl⟩
      · cases hs
  · intro h
    cases h <;> simp_all [accepts, numberWithin, or_assoc]
    all_goals
      intro i hi
      obtain ⟨_, rfl⟩ := ‹∀ i ∈ _, ∃ _, i = _› i hi
      rfl

/-- Whether a rule passes a value; a value the rule cannot read passes none. -/
def passes (f : Field) (v : Value) : Bool :=
  match f.accepts v with
  | .ok ok => ok
  | .error _ => false

theorem passes_iff {f : Field} {v : Value} : f.passes v = true ↔ Admits f v := by
  rw [← accepts_eq_ok_true_iff]
  unfold passes
  split <;> simp_all

instance (f : Field) (v : Value) : Decidable (Admits f v) := decidable_of_iff _ passes_iff

theorem decide_admits (f : Field) (v : Value) : decide (Admits f v) = f.passes v := by
  cases h : f.passes v
  · simpa [← passes_iff] using h
  · simpa [← passes_iff] using h

/-- Whether a value is an integer too large for a double. -/
def tooLarge : Value → Bool
  | .int n => (Double.ofInt? n).isNone
  | _ => false

/-- Whether a field's rule reads its value as a double. -/
def readsNumber : Field → Bool
  | price | intensity => true
  | _ => false

/-- A rule faults only where it reads an integer too large for a double as a number. -/
theorem accepts_eq (f : Field) (v : Value) :
    f.accepts v = if f.readsNumber && tooLarge v then .error .floatOverflow
      else .ok (f.passes v) := by
  unfold passes
  cases f <;> cases v <;> simp [accepts, numberWithin, tooLarge, readsNumber]
  all_goals
    rename_i n
    cases Double.ofInt? n <;> simp

end Field

/-! ## The report a candidate calls for -/

namespace Field

theorem eq_wireName_of_ofName? {k : Text} {f : Field} (h : ofName? k = some f) :
    k = Text.ofString f.wireName := by
  unfold ofName? at h
  have hk := List.find?_some h
  exact Text.is_iff.1 hk

end Field

namespace Candidate

/-- Whether a price or an intensity is an integer too large for a double. -/
def overflows (c : Fields) : Bool :=
  (given? c .price).any Field.tooLarge || (given? c .intensity).any Field.tooLarge

/-- Whether a field has a value that its rule does not admit. -/
def breaks (c : Fields) (f : Field) : Bool := (given? c f).any fun v => !decide (f.Admits v)

/-- Whether a candidate lacks a required field: a name, a preparer that is not empty, a price,
and on creation a reference code; a null value is lacking. -/
def lacks (c : Fields) (onCreate : Bool) : Field → Bool
  | .name => (given? c .name).isNone
  | .preparer => !(given? c .preparer).any Value.truthy
  | .price => (given? c .price).isNone
  | .referenceCode => onCreate && (given? c .referenceCode).isNone
  | _ => false

/-- The report a candidate calls for: the fields whose values break their rules, in schema
order, then the required fields lacking that are not reported yet, then each key that names no
field once, in input order. A key holding a lone surrogate leaves only the fields lacking and
the empty key. -/
def expected (c : Fields) (onCreate : Bool) : Report :=
  if c.keys.any Text.hasLone then ⟨Field.all.filter (lacks c onCreate), [Text.ofString ""]⟩
  else
    ⟨Field.all.filter (breaks c) ++ Field.all.filter (fun f => lacks c onCreate f && !breaks c f),
      (c.keys.filter fun k => (Field.ofName? k).isNone).eraseDups⟩

theorem broken_eq (c : Fields) :
    broken c = if overflows c then .error .floatOverflow else .ok (Field.all.filter (breaks c)) := by
  unfold broken List.filterM
  rw [filterAuxM_except _ (breaks c)
    (fun f => (given? c f).any fun v => f.readsNumber && Field.tooLarge v)
    .floatOverflow ?step]
  case step =>
    intro f
    unfold breaks
    cases given? c f with
    | none => rfl
    | some v =>
      simp only [Option.any]
      rw [Field.accepts_eq, Field.decide_admits]
      cases f.readsNumber && Field.tooLarge v <;> simp [bind, Except.bind, pure, Except.pure]
  have hany : Field.all.any (fun f => (given? c f).any
      (fun v => f.readsNumber && Field.tooLarge v)) = overflows c := by
    simp [Field.all, overflows, Field.readsNumber]
  rw [hany]
  split
  · rfl
  · simp [Functor.map, Except.map]

theorem missing_eq (c : Fields) (onCreate : Bool) :
    missing c onCreate = Field.all.filter (lacks c onCreate) := by
  unfold missing
  cases hp : given? c .preparer with
  | none =>
    cases hn : (given? c .name).isNone <;> cases hpr : (given? c .price).isNone <;>
      cases hr : (onCreate && (given? c .referenceCode).isNone) <;>
      simp [Field.all, lacks, hp, hn, hpr, hr]
  | some v =>
    cases ht : v.truthy <;> cases hn : (given? c .name).isNone <;>
      cases hpr : (given? c .price).isNone <;>
      cases hr : (onCreate && (given? c .referenceCode).isNone) <;>
      simp [Field.all, lacks, hp, ht, hn, hpr, hr]

theorem check_eq (c : Fields) (onCreate : Bool) :
    check c onCreate = if overflows c then .error .floatOverflow else .ok (expected c onCreate) := by
  unfold check schemaReport
  rw [broken_eq]
  by_cases ho : overflows c
  · simp only [ho, if_true]
    rfl
  · have hnd : ∀ p : Field → Bool, (Field.all.filter p).eraseDups = Field.all.filter p :=
      fun p => eraseDups_of_nodup (Field.nodup_all.filter p)
    unfold expected
    by_cases hl : c.keys.any Text.hasLone
    · simp [ho, hl, missing_eq, Report.foldl_add, foldl_appendNew, Report.empty,
        Report.addUnknown, hnd, bind, Except.bind, pure, Except.pure]
    · have hl' : (c.keys.any Text.hasLone) = false := by simpa using hl
      simp [ho, hl', missing_eq, Report.foldl_add, Report.foldl_addUnknown, foldl_appendNew,
        Report.empty, hnd, Field.removeAll_filter_all, bind, Except.bind, pure, Except.pure,
        unknownKeys]

/-- **Checking a candidate faults exactly when a price or an intensity is an integer too large
for a double, and otherwise gives the report its values call for.** -/
theorem check_eq_expected (c : Fields) (onCreate : Bool) :
    check c onCreate = if overflows c then .error .floatOverflow else .ok (expected c onCreate) :=
  check_eq c onCreate

/-- A name that starts with a letter is still reported when it holds a lone surrogate. -/
theorem check_reports_name_with_lone_surrogate :
    check [(Text.ofString "name", .str ⟨[.char 'A', .lone ⟨0xD800, by decide, by decide⟩]⟩)]
      false = .ok ⟨[.name, .preparer, .price], []⟩ := by
  rfl

/-! ## Passing the check -/

theorem overflows_eq_false {c : Fields} (h : ∀ f v, given? c f = some v → f.Admits v) :
    overflows c = false := by
  have hp : (given? c .price).any Field.tooLarge = false := by
    cases hv : given? c .price with
    | none => rfl
    | some v => cases h _ _ hv <;> simp_all [Field.tooLarge]
  have hi : (given? c .intensity).any Field.tooLarge = false := by
    cases hv : given? c .intensity with
    | none => rfl
    | some v => cases h _ _ hv <;> simp_all [Field.tooLarge]
  simp [overflows, hp, hi]

theorem keys_hasLone_eq_false {c : Fields} (h : ∀ k ∈ c.keys, (Field.ofName? k).isSome) :
    c.keys.any Text.hasLone = false := by
  rw [List.any_eq_false]
  intro k hk
  obtain ⟨f, hf⟩ := Option.isSome_iff_exists.1 (h k hk)
  rw [Field.eq_wireName_of_ofName? hf, Text.hasLone_ofString]
  decide

/-- **A candidate passes its check exactly when every value present is admitted, no required
field is lacking and every key names a field.** -/
theorem check_eq_ok_empty_iff (c : Fields) (onCreate : Bool) :
    check c onCreate = .ok Report.empty ↔
      (∀ f v, given? c f = some v → f.Admits v) ∧ (∀ f, lacks c onCreate f = false) ∧
        ∀ k ∈ c.keys, (Field.ofName? k).isSome := by
  rw [check_eq]
  constructor
  · intro h
    have ho : overflows c = false := by
      cases ho : overflows c
      · rfl
      · rw [ho] at h
        cases h
    rw [ho, if_neg Bool.false_ne_true] at h
    have he : expected c onCreate = Report.empty := Except.ok.inj h
    unfold expected at he
    split at he
    · simp [Report.empty] at he
    · simp only [Report.empty, Report.mk.injEq, List.append_eq_nil_iff,
        List.filter_eq_nil_iff] at he
      obtain ⟨⟨hb, hl⟩, hu⟩ := he
      refine ⟨fun f v hv => ?_, fun f => ?_, fun k hk => ?_⟩
      · have := hb f (Field.mem_all f)
        simpa [breaks, hv] using this
      · have h1 := hb f (Field.mem_all f)
        have h2 := hl f (Field.mem_all f)
        simp only [Bool.not_eq_true] at h1
        simpa [h1] using h2
      · -- a key naming no field would be reported as unknown
        by_contra hn
        have hmem : k ∈ (c.keys.filter fun k => (Field.ofName? k).isNone).eraseDups := by
          rw [List.mem_eraseDups, List.mem_filter]
          simpa using And.intro hk hn
        rw [hu] at hmem
        cases hmem
  · rintro ⟨hadm, hlack, hkeys⟩
    rw [overflows_eq_false hadm, if_neg Bool.false_ne_true]
    congr 1
    unfold expected
    rw [if_neg (by simp [keys_hasLone_eq_false hkeys])]
    have hb : ∀ f, breaks c f = false := by
      intro f
      cases hv : given? c f with
      | none => simp [breaks, hv]
      | some v => simp [breaks, hv, hadm f v hv]
    have hu : c.keys.filter (fun k => (Field.ofName? k).isNone) = [] := by
      rw [List.filter_eq_nil_iff]
      intro k hk
      simpa [Option.isSome_iff_ne_none] using hkeys k hk
    simp [Report.empty, hb, hlack, hu]

end Candidate

end RecipeCatalog
