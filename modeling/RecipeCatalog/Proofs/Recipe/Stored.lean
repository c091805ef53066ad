import Mathlib
import RecipeCatalog.Http.Rest
import RecipeCatalog.Proofs.Recipe.Report
import RecipeCatalog.Proofs.Double.Finite
import RecipeCatalog.Proofs.Calendar.Iso

/-!
# What a stored recipe holds

A recipe is stored from a candidate that passed its check. Seen through its document, field by
field (`Recipe.column`), it holds

* `Recipe.column_ofChecked` — **every value of the candidate as storage keeps it** (a number as
  the double storage gives back, `Field.keep`), and the field's default where the candidate has
  none (`Field.absent`);
* `Recipe.Sound` — every column but the id and the version null or admitted by its field, and a
  preparer named. A recipe made from a candidate that passed the check for creation is sound
  (`Recipe.Sound.ofChecked`) and stays sound when a candidate that passed the check for an update
  overwrites it (`Recipe.Sound.overwrite`): the reference code it keeps is its own;
* `Recipe.Sound.check_withoutIdentity` — **the document of a sound recipe, without its id and
  version, passes the check of a candidate for creation.**

Text that a field's rule admits is plain text (`Field.hasLone_eq_false_of_admits`, and for
reference codes `Isbn.hasLone_eq_false_of_check`), so it is stored and given back unchanged.
-/

set_option autoImplicit false

namespace RecipeCatalog

/-! ## Reference codes are plain text -/

namespace Isbn

theorem mem_significant {t : Text} {p : Point} (hp : p ∈ t.points) :
    p = .char '-' ∨ p = .char ' ' ∨ p ∈ significant t := by
  by_cases h1 : p = .char '-'
  · exact .inl h1
  · by_cases h2 : p = .char ' '
    · exact .inr (.inl h2)
    · right; right
      simp [significant, List.mem_filter, hp, h1, h2]

theorem char_of_isDigit {p : Point} (h : isDigit p = true) : ∃ c, p = .char c := by
  cases p with
  | char c => exact ⟨c, rfl⟩
  | lone s => simp [isDigit, digit?] at h

theorem char_of_lastValue? {p : Point} (h : (lastValue? p).isSome = true) : ∃ c, p = .char c := by
  cases p with
  | char c => exact ⟨c, rfl⟩
  | lone s => simp [lastValue?, digit?] at h

theorem chars_of_form10 {ps : List Point} (h : form10 ps = true) : ∀ p ∈ ps, ∃ c, p = .char c := by
  simp only [form10, Bool.and_eq_true, List.all_eq_true] at h
  obtain ⟨⟨-, h9⟩, hlast⟩ := h
  intro p hp
  rw [← List.take_append_drop 9 ps, List.mem_append] at hp
  rcases hp with hp | hp
  · exact char_of_isDigit (h9 p hp)
  · exact char_of_lastValue? (hlast p hp)

theorem chars_of_form13 {ps : List Point} (h : form13 ps = true) : ∀ p ∈ ps, ∃ c, p = .char c := by
  simp only [form13, Bool.and_eq_true, List.all_eq_true] at h
  exact fun p hp => char_of_isDigit (h.2 p hp)

/-- Points of a form, perhaps followed by a line feed, are all scalar values when the form's are. -/
theorem chars_of_withLineEnd {ps : List Point} {n : Nat} {form : List Point → Bool}
    (hform : ∀ qs, form qs = true → ∀ p ∈ qs, ∃ c, p = .char c) (h : withLineEnd ps n form = true) :
    ∀ p ∈ ps, ∃ c, p = .char c := by
  simp only [withLineEnd, Bool.or_eq_true, Bool.and_eq_true, beq_iff_eq] at h
  rcases h with ⟨-, hf⟩ | ⟨⟨hlen, hlast⟩, hf⟩
  · exact hform ps hf
  · -- the form holds of the first `n` points, and the last one is a line feed
    intro p hp
    have hsplit : ps = ps.take n ++ [.char '\n'] := by
      have h1 := List.dropLast_append_getLast? _ hlast
      rw [List.dropLast_eq_take, hlen, Nat.add_sub_cancel] at h1
      exact h1.symm
    rw [hsplit, List.mem_append] at hp
    rcases hp with hp | hp
    · exact hform _ hf p hp
    · exact ⟨'\n', by simpa using hp⟩

/-- **A reference code that is an ISBN is plain text.** -/
theorem hasLone_eq_false_of_check {t : Text} (h : check t = .ok true) : t.hasLone = false := by
  have hsig : ∀ p ∈ significant t, ∃ c, p = .char c := by
    unfold check at h
    dsimp only at h
    split at h
    · exact chars_of_withLineEnd (fun _ => chars_of_form10) (by assumption)
    · split at h
      · exact chars_of_withLineEnd (fun _ => chars_of_form13) (by assumption)
      · cases h
  apply Text.hasLone_eq_false_of_chars
  intro p hp
  rcases mem_significant hp with rfl | rfl | hp
  · exact ⟨_, rfl⟩
  · exact ⟨_, rfl⟩
  · exact hsig p hp

end Isbn

/-! ## Text that a rule admits is plain text -/

namespace Field

/-- **Text that the rule of a field other than the id admits is plain text.** -/
theorem hasLone_eq_false_of_admits {f : Field} {t : Text} (h : f.Admits (.str t)) (hf : f ≠ .id) :
    t.hasLone = false := by
  cases h with
  | id _ => exact absurd rfl hf
  | name h =>
    simp only [isName, Bool.and_eq_true, Bool.not_eq_true'] at h
    exact h.1
  | category h =>
    rcases h with h | h | h <;> rw [Text.is_iff.1 h, Text.hasLone_ofString]
  | preparer h =>
    rcases h with h | h | h <;> rw [Text.is_iff.1 h, Text.hasLone_ofString]
  | date h =>
    simp only [isDate, Bool.and_eq_true] at h
    split at h
    · exact Date.hasLone_eq_false_of_read (by assumption)
    · simp at h
  | referenceCode h =>
    apply Isbn.hasLone_eq_false_of_check
    unfold isReference at h
    split at h
    · rename_i b hb
      rw [hb, h]
    · cases h
  | homepage h =>
    unfold Url.isAbsolute at h
    split at h
    · exact Text.hasLone_eq_false_of_toString? (by assumption)
    · cases h

end Field

/-! ## The columns of a stored recipe -/

namespace Recipe

/-- The value a stored recipe shows for a field in its document. -/
def column (r : Recipe) : Field → Value
  | .id => .ofString r.id
  | .version => .int r.version
  | .name => .ofString r.name
  | .difficulty => optional .int r.difficulty
  | .category => optional .ofString r.category
  | .preparer => .ofString r.preparer
  | .price => .float r.price
  | .intensity => optional .float r.intensity
  | .available => optional .bool r.available
  | .date => optional (fun d => .ofString d.iso) r.date
  | .referenceCode => .ofString r.referenceCode
  | .homepage => optional .ofString r.homepage
  | .ingredients => .array (r.ingredients.map .str)
  | .extras => .array r.extras

/-- A value as a candidate field gives it: absent when null. -/
def present : Value → Option Value
  | .null => none
  | v => some v

theorem eq_of_present {w v : Value} (h : present w = some v) : w = v := by
  cases w <;> simp [present] at h ⊢ <;> exact h

theorem document_eq (r : Recipe) :
    r.document = Field.all.map fun f => (Text.ofString f.wireName, r.column f) := rfl

theorem lookup_withoutIdentity (r : Recipe) (f : Field) :
    (Http.Rest.withoutIdentity r).lookup f.wireName =
      if f = .id ∨ f = .version then none else some (r.column f) := by
  cases f <;> rfl

theorem given?_withoutIdentity (r : Recipe) (f : Field) :
    Candidate.given? (Http.Rest.withoutIdentity r) f =
      if f = .id ∨ f = .version then none else present (r.column f) := by
  unfold Candidate.given?
  rw [lookup_withoutIdentity]
  by_cases hf : f = .id ∨ f = .version
  · simp only [hf, if_true]
  · simp only [hf, if_false]
    cases r.column f <;> rfl


theorem keys_withoutIdentity (r : Recipe) :
    (Http.Rest.withoutIdentity r).keys = (Field.all.drop 2).map fun f => Text.ofString f.wireName :=
  rfl

theorem ofName?_keys_withoutIdentity (r : Recipe) :
    ∀ k ∈ (Http.Rest.withoutIdentity r).keys, (Field.ofName? k).isSome := by
  rw [keys_withoutIdentity]
  decide

/-! ## Recipes made from checked candidates -/

theorem given?_eq (c : Fields) (f : Field) : given? c f = Candidate.given? c f := rfl

theorem ofString_string {c : Fields} {f : Field} {t : Text}
    (hg : Candidate.given? c f = some (.str t)) (ht : t.hasLone = false) :
    Value.ofString (string c f) = .str t := by
  obtain ⟨s, hs⟩ := Text.toString?_of_hasLone ht
  simp [string, given?_eq, hg, Value.string?, hs, Value.ofString, Text.ofString_of_toString? hs]

theorem optional_string? {c : Fields} {f : Field} {t : Text}
    (hg : Candidate.given? c f = some (.str t)) (ht : t.hasLone = false) :
    optional Value.ofString (string? c f) = .str t := by
  obtain ⟨s, hs⟩ := Text.toString?_of_hasLone ht
  simp [string?, given?_eq, hg, Value.string?, hs, optional, Value.ofString,
    Text.ofString_of_toString? hs]

theorem map_str_filterMap_text? {items : List Value} (h : ∀ i ∈ items, ∃ t, i = .str t) :
    (items.filterMap Value.text?).map Value.str = items := by
  induction items with
  | nil => rfl
  | cons i items ih =>
    obtain ⟨t, rfl⟩ := h i (by simp)
    simp [Value.text?, ih (fun j hj => h j (by simp [hj]))]

end Recipe

namespace Field

/-- What a recipe made from a candidate holds for a field the candidate lacks. -/
def absent : Field → Value
  | .name | .preparer | .referenceCode => .ofString ""
  | .price => .float 0.0
  | .ingredients | .extras => .array []
  | _ => .null

/-- What a recipe made from a candidate holds for a value its field admits: a number as the
double storage gives back, anything else as it was given. -/
def keep : Field → Value → Value
  | .price, v | .intensity, v =>
    match v.toFloat? with
    | some x => .float (Column.real x)
    | none => v
  | _, v => v

end Field

namespace Recipe

/-- **A recipe made from a candidate whose values its fields admit holds every value as storage
keeps it, and the field's default where the candidate has none.** -/
theorem column_ofChecked {c : Fields} (h : ∀ f v, Candidate.given? c f = some v → f.Admits v)
    (key : String) (n : Nat) {f : Field} (hf : f ≠ .id) (hv : f ≠ .version) :
    (ofChecked c key n).column f = ((Candidate.given? c f).map f.keep).getD f.absent := by
  cases hg : Candidate.given? c f with
  | none =>
    cases f <;> simp [column, ofChecked, given?_eq, hg, string, string?, real?, items, optional,
      Field.absent] at hf hv ⊢
  | some v =>
    have ha := h f v hg
    have hlone : ∀ t, v = .str t → t.hasLone = false := by
      rintro t rfl
      exact Field.hasLone_eq_false_of_admits ha hf
    cases ha with
    | id _ => exact absurd rfl hf
    | version _ => exact absurd rfl hv
    | name _ => exact ofString_string hg (hlone _ rfl)
    | difficulty _ _ => simp [column, ofChecked, given?_eq, hg, optional, Field.keep]
    | category _ => exact optional_string? hg (hlone _ rfl)
    | preparer _ => exact ofString_string hg (hlone _ rfl)
    | priceInt hx _ =>
      simp [column, ofChecked, given?_eq, hg, real?, Value.toFloat?, hx, Field.keep]
    | priceFloat _ _ => simp [column, ofChecked, given?_eq, hg, real?, Value.toFloat?, Field.keep]
    | intensityInt hx _ _ =>
      simp [column, ofChecked, given?_eq, hg, real?, Value.toFloat?, hx, Field.keep, optional]
    | intensityFloat _ _ _ =>
      simp [column, ofChecked, given?_eq, hg, real?, Value.toFloat?, Field.keep, optional]
    | available b => simp [column, ofChecked, given?_eq, hg, optional, Field.keep]
    | date hd =>
      rename_i t
      have hd' := hd
      simp only [Field.isDate, Bool.and_eq_true] at hd'
      obtain ⟨-, hr⟩ := hd'
      split at hr
      · rename_i dt hread
        simp [column, ofChecked, given?_eq, hg, hread, optional, Field.keep, Value.ofString,
          Date.ofString_iso_of_isDate hd hread]
      · cases hr
    | referenceCode _ => exact ofString_string hg (hlone _ rfl)
    | homepage _ => exact optional_string? hg (hlone _ rfl)
    | ingredients hi =>
      simp [column, ofChecked, given?_eq, hg, items, Field.keep, map_str_filterMap_text? hi]
    | extras _ => simp [column, ofChecked, given?_eq, hg, items, Field.keep]

/-! ## Sound recipes -/

/-- A stored recipe is sound when each column but the id and the version is null or admitted by
its field, and a preparer is named. -/
structure Sound (r : Recipe) : Prop where
  admits : ∀ f, f ≠ .id → f ≠ .version → r.column f = .null ∨ f.Admits (r.column f)
  named : r.preparer ≠ ""

/-- A recipe whose columns are all admitted by their fields and whose preparer is named is
sound. -/
theorem Sound.of_admits {r : Recipe}
    (h : ∀ f ∈ Field.all, f ≠ .id → f ≠ .version → f.Admits (r.column f))
    (hp : r.preparer ≠ "") : r.Sound :=
  ⟨fun f hf hv => .inr (h f (Field.mem_all f) hf hv), hp⟩

/-- **The document of a sound recipe, without its id and version, passes the check of a
candidate for creation.** -/
theorem Sound.check_withoutIdentity {r : Recipe} (h : r.Sound) :
    Candidate.check (Http.Rest.withoutIdentity r) true = .ok Report.empty := by
  rw [Candidate.check_eq_ok_empty_iff]
  refine ⟨fun f v hv => ?_, fun f => ?_, ofName?_keys_withoutIdentity r⟩
  · rw [given?_withoutIdentity] at hv
    split at hv
    · cases hv
    · rename_i hf
      simp only [not_or] at hf
      rcases h.admits f hf.1 hf.2 with hn | ha
      · rw [hn] at hv
        cases hv
      · rwa [← eq_of_present hv]
  · have hnamed : (Text.ofString r.preparer).points.isEmpty = false := by
      cases hp : r.preparer.toList with
      | nil => exact absurd (String.toList_eq_nil_iff.1 hp) h.named
      | cons c cs => simp [Text.ofString, hp]
    cases f <;> simp [Candidate.lacks, given?_withoutIdentity, column, present, Value.ofString,
      Value.truthy, hnamed]

end Recipe

namespace Field

/-- Storage keeps a value that a field admits admitted. -/
theorem Admits.keep {f : Field} {v : Value} (h : f.Admits v) : f.Admits (f.keep v) := by
  have h' := h
  cases h with
  | priceInt hx h0 =>
    simp only [Field.keep, Value.toFloat?, hx]
    exact .priceFloat (Column.real_isFinite (Double.isFinite_of_ofInt? hx)) (Column.real_nonneg h0)
  | priceFloat hfin h0 =>
    simp only [Field.keep, Value.toFloat?]
    exact .priceFloat (Column.real_isFinite hfin) (Column.real_nonneg h0)
  | intensityInt hx h0 h1 =>
    simp only [Field.keep, Value.toFloat?, hx, Column.real_eq_of_pos h0]
    exact .intensityFloat (Double.isFinite_of_ofInt? hx) h0 h1
  | intensityFloat hfin h0 h1 =>
    simp only [Field.keep, Value.toFloat?, Column.real_eq_of_pos h0]
    exact .intensityFloat hfin h0 h1
  | _ => exact h'

end Field

namespace Recipe

theorem column_overwrite (old new : Recipe) {f : Field} (hf : f ≠ .id) (hv : f ≠ .version) :
    (old.overwrite new).column f = if f = .referenceCode then old.column f else new.column f := by
  cases f <;> simp [column, overwrite] at hf hv ⊢

/-- Each column of a recipe made from a candidate that passed its check is null or admitted,
but a reference code that the check did not require. -/
theorem admits_ofChecked {c : Fields} {onCreate : Bool}
    (h : Candidate.check c onCreate = .ok Report.empty) (key : String) (n : Nat) {f : Field}
    (hf : f ≠ .id) (hv : f ≠ .version) (hrc : f = .referenceCode → onCreate = true) :
    (ofChecked c key n).column f = .null ∨ f.Admits ((ofChecked c key n).column f) := by
  obtain ⟨hadm, hlack, -⟩ := (Candidate.check_eq_ok_empty_iff c onCreate).1 h
  rw [column_ofChecked hadm key n hf hv]
  cases hg : Candidate.given? c f with
  | some v => exact .inr (hadm f v hg).keep
  | none =>
    have hl := hlack f
    cases f <;> simp_all [Field.absent, Candidate.lacks]
    · exact .ingredients (by simp)
    · exact .extras (by simp)

theorem preparer_ofChecked_ne {c : Fields} {onCreate : Bool}
    (h : Candidate.check c onCreate = .ok Report.empty) (key : String) (n : Nat) :
    (ofChecked c key n).preparer ≠ "" := by
  obtain ⟨hadm, hlack, -⟩ := (Candidate.check_eq_ok_empty_iff c onCreate).1 h
  have hl := hlack .preparer
  cases hg : Candidate.given? c .preparer with
  | none => simp [Candidate.lacks, hg] at hl
  | some v =>
    have hcol := column_ofChecked hadm key n (f := .preparer) (by decide) (by decide)
    simp only [hg, Option.map_some, Option.getD_some, column, Field.keep] at hcol
    simp only [Candidate.lacks, hg, Option.any_some, Bool.not_eq_false'] at hl
    intro he
    rw [← hcol, he] at hl
    simp [Value.ofString, Value.truthy, Text.ofString] at hl

/-- **A recipe made from a candidate that passed the check for creation is sound.** -/
theorem Sound.ofChecked {c : Fields} (h : Candidate.check c true = .ok Report.empty)
    (key : String) (n : Nat) : (Recipe.ofChecked c key n).Sound where
  admits _ hf hv := admits_ofChecked h key n hf hv (fun _ => rfl)
  named := preparer_ofChecked_ne h key n

/-- **A sound recipe overwritten by a candidate that passed the check for an update stays
sound: the reference code it keeps is its own.** -/
theorem Sound.overwrite {old : Recipe} (hold : old.Sound) {c : Fields}
    (h : Candidate.check c false = .ok Report.empty) (key : String) (n : Nat) :
    (old.overwrite (Recipe.ofChecked c key n)).Sound where
  admits f hf hv := by
    rw [column_overwrite old _ hf hv]
    split
    · exact hold.admits f hf hv
    · rename_i hrc
      exact admits_ofChecked h key n hf hv (fun e => absurd e hrc)
  named := preparer_ofChecked_ne h key n

end Recipe

end RecipeCatalog
