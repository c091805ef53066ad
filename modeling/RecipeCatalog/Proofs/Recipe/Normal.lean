import Mathlib
import RecipeCatalog.Recipe.Entity
import RecipeCatalog.Proofs.Calendar.Iso
import RecipeCatalog.Proofs.Catalog.Calls
import RecipeCatalog.Catalog.Ids
import RecipeCatalog.Proofs.Recipe.Stored

/-!
# Entities are normal after one pass

An entity is built from any candidate, checked or not, and written out as a document. One pass
normalises the candidate: the date is read and written `yyyy-mm-dd` (an empty date becomes
null), an empty reference code becomes the empty text, ingredients and extras become lists, an
id is drawn when none is given, and the version is 0. **A second pass changes nothing**
(`Entity.normalise_idempotent`): the document is built again from itself, and no id is drawn.

* `Entity.column` — the value a document shows for a field, given the document's date;
* `Entity.Normal` — what every entity built with a drawn id satisfies (`Entity.ofCandidate_normal`);
* `Entity.rebuild_document` — an entity in normal form is built again from its document, up to
  the spelling of an empty date, so the document comes back;
* `Entity.ofCandidate_of_checked` — an entity is built from every candidate that passed the check
  for creation, and the recipe stored from that candidate (`Recipe.ofChecked`) holds each value
  of the entity's document as storage keeps it.
-/

set_option autoImplicit false

namespace RecipeCatalog

namespace Entity

/-! ## Documents seen field by field -/

/-- The value an entity's document shows for a field, given the document's date. -/
def column (e : Entity) (date : Value) : Field → Value
  | .id => e.id
  | .version => .int e.version
  | .name => e.name
  | .difficulty => e.difficulty
  | .category => e.category
  | .preparer => e.preparer
  | .price => e.price
  | .intensity => e.intensity
  | .available => e.available
  | .date => date
  | .referenceCode => e.referenceCode
  | .homepage => e.homepage
  | .ingredients => .array e.ingredients
  | .extras => .array e.extras

/-- The fields of a document whose columns are given. -/
def columns (col : Field → Value) : Fields :=
  Field.all.map fun f => (Text.ofString f.wireName, col f)

theorem document_eq (e : Entity) :
    e.document = (dateValue e.date).map fun date => columns (e.column date) := by
  unfold document
  cases dateValue e.date <;> rfl

theorem document_eq_ok {e : Entity} {D : Fields} (h : e.document = .ok D) :
    ∃ date, dateValue e.date = .ok date ∧ D = columns (e.column date) := by
  rw [document_eq] at h
  cases hd : dateValue e.date with
  | error f => rw [hd] at h; cases h
  | ok date =>
    rw [hd] at h
    exact ⟨date, rfl, (Except.ok.inj h).symm⟩

@[simp] theorem lookup_columns (col : Field → Value) (f : Field) :
    (columns col).lookup f.wireName = some (col f) := by
  cases f <;> rfl

@[simp] theorem optional_columns (col : Field → Value) (f : Field) :
    optional (columns col) f = col f := by
  simp [optional]

@[simp] theorem required_columns (col : Field → Value) (f : Field) :
    required (columns col) f = .ok (col f) := by
  simp [required]

/-! ## The steps of building an entity -/

@[simp] theorem listed_array (items : List Value) : listed (.array items) = .ok items := by
  cases items <;> rfl

theorem isNull_idOf {fresh : Value} (hfresh : fresh.isNull = false) (given : Value) :
    (idOf given fresh).isNull = false := by
  cases given <;> simp_all [idOf, Value.isNull]

theorem idOf_of_isNull {given : Value} (h : given.isNull = false) (fresh : Value) :
    idOf given fresh = given := by
  cases given <;> simp_all [idOf, Value.isNull]

theorem codeOf_codeOf (given : Value) : codeOf (codeOf given) = codeOf given := by
  unfold codeOf
  split
  · simp [*]
  · rfl

/-- A day is read from text, and every date read is a calendar date. -/
theorem ofParts_of_dateOf {v : Value} {d : Date} (h : dateOf v = .ok (.day d)) :
    Date.ofParts d.year d.month d.day = .ok d := by
  cases v with
  | str t =>
    cases hr : Date.read t with
    | error f => simp [dateOf, hr] at h
    | ok d' =>
      simp only [dateOf, hr] at h
      cases h
      exact Date.ofParts_of_read hr
  | _ => cases h

/-! ## Entities of checked candidates -/

theorem lookup_of_given? {c : Fields} {f : Field} {v : Value} (h : Candidate.given? c f = some v) :
    c.lookup f.wireName = some v := by
  unfold Candidate.given? at h
  split at h
  · cases h
  · exact h

theorem getD_given? (c : Fields) (f : Field) : (Candidate.given? c f).getD .null = optional c f := by
  unfold Candidate.given? optional
  split
  · rename_i h
    rw [h]
    rfl
  · rfl

theorem codeOf_str (t : Text) : codeOf (.str t) = .str t := by
  unfold codeOf
  split
  · rfl
  · rename_i h
    obtain ⟨ps⟩ := t
    have hps : ps = [] := by simpa [Value.truthy] using h
    subst hps
    rfl

/-- The date a checked candidate gives is read, and its document shows it as given. -/
theorem dateOf_checked {c : Fields} (h : ∀ v, Candidate.given? c .date = some v → Field.date.Admits v) :
    ∃ date, dateOf (optional c .date) = .ok date ∧
      dateValue date = .ok ((Candidate.given? c .date).getD .null) := by
  rw [← getD_given?]
  cases hg : Candidate.given? c .date with
  | none => exact ⟨.other .null, rfl, rfl⟩
  | some v =>
    obtain ⟨t, ht⟩ : ∃ t, v = .str t ∧ Field.isDate t = true := by
      cases h v hg with
      | date ht => exact ⟨_, rfl, ht⟩
    obtain ⟨rfl, hdate⟩ := ht
    obtain ⟨d, hread⟩ : ∃ d, Date.read t = .ok d := by
      simp only [Field.isDate, Bool.and_eq_true] at hdate
      split at hdate
      · exact ⟨_, ‹_›⟩
      · exact absurd hdate.2 Bool.false_ne_true
    refine ⟨.day d, by simp [dateOf, hread, Functor.map, Except.map], ?_⟩
    simp [dateValue, Value.ofString, Date.ofString_iso_of_isDate hdate hread]

/-- The list a checked candidate gives for a list field is listed as it is, an absent one as
empty. -/
theorem listed_checked {c : Fields} {f : Field} (hf : f = .ingredients ∨ f = .extras)
    (h : ∀ v, Candidate.given? c f = some v → f.Admits v) :
    ∃ items, listed (optional c f) = .ok items ∧
      Value.array items = (Candidate.given? c f).getD (.array []) := by
  rw [← getD_given?]
  cases hg : Candidate.given? c f with
  | none => exact ⟨[], rfl, rfl⟩
  | some v =>
    obtain ⟨items, rfl⟩ : ∃ items, v = .array items := by
      rcases hf with rfl | rfl <;> cases h v hg <;> exact ⟨_, rfl⟩
    exact ⟨items, listed_array items, rfl⟩

/-- A field required on creation that a candidate does not lack is given. -/
theorem given?_of_not_lacks {c : Fields} {f : Field}
    (hf : f = .name ∨ f = .preparer ∨ f = .price ∨ f = .referenceCode)
    (hl : Candidate.lacks c true f = false) : ∃ v, Candidate.given? c f = some v := by
  rcases hf with rfl | rfl | rfl | rfl <;>
    cases hg : Candidate.given? c _ <;> simp_all [Candidate.lacks]

/-- **An entity is built from every candidate that passed the check for creation, and the recipe
stored from that candidate holds each value of the entity's document as storage keeps it**: a
number as the double storage gives back, anything else as it is. -/
theorem ofCandidate_of_checked {c : Fields} (h : Candidate.check c true = .ok Report.empty)
    (fresh : Value) (key : String) (n : Nat) :
    ∃ e, ofCandidate c fresh = .ok e ∧ ∃ dv, dateValue e.date = .ok dv ∧
      ∀ f, f ≠ .id → f ≠ .version →
        (Recipe.ofChecked c key n).column f = f.keep (e.column dv f) := by
  obtain ⟨hadm, hlack, -⟩ := (Candidate.check_eq_ok_empty_iff c true).1 h
  obtain ⟨name, hname⟩ := given?_of_not_lacks (by simp) (hlack .name)
  obtain ⟨preparer, hpreparer⟩ := given?_of_not_lacks (by simp) (hlack .preparer)
  obtain ⟨price, hprice⟩ := given?_of_not_lacks (by simp) (hlack .price)
  obtain ⟨code, hcode⟩ := given?_of_not_lacks (by simp) (hlack .referenceCode)
  obtain ⟨t, rfl⟩ : ∃ t, code = .str t := by
    cases hadm _ _ hcode with
    | referenceCode _ => exact ⟨_, rfl⟩
  obtain ⟨date, hdate, hdv⟩ := dateOf_checked (hadm .date)
  obtain ⟨ingredients, hings, hings'⟩ := listed_checked (.inl rfl) (hadm .ingredients)
  obtain ⟨extras, hexs, hexs'⟩ := listed_checked (.inr rfl) (hadm .extras)
  have req : ∀ {f : Field} {v : Value}, Candidate.given? c f = some v → required c f = .ok v :=
    fun hg => by simp [required, lookup_of_given? hg]
  let e : Entity :=
    { id := idOf (optional c .id) fresh, version := 0, name, difficulty := optional c .difficulty,
      category := optional c .category, preparer, price, intensity := optional c .intensity,
      available := optional c .available, date, referenceCode := codeOf (optional c .referenceCode),
      homepage := optional c .homepage, ingredients, extras }
  refine ⟨e, ?_, _, hdv, fun f hf hv => ?_⟩
  · simp only [ofCandidate, hdate, req hname, req hpreparer, req hprice, hings, hexs, bind,
      Except.bind, pure, Except.pure, e]
  rw [Recipe.column_ofChecked hadm key n hf hv]
  cases f with
  | id => exact absurd rfl hf
  | version => exact absurd rfl hv
  | name => rw [hname]; rfl
  | preparer => rw [hpreparer]; rfl
  | price => rw [hprice]; rfl
  | referenceCode =>
    simp only [e, column, ← getD_given?, hcode, Option.getD_some, Option.map_some, codeOf_str]
  | date =>
    simp only [column]
    cases Candidate.given? c .date <;> rfl
  | ingredients =>
    simp only [e, column, hings']
    cases Candidate.given? c .ingredients <;> rfl
  | extras =>
    simp only [e, column, hexs']
    cases Candidate.given? c .extras <;> rfl
  | difficulty | category | intensity | available | homepage =>
    simp only [e, column, ← getD_given?]
    cases Candidate.given? c _ <;> rfl

/-! ## The normal form -/

/-- What one pass leaves in an entity: an id that is not null, version 0, a reference code
that is taken as it is, and a day only where it is a calendar date. -/
structure Normal (e : Entity) : Prop where
  id_isNull : e.id.isNull = false
  version_eq : e.version = 0
  referenceCode_eq : codeOf e.referenceCode = e.referenceCode
  day_valid : ∀ d, e.date = .day d → Date.ofParts d.year d.month d.day = .ok d

/-- **Every entity built from a candidate with a drawn id is normal.** -/
theorem ofCandidate_normal {c : Fields} {fresh : Value} {e : Entity}
    (hfresh : fresh.isNull = false) (h : ofCandidate c fresh = .ok e) : e.Normal := by
  unfold ofCandidate at h
  obtain ⟨date, hdate, h⟩ := Except.bind_eq_ok h
  obtain ⟨name, -, h⟩ := Except.bind_eq_ok h
  obtain ⟨preparer, -, h⟩ := Except.bind_eq_ok h
  obtain ⟨price, -, h⟩ := Except.bind_eq_ok h
  obtain ⟨ingredients, -, h⟩ := Except.bind_eq_ok h
  obtain ⟨extras, -, h⟩ := Except.bind_eq_ok h
  cases Except.ok.inj h
  refine ⟨isNull_idOf hfresh _, rfl, codeOf_codeOf _, ?_⟩
  rintro d rfl
  exact ofParts_of_dateOf hdate

/-! ## Building again from a document -/

/-- The date a normal entity's document shows is read back as a date shown the same way: a day
as itself, and an empty value as null. -/
theorem dateOf_dateValue {date : EntityDate} {dv : Value}
    (hday : ∀ d, date = .day d → Date.ofParts d.year d.month d.day = .ok d)
    (h : dateValue date = .ok dv) : ∃ date', dateOf dv = .ok date' ∧ dateValue date' = .ok dv := by
  cases date with
  | day d =>
    cases h
    refine ⟨.day d, ?_, rfl⟩
    simp [dateOf, Value.ofString, Date.read_iso (hday d rfl), Functor.map, Except.map]
  | other v =>
    have hv : dv = .null := by
      simp only [dateValue] at h
      split at h
      · cases h
      · exact (Except.ok.inj h).symm
    subst hv
    exact ⟨.other .null, rfl, rfl⟩

/-- Building from the columns of a normal entity gives the entity back, with the date read from
the one shown. -/
theorem ofCandidate_columns {e : Entity} (hn : e.Normal) (dv fresh : Value) :
    ofCandidate (columns (e.column dv)) fresh = (dateOf dv).map fun date => { e with date } := by
  simp only [ofCandidate, optional_columns, required_columns, column, listed_array,
    idOf_of_isNull hn.id_isNull, hn.referenceCode_eq, bind, Except.bind, pure, Except.pure]
  cases dateOf dv with
  | error f => rfl
  | ok date =>
    cases e
    simp only [hn.version_eq.symm]
    rfl

/-- **A normal entity is built again from its document**, up to the spelling of an empty date,
so its document comes back. -/
theorem rebuild_document {e : Entity} {D : Fields} (hn : e.Normal) (hd : e.document = .ok D)
    (fresh : Value) : ∃ e', ofCandidate D fresh = .ok e' ∧ e'.document = .ok D := by
  obtain ⟨dv, hdv, rfl⟩ := document_eq_ok hd
  obtain ⟨date, hread, hshown⟩ := dateOf_dateValue hn.day_valid hdv
  refine ⟨{ e with date }, ?_, ?_⟩
  · rw [ofCandidate_columns hn, hread]
    rfl
  · rw [document_eq]
    simp only [hshown]
    rfl

theorem drawsId_document {e : Entity} {D : Fields} (hn : e.Normal) (hd : e.document = .ok D) :
    drawsId D = false := by
  obtain ⟨dv, -, rfl⟩ := document_eq_ok hd
  simpa [drawsId, column] using hn.id_isNull

/-- **Normalising an entity's document is idempotent.** Whenever building an entity from a
candidate (with an id drawn when it names none) and writing it gives a document `D`, building
from `D` draws no id, and gives `D` again whatever id it would draw. -/
theorem normalise_idempotent {c D : Fields} {fresh : Value} (hfresh : fresh.isNull = false)
    (h : (ofCandidate c fresh >>= document) = .ok D) :
    drawsId D = false ∧ ∀ fresh', (ofCandidate D fresh' >>= document) = .ok D := by
  obtain ⟨e, he, hd⟩ := Except.bind_eq_ok h
  have hn := ofCandidate_normal hfresh he
  refine ⟨drawsId_document hn hd, fun fresh' => ?_⟩
  obtain ⟨e', he', hd'⟩ := rebuild_document hn hd fresh'
  rw [he']
  exact hd'

/-- A candidate with a date in the compact ISO form, a reference code that is zero and
ingredients given as text. -/
def compactDated : Fields :=
  [(Text.ofString "name", .ofString "Zeta"), (Text.ofString "preparer", .ofString "JOHANN_LAFER"),
    (Text.ofString "price", .int 5), (Text.ofString "date", .ofString "20220228"),
    (Text.ofString "referenceCode", .int 0), (Text.ofString "ingredients", .ofString "ab")]

/-- Its document, with the first id drawn. -/
def compactDatedDocument : Fields :=
  [(Text.ofString "id", .ofString (Ids.drawn 1)), (Text.ofString "version", .int 0),
    (Text.ofString "name", .ofString "Zeta"), (Text.ofString "difficulty", .null),
    (Text.ofString "category", .null), (Text.ofString "preparer", .ofString "JOHANN_LAFER"),
    (Text.ofString "price", .int 5), (Text.ofString "intensity", .null),
    (Text.ofString "available", .null), (Text.ofString "date", .ofString "2022-02-28"),
    (Text.ofString "referenceCode", .ofString ""), (Text.ofString "homepage", .null),
    (Text.ofString "ingredients", .array [.ofString "a", .ofString "b"]),
    (Text.ofString "extras", .array [])]

theorem normalise_idempotent_sample :
    (Value.ofString (Ids.drawn 1)).isNull = false ∧
      (ofCandidate compactDated (.ofString (Ids.drawn 1)) >>= document) = .ok compactDatedDocument ∧
      drawsId compactDatedDocument = false ∧
      ∀ fresh', (ofCandidate compactDatedDocument fresh' >>= document) = .ok compactDatedDocument := by
  have h : (ofCandidate compactDated (.ofString (Ids.drawn 1)) >>= document) =
      .ok compactDatedDocument := by
    rfl
  exact ⟨rfl, h, normalise_idempotent rfl h⟩

end Entity

end RecipeCatalog
