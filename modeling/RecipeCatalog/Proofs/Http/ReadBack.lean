import Mathlib
import RecipeCatalog.Proofs.Http.Versions

/-!
# Reading back what was submitted

A recipe is created, or overwritten by an update, from a candidate that passed its check; from
then until its next update or its deletion, looking it up finds that very recipe
(`Store.get?_run_of_not_written`), and fetching it over HTTP answers its document, or the
server error when the document has no JSON text (`Http.Rest.fetched`,
`Store.GivesBackUntilWritten`). Its columns hold the candidate's values as storage keeps them
(`Recipe.column_ofChecked`): text, dates and lists as given, absent fields as their defaults,
and a number as the double it denotes, except that storage writes an integral double as an
integer, so that a price of negative zero comes back as zero. So the values submitted come back
bit for bit exactly when the price submitted is not negative zero
(`Recipe.column_submitted_iff`).

* `Store.created_read_back` — **a created recipe, and each update of it, is given back as
  submitted until it is next written, exactly when its price is not negative zero**;
* `Store.negative_zero_price_reads_back_as_zero` — a price of negative zero is given back as
  zero.
-/

set_option autoImplicit false

namespace RecipeCatalog

/-! ## Values as submitted -/

namespace Field

/-- A value as a candidate submits it: a number as the double it denotes, anything else as
given. -/
def submitted : Field → Value → Value
  | .price, v | .intensity, v =>
    match v.toFloat? with
    | some x => .float x
    | none => v
  | _, v => v

/-- Storage keeps an admitted value as submitted, but for a price of negative zero. -/
theorem keep_eq_submitted_iff {f : Field} {v : Value} (h : f.Admits v) :
    f.keep v = f.submitted v ↔ ¬ (f = .price ∧ v.toFloat? = some (-0.0)) := by
  cases h with
  | priceInt hx _ =>
    simp only [keep, submitted, Value.toFloat?, hx, Value.float.injEq, true_and,
      Option.some.injEq]
    exact Column.real_eq_self_iff _
  | priceFloat _ _ =>
    simp only [keep, submitted, Value.toFloat?, Value.float.injEq, true_and, Option.some.injEq]
    exact Column.real_eq_self_iff _
  | intensityInt hx h0 _ =>
    simp [keep, submitted, Value.toFloat?, hx, Column.real_eq_of_pos h0]
  | intensityFloat _ h0 _ =>
    simp [keep, submitted, Value.toFloat?, Column.real_eq_of_pos h0]
  | _ => simp [keep, submitted]

end Field

namespace Fields

theorem get?_erase_of_ne (fs : Fields) {key k : Text} (h : k ≠ key) :
    (fs.erase key).get? k = fs.get? k := by
  unfold erase get?
  rw [List.find?_filter]
  congr 2
  funext p
  by_cases hp : p.1 = k
  · simp [hp, h]
  · simp [hp]

end Fields

/-- A candidate for creation gives each field but the id and version as the candidate does. -/
theorem Candidate.given?_forCreation (c : Fields) {f : Field} (hf : f ≠ .id)
    (hv : f ≠ .version) :
    Candidate.given? (Candidate.forCreation c) f = Candidate.given? c f := by
  have hne : ∀ g : Field, g ≠ f → Text.ofString f.wireName ≠ Text.ofString g.wireName :=
    fun g hg he => hg (Field.wireName_injective (Text.ofString_inj he)).symm
  unfold Candidate.given? Fields.lookup Candidate.forCreation
  have hversion : Text.ofString f.wireName ≠ Text.ofString "version" := hne .version (Ne.symm hv)
  have hid : Text.ofString f.wireName ≠ Text.ofString "id" := hne .id (Ne.symm hf)
  rw [Fields.get?_erase_of_ne _ hversion, Fields.get?_erase_of_ne _ hid]

namespace Recipe

/-- A recipe holds, on the fields `p` picks, a candidate's values as submitted, and the field's
default where the candidate has none. -/
def HoldsSubmitted (r : Recipe) (c : Fields) (p : Field → Prop) : Prop :=
  ∀ f, p f → r.column f = ((Candidate.given? c f).map f.submitted).getD f.absent

theorem holdsSubmitted_congr {r : Recipe} {c d : Fields} {p : Field → Prop}
    (h : ∀ f, p f → Candidate.given? c f = Candidate.given? d f) :
    r.HoldsSubmitted c p ↔ r.HoldsSubmitted d p :=
  forall_congr' fun f => imp_congr_right fun hf => by rw [h f hf]

/-- Off the reference code, an overwritten recipe holds what the recipe written over it holds. -/
theorem holdsSubmitted_overwrite {old new : Recipe} {c : Fields} {p : Field → Prop}
    (hp : ∀ f, p f → f ≠ .id ∧ f ≠ .version ∧ f ≠ .referenceCode) :
    (old.overwrite new).HoldsSubmitted c p ↔ new.HoldsSubmitted c p := by
  refine forall_congr' fun f => imp_congr_right fun hf => ?_
  obtain ⟨hi, hv, hr⟩ := hp f hf
  rw [column_overwrite old new hi hv, if_neg hr]

/-- **A recipe made from a checked candidate holds, on any fields but its id and version, the
values as submitted, bit for bit, exactly when the candidate's price (if among those fields) is
not negative zero.** -/
theorem column_submitted_iff {c : Fields}
    (h : ∀ f v, Candidate.given? c f = some v → f.Admits v) (key : String) (n : Nat)
    (p : Field → Prop) (hp : ∀ f, p f → f ≠ .id ∧ f ≠ .version) :
    (ofChecked c key n).HoldsSubmitted c p ↔
      ¬ (p .price ∧ (Candidate.given? c .price).bind Value.toFloat? = some (-0.0)) := by
  have hcol : ∀ f, p f → (ofChecked c key n).column f =
      ((Candidate.given? c f).map f.keep).getD f.absent :=
    fun f hf => column_ofChecked h key n (hp f hf).1 (hp f hf).2
  constructor
  · rintro hall ⟨hpp, hz⟩
    cases hg : Candidate.given? c .price with
    | none => simp [hg] at hz
    | some v =>
      have hk := hall .price hpp
      rw [hcol .price hpp, hg] at hk
      simp only [Option.map_some, Option.getD_some] at hk
      rw [hg] at hz
      exact (Field.keep_eq_submitted_iff (h .price v hg)).1 hk ⟨rfl, hz⟩
  · intro hnot f hf
    rw [hcol f hf]
    cases hg : Candidate.given? c f with
    | none => rfl
    | some v =>
      simp only [Option.map_some, Option.getD_some]
      refine (Field.keep_eq_submitted_iff (h f v hg)).2 ?_
      rintro ⟨rfl, hz⟩
      exact hnot ⟨hf, by rw [hg]; exact hz⟩

end Recipe

/-! ## The recipe with an id, between its writes -/

namespace Text

theorem eq_ofString_of_utf8? {t : Text} {u : String} (h : t.utf8? = .ok u) : t = ofString u := by
  unfold utf8? at h
  cases ht : t.toString? with
  | some v =>
    rw [ht] at h
    cases h
    exact (ofString_of_toString? ht).symm
  | none =>
    have hl : t.hasLone = true := by
      cases hl : t.hasLone with
      | false =>
        obtain ⟨v, hv⟩ := toString?_of_hasLone hl
        rw [hv] at ht
        cases ht
      | true => rfl
    obtain ⟨⟨i, sg⟩, hp⟩ := Option.isSome_iff_exists.1 hl
    rw [ht] at h
    simp only [hp] at h
    cases h

end Text

/-! ## Fetched documents -/

namespace Http

namespace Value

theorem isWritable_object (fs : Fields) :
    isWritable (.object fs) = fs.all fun p => !p.1.hasLone && isWritable p.2 := by
  rw [isWritable, List.all_subtype (g := fun p => !p.1.hasLone && isWritable p.2) (fun _ _ => rfl),
    List.unattach_attach]

theorem isWritable_obj (fs : List (String × RecipeCatalog.Value)) :
    isWritable (.obj fs) = fs.all fun p => isWritable p.2 := by
  simp [RecipeCatalog.Value.obj, isWritable_object, Function.comp_def]

theorem isWritable_ofString (s : String) : isWritable (.ofString s) = true := by
  simp [RecipeCatalog.Value.ofString, isWritable]

end Value

/-- The links of a recipe's document always have JSON text, so the document has JSON text
exactly when its fields do. -/
theorem Rest.isWritable_document (r : Recipe) (req : Request) (id : String) :
    Value.isWritable (.object (Rest.withoutIdentity r ++
        [(Text.ofString "_links", Rest.recipeLinks req id)])) =
      Value.isWritable (.object (Rest.withoutIdentity r)) := by
  simp [Value.isWritable_object, Rest.recipeLinks, Rest.link, Value.isWritable_obj,
    Value.isWritable_ofString]

/-- What fetching a recipe over HTTP answers when the request does not name its entity tag:
`200` with its document, without id and version and with its links, and its version as entity
tag; or the server error when the document has no JSON text (a double in it that is not
finite, a lone surrogate in a string or a key). -/
def Rest.fetched (req : Request) (r : Recipe) : Response :=
  if Value.isWritable (.object (Rest.withoutIdentity r)) then
    ⟨200, [("content-type", "application/json"), ("etag", Rest.etag r.version)],
      .json (.object (Rest.withoutIdentity r ++
        [(Text.ofString "_links", Rest.recipeLinks req r.id)])), none⟩
  else Response.serverError

end Http

namespace Store

variable {s s' : Store}

theorem eq_ofString_of_lookup {id : Text} {r : Recipe} (h : s.lookup id = .ok (some r)) :
    id = Text.ofString r.id := by
  unfold lookup at h
  obtain ⟨key, hkey, h⟩ := Except.bind_eq_ok h
  rw [Text.eq_ofString_of_utf8? hkey, (mem_of_get? (Except.ok.inj h)).2]

theorem find?_filter_key {α : Type} (k : α → String) {xs : List α} {key x : String}
    (hk : x ≠ key) : (xs.filter (k · != key)).find? (k · == x) = xs.find? (k · == x) := by
  rw [List.find?_filter]
  congr 1
  funext y
  by_cases hyx : k y = x
  · simp [hyx, hk]
  · simp [hyx]

/-- A call that does not update a recipe leaves it as it is, or deletes it. -/
theorem Step.get?_of_ne {u : Option String} (h : Step s u s') {x : String}
    {r : Recipe} (hg : s.get? x = some r) (hu : u ≠ some x) :
    s'.get? x = some r ∨ s'.get? x = none := by
  obtain ⟨hr, hrx⟩ := mem_of_get? hg
  cases h with
  | keep hrs _ | draw hrs _ =>
    left
    unfold get? at hg ⊢
    rw [hrs, hg]
  | create d hc hname hcode hrs hd =>
    left
    unfold get? at hg ⊢
    rw [hrs, List.find?_append, hg]
    rfl
  | update c key old hc hg' hown hrs hd =>
    left
    have hne : x ≠ key := fun he => hu (by rw [he])
    have hsame : ((·.id == x) ∘ fun y : Recipe =>
        if y.id == key then old.overwrite (Recipe.ofChecked c key 0) else y) = (·.id == x) := by
      funext y
      simp only [Function.comp_apply, id_replace (id_overwrite hg' _)]
    unfold get? at hg ⊢
    rw [hrs, List.find?_map, hsame, hg]
    simp [hrx, hne]
  | delete key hrs hd =>
    by_cases hk : x = key
    · -- the recipe itself is deleted
      right
      unfold get?
      rw [hrs, List.find?_eq_none]
      intro y hy
      have := (List.mem_filter.1 hy).2
      simp_all
    · left
      unfold get? at hg ⊢
      rw [hrs, find?_filter_key Recipe.id hk]
      exact hg

/-- Only a deletion takes recipes away: after any other call, every id is still held. -/
theorem ids_perform {call : Call} (hd : ∀ id, call ≠ .delete id) {y : Recipe}
    (hy : y ∈ s.recipes) : ∃ y' ∈ (s.perform call).recipes, y'.id = y.id := by
  have keep : ∀ {s' : Store}, s'.recipes = s.recipes → ∃ y' ∈ s'.recipes, y'.id = y.id :=
    fun h => ⟨y, h ▸ hy, rfl⟩
  cases call with
  | create c =>
    simp only [perform]
    rcases h : s.create c with e | ⟨_ | i, s'⟩
    · exact keep rfl
    · rcases create_eq_ok_error h with rfl | rfl <;> exact keep rfl
    · obtain ⟨-, -, -, -, rfl⟩ := create_eq_ok_ok h
      exact ⟨y, List.mem_append_left _ hy, rfl⟩
  | update c token =>
    simp only [perform]
    rcases h : s.update c token with e | ⟨_ | n, s'⟩
    · exact keep rfl
    · exact keep (by rw [update_eq_ok_error h]; rfl)
    · obtain ⟨-, -, key, old, -, -, -, -, hg, -, -, -, rfl⟩ := update_eq_ok_ok h
      exact ⟨_, List.mem_map_of_mem hy, id_replace (id_overwrite hg _) y⟩
  | delete id => exact absurd rfl (hd id)
  | saveFile id content media =>
    simp only [perform]
    rcases h : s.saveFile id content media with e | ⟨b, s'⟩
    · exact keep rfl
    · exact keep (saveFile_eq_ok h).1
  | findById _ | find _ | findFile _ => exact keep rfl

theorem get?_delete_of_ne {id : Text} {x : String} {r : Recipe} (hg : s.get? x = some r)
    (hd : id ≠ Text.ofString x) : (s.perform (.delete id)).get? x = some r := by
  simp only [perform]
  rcases h : s.delete id with e | ⟨b, s'⟩
  · exact hg
  · show s'.get? x = some r
    unfold Store.delete at h
    obtain ⟨o, hl, h⟩ := Except.bind_eq_ok h
    cases o with
    | none =>
      cases h
      exact hg
    | some d =>
      cases h
      have hne : x ≠ d.id := fun he => hd (by rw [eq_ofString_of_lookup hl, he])
      unfold get? at hg ⊢
      rw [find?_filter_key Recipe.id hne]
      exact hg

/-- A call that neither updates the recipe with id `x` nor names `x` for deletion leaves that
recipe as it is. -/
theorem get?_perform_of_ne {call : Call} {x : String} {r : Recipe} (hg : s.get? x = some r)
    (hu : s.updated? call ≠ some x) (hd : call ≠ .delete (Text.ofString x)) :
    (s.perform call).get? x = some r := by
  by_cases hdel : ∃ id, call = .delete id
  · obtain ⟨id, rfl⟩ := hdel
    exact get?_delete_of_ne hg fun he => hd (by rw [he])
  · simp only [not_exists] at hdel
    rcases (step_perform s call).get?_of_ne hg hu with h | h
    · exact h
    · -- any other call keeps the id, so a recipe with it is still found
      obtain ⟨hr, hrx⟩ := mem_of_get? hg
      obtain ⟨y, hy, hyx⟩ := ids_perform hdel hr
      unfold get? at h
      rw [List.find?_eq_none] at h
      exact absurd (by simp [hyx, hrx]) (h y hy)

/-- **Until its next successful update or a deletion naming it, the recipe with an id is found
as it was.** -/
theorem get?_run_of_not_written {x : String} {r : Recipe} (hg : s.get? x = some r)
    (cs : List Call) (hc : (s.updates cs).count x = 0) (hd : Call.delete (Text.ofString x) ∉ cs) :
    (s.run cs).get? x = some r := by
  induction cs using List.reverseRecOn with
  | nil => exact hg
  | append_singleton cs c ih =>
    rw [updates_append_singleton, List.count_append] at hc
    have hdc : Call.delete (Text.ofString x) ∉ cs := fun h => hd (List.mem_append_left _ h)
    have hne : c ≠ Call.delete (Text.ofString x) := fun h => hd (by simp [h])
    rw [run_append_singleton]
    refine get?_perform_of_ne (ih (by omega) hdc) ?_ hne
    intro hu
    rw [hu] at hc
    simp at hc

/-- An update keeps the reference code of the recipe it overwrites, and nothing else gives an
issued id a recipe: so the recipe with an id keeps one reference code. -/
theorem Step.code_eq {u : Option String} (h : Step s u s') {x : String} (hx : s.Issued x)
    {code : String} (hc : ∀ r ∈ s.recipes, r.id = x → r.referenceCode = code) :
    ∀ r ∈ s'.recipes, r.id = x → r.referenceCode = code := by
  cases h with
  | keep hr _ | draw hr _ =>
    rw [hr]
    exact hc
  | create d hd hname hcode hr _ =>
    rw [hr]
    intro r hmem hrx
    rcases List.mem_append.1 hmem with hmem | hmem
    · exact hc r hmem hrx
    · rw [List.mem_singleton.1 hmem] at hrx
      have hnext : Ids.drawn (s.drawn + 1) = x := hrx
      exact absurd (by rw [hnext]; exact hx) (not_issued_next s)
  | update c key old hcheck hg hown hr _ =>
    rw [hr]
    intro r hmem hrx
    obtain ⟨y, hy, rfl⟩ := List.mem_map.1 hmem
    by_cases he : y.id = key
    · obtain ⟨hold, hkey⟩ := mem_of_get? hg
      simp only [he, beq_self_eq_true, if_true] at hrx ⊢
      rw [code_overwrite]
      rw [id_overwrite hg] at hrx
      exact hc old hold (hkey.trans hrx)
    · simp only [he, beq_iff_eq, if_false] at hrx ⊢
      exact hc y hy hrx
  | delete key hr _ =>
    rw [hr]
    intro r hmem hrx
    exact hc r (List.mem_of_mem_filter hmem) hrx

/-- Along a run, the recipe with an issued id keeps its reference code. -/
theorem code_run {x : String} (hx : s.Issued x) {code : String}
    (hc : ∀ r ∈ s.recipes, r.id = x → r.referenceCode = code) (cs : List Call) :
    ∀ r ∈ (s.run cs).recipes, r.id = x → r.referenceCode = code := by
  induction cs using List.reverseRecOn with
  | nil => exact hc
  | append_singleton cs c ih =>
    rw [run_append_singleton]
    exact (step_perform (s.run cs) c).code_eq (hx.mono (drawn_le_run s cs)) ih

/-! ## Fetching a recipe -/

theorem fetch_of_get? {x : String} {r : Recipe} (hg : s.get? x = some r) (req : Http.Request)
    (hm : req.header? "if-none-match" ≠ some (Http.Rest.etag r.version)) :
    Http.Rest.fetch s req x = Http.Rest.fetched req r := by
  unfold Http.Rest.fetch findById
  rw [lookup_ofString, hg]
  have hne : (req.header? "if-none-match" == some (Http.Rest.etag r.version)) = false := by
    simpa using hm
  simp only [hne, Bool.false_eq_true, if_false]
  rw [Http.Response.json, Http.Rest.isWritable_document, Http.Rest.fetched]

theorem findById_ofString (x : String) : s.findById (Text.ofString x) = .ok (s.get? x) :=
  lookup_ofString x

/-! ## Giving a recipe back until it is written again -/

/-- The store gives back a recipe under an id: finding the id gives the recipe, and fetching
it over HTTP answers what `Http.Rest.fetched` says (unless the request names its entity tag already). -/
def GivesBack (s : Store) (x : String) (r : Recipe) : Prop :=
  s.findById (Text.ofString x) = .ok (some r) ∧
    ∀ req : Http.Request, req.header? "if-none-match" ≠ some (Http.Rest.etag r.version) →
      Http.Rest.fetch s req x = Http.Rest.fetched req r

/-- The store gives back a recipe under an id until the id is next updated or deleted: after
any run of calls with no successful update of the id and no deletion naming it. -/
def GivesBackUntilWritten (s : Store) (x : String) (r : Recipe) : Prop :=
  ∀ cs : List Call, (s.updates cs).count x = 0 → Call.delete (Text.ofString x) ∉ cs →
    (s.run cs).GivesBack x r

theorem givesBack_of_get? {x : String} {r : Recipe} (hg : s.get? x = some r) :
    s.GivesBack x r :=
  ⟨by rw [findById_ofString, hg], fetch_of_get? hg⟩

theorem givesBackUntilWritten_of_get? {x : String} {r : Recipe} (hg : s.get? x = some r) :
    s.GivesBackUntilWritten x r :=
  fun cs hc hd => givesBack_of_get? (get?_run_of_not_written hg cs hc hd)

/-! ## Creation and update -/

/-- The recipe a successful creation adds is the one with the id it answers, and the store
stays valid. -/
theorem get?_create (hv : s.Valid) {c : Fields} {i : String} (h : s.create c = .ok (.ok i, s')) :
    s'.get? i = some (s.created c) ∧ s'.Valid := by
  have hv' : s'.Valid := by
    have := valid_run hv [.create c]
    rwa [run_singleton, perform, after_eq h] at this
  obtain ⟨-, -, -, hi, hs'⟩ := create_eq_ok_ok h
  have hfresh : s.get? i = none := by
    cases hg : s.get? i with
    | none => rfl
    | some r => exact absurd (hi ▸ hv.issued_of_get? hg) (not_issued_next s)
  refine ⟨?_, hv'⟩
  unfold get? at hfresh ⊢
  rw [hs', List.find?_append, hfresh]
  simp [hi]

/-- A successful update of the recipe with id `x` puts in its place the recipe it overwrote
with the candidate's fields, one version further. -/
theorem get?_update {c : Fields} {t : Option Text} {n : Nat} {x : String}
    (h : s.update c t = .ok (.ok n, s')) (hx : Recipe.string? c .id = some x) :
    ∃ old, s.get? x = some old ∧ s'.get? x = some (old.overwrite (Recipe.ofChecked c x 0)) ∧
      n = old.version + 1 ∧ Candidate.check c false = .ok Report.empty := by
  obtain ⟨-, -, key, old, -, -, hc, hkey, hg, -, -, hn, hs'⟩ := update_eq_ok_ok h
  have hkx : key = x := by
    rw [hkey] at hx
    injection hx
  subst hkx
  exact ⟨old, hg, get?_replace hg (id_overwrite hg _) (by rw [hs']), hn, hc⟩

/-- The recipe with an issued id keeps the reference code it was created with. -/
theorem code_run_of_get? (hv : s.Valid) {x : String} {r : Recipe} (hg : s.get? x = some r)
    (cs : List Call) {r' : Recipe} (hr' : (s.run cs).get? x = some r') :
    r'.referenceCode = r.referenceCode := by
  have hone : ∀ y ∈ s.recipes, y.id = x → y.referenceCode = r.referenceCode := by
    intro y hy hyx
    have := hv.get?_of_mem hy
    rw [hyx, hg] at this
    rw [Option.some.inj this]
  obtain ⟨hmem, hid⟩ := mem_of_get? hr'
  exact code_run (hv.issued_of_get? hg) hone cs r' hmem hid

/-- A recipe created from a candidate that passed the check holds, off its id and version, the
values submitted exactly when the price submitted is not negative zero. -/
theorem created_holdsSubmitted_iff {c : Fields}
    (hcheck : Candidate.check (Candidate.forCreation c) true = .ok Report.empty) :
    (s.created c).HoldsSubmitted c (fun f => f ≠ .id ∧ f ≠ .version) ↔
      (Candidate.given? c .price).bind Value.toFloat? ≠ some (-0.0) := by
  have hadm := ((Candidate.check_eq_ok_empty_iff _ true).1 hcheck).1
  -- preparing the candidate for creation touches only the id and the version
  have hsame : ∀ f, (f ≠ .id ∧ f ≠ .version) →
      Candidate.given? c f = Candidate.given? (Candidate.forCreation c) f :=
    fun f hf => (Candidate.given?_forCreation c hf.1 hf.2).symm
  rw [Recipe.holdsSubmitted_congr hsame, created,
    Recipe.column_submitted_iff hadm _ 0 _ fun f hf => hf, hsame .price (by decide)]
  simp

/-- A recipe overwritten by an update that passed the check holds, off its id, version and
reference code, the values submitted exactly when the price submitted is not negative zero. -/
theorem overwrite_holdsSubmitted_iff {c : Fields} (hc : Candidate.check c false = .ok Report.empty)
    (old : Recipe) (key : String) :
    (old.overwrite (Recipe.ofChecked c key 0)).HoldsSubmitted c
        (fun f => f ≠ .id ∧ f ≠ .version ∧ f ≠ .referenceCode) ↔
      (Candidate.given? c .price).bind Value.toFloat? ≠ some (-0.0) := by
  have hadm := ((Candidate.check_eq_ok_empty_iff _ false).1 hc).1
  rw [Recipe.holdsSubmitted_overwrite fun f hf => hf,
    Recipe.column_submitted_iff hadm _ 0 _ fun f hf => ⟨hf.1, hf.2.1⟩]
  simp

/-- **A created recipe, and each update of it, is given back as submitted until it is next
written, exactly when its price is not negative zero.** A creation from a reachable store that
answers an id `i` adds, under `i` and at version 0, a recipe that finding `i` and fetching it
over HTTP give back until `i` is next updated or deleted; on every field but the id and version
it holds the candidate's values as submitted, and defaults for those missing, exactly when the
price submitted is not negative zero. After any calls, a successful update of `i` writes a
recipe at the version it answers, with the reference code created, that is given back until
`i` is next written, and holds the update's values off the reference code as submitted exactly
when the price is not negative zero. -/
theorem created_read_back (s : Store) (hs : s.Reachable) (c : Fields) (i : String) (s₁ : Store)
    (h : s.create c = .ok (.ok i, s₁)) :
    (s.created c).id = i ∧ (s.created c).version = 0 ∧
      s₁.GivesBackUntilWritten i (s.created c) ∧
      ((s.created c).HoldsSubmitted c (fun f => f ≠ .id ∧ f ≠ .version) ↔
        (Candidate.given? c .price).bind Value.toFloat? ≠ some (-0.0)) ∧
      ∀ (cs : List Call) (c' : Fields) (t : Option Text) (n : Nat) (s₂ : Store),
        (s₁.run cs).update c' t = .ok (.ok n, s₂) → Recipe.string? c' .id = some i →
        ∃ r, r.id = i ∧ r.version = n ∧ r.referenceCode = (s.created c).referenceCode ∧
          s₂.GivesBackUntilWritten i r ∧
          (r.HoldsSubmitted c' (fun f => f ≠ .id ∧ f ≠ .version ∧ f ≠ .referenceCode) ↔
            (Candidate.given? c' .price).bind Value.toFloat? ≠ some (-0.0)) := by
  have hv := hs.valid
  obtain ⟨hcheck, -, -, hi, -⟩ := create_eq_ok_ok h
  obtain ⟨hg₁, hv₁⟩ := get?_create hv h
  refine ⟨by rw [hi]; rfl, rfl, givesBackUntilWritten_of_get? hg₁,
    created_holdsSubmitted_iff hcheck, ?_⟩
  intro cs c' t n s₂ hu hx
  obtain ⟨old, hg, hg₂, hn, hc'⟩ := get?_update hu hx
  exact ⟨old.overwrite (Recipe.ofChecked c' i 0), id_overwrite hg _, hn.symm,
    (code_overwrite _).trans (code_run_of_get? hv₁ hg₁ cs hg),
    givesBackUntilWritten_of_get? hg₂, overwrite_holdsSubmitted_iff hc' old i⟩

/-- A candidate with a price of negative zero. -/
def negativeZeroPriced : Fields :=
  [(Text.ofString "name", .ofString "Zeta"), (Text.ofString "preparer", .ofString "JOHANN_LAFER"),
    (Text.ofString "price", .float (-0.0)),
    (Text.ofString "referenceCode", .ofString "0-0070-0644-6")]

theorem seeded_created_read_back :
    seeded.Reachable ∧
      seeded.create negativeZeroPriced =
        .ok (.ok (Ids.drawn 1), seeded.perform (.create negativeZeroPriced)) ∧
      (seeded.created negativeZeroPriced).id = Ids.drawn 1 ∧
      (seeded.created negativeZeroPriced).version = 0 ∧
      (seeded.perform (.create negativeZeroPriced)).GivesBackUntilWritten (Ids.drawn 1)
        (seeded.created negativeZeroPriced) ∧
      ((seeded.created negativeZeroPriced).HoldsSubmitted negativeZeroPriced
          (fun f => f ≠ .id ∧ f ≠ .version) ↔
        (Candidate.given? negativeZeroPriced .price).bind Value.toFloat? ≠ some (-0.0)) ∧
      ∀ (cs : List Call) (c' : Fields) (t : Option Text) (n : Nat) (s₂ : Store),
        ((seeded.perform (.create negativeZeroPriced)).run cs).update c' t = .ok (.ok n, s₂) →
        Recipe.string? c' .id = some (Ids.drawn 1) →
        ∃ r, r.id = Ids.drawn 1 ∧ r.version = n ∧
          r.referenceCode = (seeded.created negativeZeroPriced).referenceCode ∧
          s₂.GivesBackUntilWritten (Ids.drawn 1) r ∧
          (r.HoldsSubmitted c' (fun f => f ≠ .id ∧ f ≠ .version ∧ f ≠ .referenceCode) ↔
            (Candidate.given? c' .price).bind Value.toFloat? ≠ some (-0.0)) := by
  have hc : seeded.create negativeZeroPriced =
      .ok (.ok (Ids.drawn 1), seeded.perform (.create negativeZeroPriced)) := rfl
  exact ⟨reachable_seeded, hc, created_read_back seeded reachable_seeded _ _ _ hc⟩

/-- Created from the sample recipes with a price of negative zero, a recipe is given back with a
price of zero, not the price submitted. -/
theorem negative_zero_price_reads_back_as_zero :
    seeded.create negativeZeroPriced =
        .ok (.ok (Ids.drawn 1), seeded.perform (.create negativeZeroPriced)) ∧
      (seeded.perform (.create negativeZeroPriced)).GivesBack (Ids.drawn 1)
        (seeded.created negativeZeroPriced) ∧
      Candidate.given? negativeZeroPriced .price = some (.float (-0.0)) ∧
      (seeded.created negativeZeroPriced).column .price = .float 0.0 ∧
      ¬ (seeded.created negativeZeroPriced).HoldsSubmitted negativeZeroPriced
        fun f => f ≠ .id ∧ f ≠ .version := by
  have hc : seeded.create negativeZeroPriced =
      .ok (.ok (Ids.drawn 1), seeded.perform (.create negativeZeroPriced)) := rfl
  have hgiven : Candidate.given? negativeZeroPriced .price = some (.float (-0.0)) := rfl
  have hprice : (seeded.created negativeZeroPriced).column .price = .float 0.0 := rfl
  refine ⟨hc, givesBack_of_get? (get?_create valid_seeded hc).1, hgiven, hprice, ?_⟩
  intro hall
  have h := hall .price ⟨by decide, by decide⟩
  rw [hprice, hgiven] at h
  have hzero : (0.0 : Float) = -0.0 := by simpa [Field.submitted, Value.toFloat?] using h
  exact absurd hzero (by decide)

end Store

end RecipeCatalog
