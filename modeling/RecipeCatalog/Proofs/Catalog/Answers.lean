import Mathlib
import RecipeCatalog.Proofs.Http.Requests

/-!
# What a creation and an update answer

Creating and updating a recipe each answer the first of a fixed list of outcomes that applies,
and change the store only when they succeed. On a reachable store, where names, reference codes
and ids are each held by one recipe at most, the lookups the two operations make are decided by
which recipes hold a name, a code or an id; so the outcomes can be said of the recipes alone.

* `Store.CreateOutcomes` and `Store.create_answers` — **a creation faults exactly where checking
  the candidate does; otherwise it refuses a candidate that breaks its rules before drawing an
  id, then refuses a name and after it a reference code that a recipe holds, keeping only the
  id it drew, and else adds the recipe under a fresh id and announces it.**
* `Store.UpdateOutcomes` and `Store.update_answers` — **an update faults exactly where reading
  the token or checking the candidate does; otherwise it answers, in this order, a token with
  no version, a candidate that breaks its rules, a name that another recipe holds, no id, no
  recipe with the id, an outdated version, and else overwrites the recipe with the id, keeping
  its id and reference code, and answers its next version.** Every refusal leaves the store as
  it was.
-/

set_option autoImplicit false

namespace RecipeCatalog

/-- The least integer with no nearest double has none. -/
theorem Double.ofInt?_overflowBound : Double.ofInt? Double.overflowBound = none := by
  unfold Double.ofInt?
  simp

namespace Store

variable {s : Store} {c : Fields}

/-! ## Lookups in a valid store -/

theorem ownerOfCode?_eq_some {n o : String} (h : s.ownerOfCode? n = some o) :
    ∃ r ∈ s.recipes, r.referenceCode = n ∧ r.id = o := by
  unfold ownerOfCode? at h
  obtain ⟨r, hr, rfl⟩ := Option.map_eq_some_iff.1 h
  exact ⟨r, List.mem_of_find?_eq_some hr, by simpa using List.find?_some hr, rfl⟩

theorem Valid.eq_of_code (hv : s.Valid) {x y : Recipe} (hx : x ∈ s.recipes)
    (hy : y ∈ s.recipes) (h : x.referenceCode = y.referenceCode) : x = y :=
  List.inj_on_of_nodup_map hv.codes hx hy h

theorem Valid.ownerOfName?_of_mem (hv : s.Valid) {o : Recipe} (ho : o ∈ s.recipes) :
    s.ownerOfName? o.name = some o.id := by
  cases h : s.ownerOfName? o.name with
  | none => exact absurd rfl (ownerOfName?_eq_none h o ho)
  | some x =>
    obtain ⟨z, hz, hzn, rfl⟩ := ownerOfName?_eq_some h
    rw [hv.eq_of_name hz ho hzn]

theorem Valid.ownerOfCode?_of_mem (hv : s.Valid) {o : Recipe} (ho : o ∈ s.recipes) :
    s.ownerOfCode? o.referenceCode = some o.id := by
  cases h : s.ownerOfCode? o.referenceCode with
  | none => exact absurd rfl (ownerOfCode?_eq_none h o ho)
  | some x =>
    obtain ⟨z, hz, hzc, rfl⟩ := ownerOfCode?_eq_some h
    rw [hv.eq_of_code hz ho hzc]

theorem ownerOfName?_eq_none_of {n : String} (h : ∀ o ∈ s.recipes, o.name ≠ n) :
    s.ownerOfName? n = none := by
  unfold ownerOfName?
  rw [Option.map_eq_none_iff, List.find?_eq_none]
  intro o ho
  simpa using h o ho

theorem ownerOfCode?_eq_none_of {n : String} (h : ∀ o ∈ s.recipes, o.referenceCode ≠ n) :
    s.ownerOfCode? n = none := by
  unfold ownerOfCode?
  rw [Option.map_eq_none_iff, List.find?_eq_none]
  intro o ho
  simpa using h o ho

theorem get?_eq_none_of {x : String} (h : ∀ o ∈ s.recipes, o.id ≠ x) : s.get? x = none := by
  unfold get?
  rw [List.find?_eq_none]
  intro o ho
  simpa using h o ho

/-! ## Creation, step by step -/

/-- The store after a creation that succeeds: the recipe added, the id it has drawn counted,
and its name announced. -/
def adding (s : Store) (r : Recipe) : Store :=
  { s with recipes := s.recipes ++ [r], drawn := s.drawn + 1, notified := s.notified ++ [r.name] }

/-- A creation checks the candidate first: a fault of the check is the creation's fault. -/
theorem create_of_check_error {e : Fault}
    (h : Candidate.check (Candidate.forCreation c) true = .error e) : s.create c = .error e := by
  unfold Store.create
  rw [show (c.erase (Text.ofString "id")).erase (Text.ofString "version") =
    Candidate.forCreation c from rfl]
  dsimp only
  rw [h]
  rfl

/-- A candidate that breaks its rules is refused before an id is drawn. -/
theorem create_of_invalid {rep : Report}
    (h : Candidate.check (Candidate.forCreation c) true = .ok rep) (hne : rep ≠ Report.empty) :
    s.create c = .ok (.error (.invalid rep), s) := by
  have he : (!rep.isEmpty) = true := by
    simpa using fun h' => hne (Report.isEmpty_iff.1 h')
  unfold Store.create
  rw [show (c.erase (Text.ofString "id")).erase (Text.ofString "version") =
    Candidate.forCreation c from rfl]
  dsimp only
  rw [h]
  simp only [bind, Except.bind, he, if_true]
  rfl

/-- Past the check, a creation has drawn an id and is decided by the owners of the name and of
the reference code. -/
theorem create_of_checked (h : Candidate.check (Candidate.forCreation c) true = .ok Report.empty) :
    s.create c = match s.ownerOfName? (s.created c).name with
      | some o => .ok (.error (.nameExists (s.created c).name o), { s with drawn := s.drawn + 1 })
      | none => match s.ownerOfCode? (s.created c).referenceCode with
        | some o => .ok (.error (.referenceCodeExists (s.created c).referenceCode o),
            { s with drawn := s.drawn + 1 })
        | none => .ok (.ok (s.created c).id, s.adding (s.created c)) := by
  unfold Store.create
  rw [show (c.erase (Text.ofString "id")).erase (Text.ofString "version") =
    Candidate.forCreation c from rfl]
  dsimp only
  rw [h]
  have he : (!Report.empty.isEmpty) = false := rfl
  simp only [bind, Except.bind, he, Bool.false_eq_true, if_false, ownerOfName?_drawn,
    ownerOfCode?_drawn]
  generalize hr : Recipe.ofChecked (Candidate.forCreation c) (Ids.drawn (s.drawn + 1)) 0 = r
  rw [show s.created c = r from hr]
  cases s.ownerOfName? r.name <;> cases s.ownerOfCode? r.referenceCode <;> rfl

theorem create_eq_error_iff :
    (∃ e, s.create c = .error e) ↔ ∃ e, Candidate.check (Candidate.forCreation c) true = .error e := by
  constructor
  · rintro ⟨e, he⟩
    rcases hc : Candidate.check (Candidate.forCreation c) true with e' | rep
    · exact ⟨e', rfl⟩
    · by_cases hr : rep = Report.empty
      · subst hr
        rw [create_of_checked hc] at he
        split at he
        · cases he
        · split at he <;> cases he
      · rw [create_of_invalid hc hr] at he
        cases he
  · rintro ⟨e, he⟩
    exact ⟨e, create_of_check_error he⟩

/-! ## Update, step by step -/

variable {tok : Text} {k : Int}

theorem update_of_no_version {t : Option Text}
    (h : t = none ∨ ∃ tok, t = some tok ∧ Version.read tok = .ok none) :
    s.update c t = .ok (.error (.versionInvalid t), s) := by
  rcases h with rfl | ⟨tok, rfl, h⟩
  · rfl
  · unfold Store.update
    simp only [bind, Except.bind, h]
    rfl

theorem update_of_read_error {e : Fault} (h : Version.read tok = .error e) :
    s.update c (some tok) = .error e := by
  unfold Store.update
  simp only [bind, Except.bind, h]

theorem update_of_check_error {e : Fault} (hr : Version.read tok = .ok (some k))
    (h : Candidate.check c false = .error e) : s.update c (some tok) = .error e := by
  unfold Store.update
  simp only [bind, Except.bind, hr, h]

theorem update_of_invalid {rep : Report} (hr : Version.read tok = .ok (some k))
    (h : Candidate.check c false = .ok rep) (hne : rep ≠ Report.empty) :
    s.update c (some tok) = .ok (.error (.invalid rep), s) := by
  have he : (!rep.isEmpty) = true := by
    simpa using fun h' => hne (Report.isEmpty_iff.1 h')
  unfold Store.update
  simp only [bind, Except.bind, hr, h, he, if_true]
  rfl

/-- Past the check, a name that a recipe under another id holds is refused. -/
theorem update_of_name_taken {o : String} (hr : Version.read tok = .ok (some k))
    (hc : Candidate.check c false = .ok Report.empty)
    (ho : s.ownerOfName? (Recipe.string c .name) = some o) (hne : some o ≠ Recipe.string? c .id) :
    s.update c (some tok) = .ok (.error (.nameExists (Recipe.string c .name) o), s) := by
  have hid : (some o != (Recipe.given? c .id).bind Value.string?) = true := by
    simpa [Recipe.string?] using hne
  unfold Store.update
  have he : (!Report.empty.isEmpty) = false := rfl
  simp only [bind, Except.bind, hr, hc, he, Bool.false_eq_true, if_false, ho, hid, if_true]
  rfl

/-- Past the check, a candidate without an id whose name no recipe holds names no recipe. -/
theorem update_of_no_id (hr : Version.read tok = .ok (some k))
    (hc : Candidate.check c false = .ok Report.empty)
    (ho : s.ownerOfName? (Recipe.string c .name) = none) (hid : Recipe.string? c .id = none) :
    s.update c (some tok) = .ok (.error (.recipeNotExists none), s) := by
  have hid' : (Recipe.given? c .id).bind Value.string? = none := hid
  unfold Store.update
  have he : (!Report.empty.isEmpty) = false := rfl
  simp only [bind, Except.bind, hr, hc, he, Bool.false_eq_true, if_false, ho, hid']
  rfl

theorem update_eq_error_iff {t : Option Text} :
    (∃ e, s.update c t = .error e) ↔
      (∃ tok e, t = some tok ∧ Version.read tok = .error e) ∨
      ∃ tok k e, t = some tok ∧ Version.read tok = .ok (some k) ∧
        Candidate.check c false = .error e := by
  constructor
  · rintro ⟨e, he⟩
    rcases t with _ | tok
    · rw [update_of_no_version (.inl rfl)] at he
      cases he
    rcases hr : Version.read tok with e' | _ | k
    · exact .inl ⟨tok, e', rfl, hr⟩
    · rw [update_of_no_version (.inr ⟨tok, rfl, hr⟩)] at he
      cases he
    rcases hc : Candidate.check c false with e' | rep
    · exact .inr ⟨tok, k, e', rfl, hr, rfl⟩
    exfalso
    by_cases hrep : rep = Report.empty
    · -- a checked candidate is answered without a fault
      subst hrep
      unfold Store.update at he
      have hemp : (!Report.empty.isEmpty) = false := rfl
      simp only [bind, Except.bind, hr, hc, hemp, Bool.false_eq_true, if_false] at he
      repeat' split at he
      all_goals cases he
    · rw [update_of_invalid hr hc hrep] at he
      cases he
  · rintro (⟨tok, e, rfl, h⟩ | ⟨tok, k, e, rfl, hr, h⟩)
    · exact ⟨e, update_of_read_error h⟩
    · exact ⟨e, update_of_check_error hr h⟩

theorem given?_of_string? {f : Field} {x : String} (h : Recipe.string? c f = some x) :
    Recipe.given? c f = some (.ofString x) := by
  unfold Recipe.string? at h
  obtain ⟨v, hv, hx⟩ := Option.bind_eq_some_iff.1 h
  cases v with
  | str t =>
    rw [hv, Value.ofString, Text.ofString_of_toString? hx]
  | _ => simp [Value.string?] at hx

theorem string?_of_given? {f : Field} {x : String}
    (h : Recipe.given? c f = some (.ofString x)) : Recipe.string? c f = some x := by
  simp [Recipe.string?, h, Value.ofString, Value.string?, Text.toString?_ofString]

/-! ## The outcomes -/

/-- The outcomes of creating a recipe from a candidate `c` on a store, in the order they are
tried. `d` is `c` without the id and version a client may send, and the recipe made from `d`
takes the next id drawn and version 0. A creation faults exactly where checking `d` does. Checked
and found to break its rules, `d` is refused with the report, no id drawn and the store kept.
Otherwise the next id is drawn, and it is fresh: no recipe has it. A name that a recipe has is
refused, then a reference code that a recipe has, both keeping the store but for the id drawn;
else the recipe is added, announced by its name, and its id answered. -/
def CreateOutcomes (S : Store) (c : Fields) : Prop :=
  let d := Candidate.forCreation c
  let r := Recipe.ofChecked d (Ids.drawn (S.drawn + 1)) 0
  ((∃ e, S.create c = .error e) ↔ ∃ e, Candidate.check d true = .error e) ∧
  (∀ rep, Candidate.check d true = .ok rep → rep ≠ Report.empty →
    S.create c = .ok (.error (.invalid rep), S)) ∧
  (Candidate.check d true = .ok Report.empty →
    (∀ o ∈ S.recipes, o.id ≠ r.id) ∧
    (∀ o ∈ S.recipes, o.name = Recipe.string d .name →
      S.create c = .ok (.error (.nameExists (Recipe.string d .name) o.id),
        { S with drawn := S.drawn + 1 })) ∧
    ((∀ o ∈ S.recipes, o.name ≠ Recipe.string d .name) →
      (∀ o ∈ S.recipes, o.referenceCode = Recipe.string d .referenceCode →
        S.create c = .ok (.error (.referenceCodeExists (Recipe.string d .referenceCode) o.id),
          { S with drawn := S.drawn + 1 })) ∧
      ((∀ o ∈ S.recipes, o.referenceCode ≠ Recipe.string d .referenceCode) →
        S.create c = .ok (.ok r.id, { S with
          recipes := S.recipes ++ [r], drawn := S.drawn + 1, notified := S.notified ++ [r.name] }))))

/-- **A creation on a reachable store answers the first of its outcomes that applies.** -/
theorem create_answers {S : Store} (hS : S.Reachable) (c : Fields) : S.CreateOutcomes c := by
  have hv := hS.valid
  refine ⟨create_eq_error_iff, fun rep hc hne => create_of_invalid hc hne, fun hc => ?_⟩
  refine ⟨fun o ho he => not_issued_next S (he ▸ hv.issued o ho : S.Issued (S.created c).id),
    fun o ho hn => ?_,
    fun hfree => ⟨fun o ho hcode => ?_, fun hcfree => ?_⟩⟩
  · -- the name lookup finds the one recipe with the name
    have hn' : (S.created c).name = o.name := hn.symm
    rw [create_of_checked hc, hn', hv.ownerOfName?_of_mem ho, hn]
  · -- the name is free, and the code lookup finds the one recipe with the code
    have hn : S.ownerOfName? (S.created c).name = none := ownerOfName?_eq_none_of hfree
    have hcode' : (S.created c).referenceCode = o.referenceCode := hcode.symm
    rw [create_of_checked hc, hn]
    dsimp only
    rw [hcode', hv.ownerOfCode?_of_mem ho, hcode]
  · have hn : S.ownerOfName? (S.created c).name = none := ownerOfName?_eq_none_of hfree
    have hcode : S.ownerOfCode? (S.created c).referenceCode = none :=
      ownerOfCode?_eq_none_of hcfree
    rw [create_of_checked hc, hn]
    dsimp only
    rw [hcode]
    rfl

/-- The sample recipes are a reachable store, where a creation answers by its outcomes. -/
theorem seeded_create_answers :
    seeded.Reachable ∧ seeded.CreateOutcomes [(Text.ofString "name", .ofString "Zeta")] :=
  ⟨reachable_seeded, create_answers reachable_seeded _⟩

/-- The outcomes of updating a store by a candidate `c` with a version token `t`, in the order
they are tried. An update faults exactly where reading the token or checking `c` does. A missing
token, or one that carries no version, is refused; then a candidate that breaks its rules; then
a name that a recipe holds under another id than the one `c` names; then a candidate naming no
id; then an id that no recipe has; then a version `k` below the stored one. Otherwise the recipe
with the id is overwritten by the one `c` describes, keeping its id and reference code and
counting its version up by one, and that version is answered. Every refusal keeps the store. -/
def UpdateOutcomes (S : Store) (c : Fields) (t : Option Text) : Prop :=
  let name := Recipe.string c .name
  ((∃ e, S.update c t = .error e) ↔
    (∃ tok e, t = some tok ∧ Version.read tok = .error e) ∨
    ∃ tok k e, t = some tok ∧ Version.read tok = .ok (some k) ∧
      Candidate.check c false = .error e) ∧
  ((t = none ∨ ∃ tok, t = some tok ∧ Version.read tok = .ok none) →
    S.update c t = .ok (.error (.versionInvalid t), S)) ∧
  ∀ tok k, t = some tok → Version.read tok = .ok (some k) →
    (∀ rep, Candidate.check c false = .ok rep → rep ≠ Report.empty →
      S.update c t = .ok (.error (.invalid rep), S)) ∧
    (Candidate.check c false = .ok Report.empty →
      (∀ o ∈ S.recipes, o.name = name → Recipe.given? c .id ≠ some (.ofString o.id) →
        S.update c t = .ok (.error (.nameExists name o.id), S)) ∧
      ((∀ o ∈ S.recipes, o.name = name → Recipe.given? c .id = some (.ofString o.id)) →
        (Recipe.given? c .id = none → S.update c t = .ok (.error (.recipeNotExists none), S)) ∧
        ∀ x, Recipe.given? c .id = some (.ofString x) →
          ((∀ o ∈ S.recipes, o.id ≠ x) →
            S.update c t = .ok (.error (.recipeNotExists (some (Text.ofString x))), S)) ∧
          ∀ old ∈ S.recipes, old.id = x →
            (k < old.version → S.update c t = .ok (.error (.versionOutdated x k), S)) ∧
            ((old.version : Int) ≤ k →
              S.update c t = .ok (.ok (old.version + 1),
                { S with recipes := S.recipes.map fun r =>
                    if r.id == x then old.overwrite (Recipe.ofChecked c x 0) else r }))))

/-- **An update of a reachable store answers the first of its outcomes that applies.** -/
theorem update_answers {S : Store} (hS : S.Reachable) (c : Fields) (t : Option Text) :
    S.UpdateOutcomes c t := by
  have hv := hS.valid
  refine ⟨update_eq_error_iff, update_of_no_version, fun tok k ht hr => ?_⟩
  subst ht
  refine ⟨fun rep hc hne => update_of_invalid hr hc hne, fun hc => ⟨fun o ho hn hne => ?_,
    fun hfree => ⟨fun hnone => ?_, fun x hx => ?_⟩⟩⟩
  · -- the name lookup finds the one recipe with the name, under another id
    refine update_of_name_taken hr hc (hn ▸ hv.ownerOfName?_of_mem ho) fun h => hne ?_
    exact given?_of_string? h.symm
  · -- without an id, no recipe may hold the name
    have hname : ∀ o ∈ S.recipes, o.name ≠ Recipe.string c .name := fun o ho hn => by
      simpa [hnone] using hfree o ho hn
    exact update_of_no_id hr hc (ownerOfName?_eq_none_of hname) (by simp [Recipe.string?, hnone])
  · -- with the id `x`, the recipe holding the name is the one with the id
    have hown : ∀ o, S.ownerOfName? (Recipe.string c .name) = some o → o = x := by
      intro o ho
      obtain ⟨r, hr, hrn, rfl⟩ := ownerOfName?_eq_some ho
      have := hfree r hr hrn
      rw [hx] at this
      exact Text.ofString_inj (Value.str.inj (Option.some.inj this)).symm
    have hupd := update_of_checks hr hc (string?_of_given? hx) hown
    refine ⟨fun hnone => ?_, fun old hold hid => ?_⟩
    · rw [hupd, get?_eq_none_of hnone]
    · rw [hupd, ← hid, hv.get?_of_mem hold, hid]
      refine ⟨fun hlt => ?_, fun hle => ?_⟩
      · simp [hlt]
      · simp [not_lt.2 hle]

/-- The sample recipes are a reachable store, where an update answers by its outcomes. -/
theorem seeded_update_answers :
    seeded.Reachable ∧
      seeded.UpdateOutcomes [(Text.ofString "name", .ofString "Zeta")] (some (Text.ofString "0")) :=
  ⟨reachable_seeded, update_answers reachable_seeded _ _⟩

/-- A price of the least integer too large for a double cannot be checked: the update faults
instead of answering any of its outcomes. -/
theorem update_faults_on_price_beyond_doubles :
    seeded.update [(Text.ofString "price", .int Double.overflowBound)] (some (Text.ofString "0")) =
      .error .floatOverflow := by
  have hc : Candidate.check [(Text.ofString "price", .int Double.overflowBound)] false =
      .error .floatOverflow := by
    rw [Candidate.check_eq, if_pos]
    simp [Candidate.overflows, Candidate.given?, Fields.lookup, Fields.get?, Field.wireName,
      Field.tooLarge, Double.ofInt?_overflowBound]
  exact update_of_check_error (show Version.read (Text.ofString "0") = .ok (some 0) from rfl) hc

end Store

end RecipeCatalog
