import Mathlib
import RecipeCatalog.Catalog.Session
import RecipeCatalog.Proofs.Catalog.Invariant

/-!
# Searches and look-ups in one session

A search reads its rows through the identity map, a look-up by id reads its row again. They
agree as long as no object of the session is stale, and every step on a session keeps it so.

* `Session.find_reads_held_objects` — a search answers, for each row the database selects, in
  name order, the object held for its id, or the row when none is held: a held object comes
  back as it is, whatever its row now says.
* `Session.Synced` — no object differs from its row, and ids are keys of the rows and of the
  rows last committed. Every step keeps it (`Synced.perform`, `Synced.run`): the repository lets
  go of what it reads, a bulk update writes rows only, and a rollback expires every object.
* `Session.find_agrees_with_getById` — **after any steps on a session with no stale object, a
  search answers exactly the rows that meet the criteria, in name order, and each recipe it
  answers is the one the look-up by its id answers, before the search and after it.**
-/

set_option autoImplicit false

namespace RecipeCatalog

theorem Text.utf8?_ofString (x : String) : (Text.ofString x).utf8? = .ok x := by
  rw [Text.utf8?, Text.toString?_ofString]

theorem Criteria.admits_eq (q : Criteria) (r : Recipe) : q.admits r = (q.selects r && q.lists r) :=
  rfl

namespace Session

variable {σ : Session}

/-! ## The identity map -/

theorem object?_hold_of_ne {o : Recipe} {x : String} (h : o.id ≠ x) :
    (σ.hold o).object? x = σ.object? x := by
  have hne : (o.id == x) = false := by simpa using h
  simp only [object?, hold, List.find?_cons, hne, List.find?_filter]
  congr 1
  funext y
  by_cases hy : y.id = x
  · simp [hy, Ne.symm h]
  · simp [hy]

theorem load_fst (r : Recipe) : (σ.load r).1 = (σ.object? r.id).getD r := by
  unfold load
  cases σ.object? r.id <;> rfl

theorem object?_load_of_ne {r : Recipe} {x : String} (h : r.id ≠ x) :
    (σ.load r).2.object? x = σ.object? x := by
  unfold load
  cases σ.object? r.id with
  | some o => rfl
  | none => exact object?_hold_of_ne h

theorem loadAll_rows (rs : List Recipe) :
    (σ.loadAll rs).2.rows = σ.rows ∧ (σ.loadAll rs).2.committed = σ.committed := by
  induction rs generalizing σ with
  | nil => exact ⟨rfl, rfl⟩
  | cons r rs ih =>
    have hload : (σ.load r).2.rows = σ.rows ∧ (σ.load r).2.committed = σ.committed := by
      unfold load
      cases σ.object? r.id <;> exact ⟨rfl, rfl⟩
    obtain ⟨h1, h2⟩ := @ih (σ.load r).2
    exact ⟨h1.trans hload.1, h2.trans hload.2⟩

/-- Reading rows of distinct ids gives back, for each, the object held for its id before the
reading began, or the row. -/
theorem loadAll_fst {rs : List Recipe} (hrs : (rs.map (·.id)).Nodup) :
    (σ.loadAll rs).1 = rs.map fun r => (σ.object? r.id).getD r := by
  induction rs generalizing σ with
  | nil => rfl
  | cons r rs ih =>
    rw [List.map_cons, List.nodup_cons] at hrs
    have hrest := @ih (σ.load r).2 hrs.2
    show (σ.load r).1 :: ((σ.load r).2.loadAll rs).1 = _
    rw [hrest, load_fst, List.map_cons]
    congr 1
    refine List.map_congr_left fun x hx => ?_
    have hne : r.id ≠ x.id := fun he => hrs.1 (he ▸ List.mem_map_of_mem hx)
    rw [object?_load_of_ne hne]

/-! ## Searches -/

theorem nodup_selected {rows : List Recipe} (hk : (rows.map (·.id)).Nodup) (q : Criteria) :
    (((rows.filter q.selects).mergeSort fun a b => a.name ≤ b.name).map (·.id)).Nodup :=
  ((List.mergeSort_perm _ _).map _).nodup_iff.2 (hk.sublist (List.filter_sublist.map _))

/-- **A search answers, for each row the database selects, in name order, the object held for
its id, or the row when none is held**, of which those listing the ingredients asked for. -/
theorem find_reads_held_objects (hk : (σ.rows.map (·.id)).Nodup) (q : Criteria) :
    (σ.find q).map Prod.fst = q.encode.map fun _ =>
      ((((σ.rows.filter q.selects).mergeSort fun a b => a.name ≤ b.name).map fun r =>
        (σ.object? r.id).getD r).filter q.lists) := by
  unfold find
  cases q.encode with
  | error e => rfl
  | ok u =>
    show Except.ok ((σ.loadAll _).1.filter q.lists) = _
    rw [loadAll_fst (nodup_selected hk q)]
    rfl

theorem find_reads {q : Criteria} {found : List Recipe} {τ : Session}
    (h : σ.find q = .ok (found, τ)) : τ.rows = σ.rows ∧ τ.committed = σ.committed := by
  unfold find at h
  cases he : q.encode with
  | error e => rw [he] at h; cases h
  | ok u =>
    rw [he] at h
    cases h
    exact loadAll_rows _

/-! ## Look-ups -/

theorem getById_ofString (x : String) :
    (σ.getById (Text.ofString x)).map Prod.fst = .ok (σ.row? x) := by
  unfold getById
  rw [Text.utf8?_ofString]
  simp only [bind, Except.bind]
  cases σ.row? x <;> rfl

theorem getById_reads {id : Text} {a : Option Recipe} {τ : Session}
    (h : σ.getById id = .ok (a, τ)) : τ.rows = σ.rows ∧ τ.committed = σ.committed := by
  obtain ⟨key, -, h⟩ := Except.bind_eq_ok h
  cases hr : σ.row? key <;> rw [hr] at h <;> cases h <;> exact ⟨rfl, rfl⟩

theorem row?_of_mem (hk : (σ.rows.map (·.id)).Nodup) {r : Recipe} (hr : r ∈ σ.rows) :
    σ.row? r.id = some r := by
  unfold row?
  obtain ⟨r', hr'⟩ := Option.isSome_iff_exists.1
    (List.find?_isSome.2 ⟨r, hr, by simp⟩ : (σ.rows.find? (·.id == r.id)).isSome)
  have hid : r'.id = r.id := by simpa using List.find?_some hr'
  rw [hr', List.inj_on_of_nodup_map hk (List.mem_of_find?_eq_some hr') hr hid]

/-! ## Writes -/

theorem create_cases (r : Recipe) :
    (σ.create r).2 = σ.rollback ∨
      ((σ.create r).2.rows = σ.rows ++ [{ r with version := 0 }.stored] ∧
        (σ.create r).2.committed = σ.committed ∧ ∀ x ∈ σ.rows, x.id ≠ r.id) := by
  unfold create
  dsimp only
  split
  · exact .inl rfl
  · split
    · exact .inl rfl
    · rename_i hfree
      refine .inr ⟨rfl, rfl, fun x hx he => hfree ?_⟩
      exact List.any_eq_true.2 ⟨x, hx, by simp [he]⟩

theorem replace_cases (r : Recipe) :
    (σ.replace r).2 = σ ∨ (σ.replace r).2 = σ.rollback ∨
      ∃ new : Recipe, new.id = r.id ∧
        (σ.replace r).2 = { σ with rows := σ.rows.map fun x => if x.id == r.id then new else x } := by
  unfold replace
  split
  · exact .inl rfl
  · rename_i old hold
    dsimp only
    split
    · exact .inr (.inl rfl)
    · have hid : old.id = r.id := by simpa using List.find?_some hold
      exact .inr (.inr ⟨old.overwrite r.stored, hid, rfl⟩)

theorem delete_reads {id : Text} {b : Bool} {τ : Session} (h : σ.delete id = .ok (b, τ)) :
    τ.rows.Sublist σ.rows ∧ τ.committed = σ.committed := by
  obtain ⟨key, -, h⟩ := Except.bind_eq_ok h
  dsimp only at h
  split at h <;> cases h
  · exact ⟨List.filter_sublist, rfl⟩
  · exact ⟨List.Sublist.refl _, rfl⟩

theorem after_reads {α : Type} {x : Except Fault (α × Session)}
    (h : ∀ a τ, x = .ok (a, τ) → τ.rows.Sublist σ.rows ∧ τ.committed = σ.committed) :
    (σ.after x).rows.Sublist σ.rows ∧ (σ.after x).committed = σ.committed := by
  cases x with
  | error e => exact ⟨List.Sublist.refl _, rfl⟩
  | ok p => exact h p.1 p.2 rfl

/-! ## No stale object -/

/-- No object of the session differs from its row, and the id is a key of the rows the session
sees and of the rows last committed. -/
structure Synced (σ : Session) : Prop where
  keyed : (σ.rows.map (·.id)).Nodup
  committedKeyed : (σ.committed.map (·.id)).Nodup
  current : ∀ o ∈ σ.objects, σ.row? o.id = some o

theorem synced_release {τ : Session} (hk : (τ.rows.map (·.id)).Nodup)
    (hc : (τ.committed.map (·.id)).Nodup) : τ.release.Synced :=
  ⟨hk, hc, fun _ ho => absurd ho List.not_mem_nil⟩

theorem Synced.release_of {τ : Session} (h : σ.Synced) (hr : τ.rows.Sublist σ.rows)
    (hc : τ.committed = σ.committed) : τ.release.Synced :=
  synced_release (h.keyed.sublist (hr.map _)) (hc ▸ h.committedKeyed)

/-- A call that faults, or leaves some of the rows and the rows last committed, leaves a session
with no stale object once it lets go of what it read. -/
theorem Synced.release_after {α : Type} (h : σ.Synced) {x : Except Fault (α × Session)}
    (hx : ∀ a τ, x = .ok (a, τ) → τ.rows.Sublist σ.rows ∧ τ.committed = σ.committed) :
    (σ.after x).release.Synced :=
  have hr := after_reads hx
  h.release_of hr.1 hr.2

theorem Synced.rollback (h : σ.Synced) : σ.rollback.Synced :=
  ⟨h.committedKeyed, h.committedKeyed, fun _ ho => absurd ho List.not_mem_nil⟩

/-- The object a row is read as in a session with no stale object is the row itself. -/
theorem Synced.object?_getD (h : σ.Synced) {r : Recipe} (hr : r ∈ σ.rows) :
    (σ.object? r.id).getD r = r := by
  cases ho : σ.object? r.id with
  | none => rfl
  | some o =>
    have hid : o.id = r.id := by simpa using List.find?_some ho
    have hrow := h.current o (List.mem_of_find?_eq_some ho)
    rw [hid, row?_of_mem h.keyed hr] at hrow
    exact (Option.some.inj hrow).symm

/-- In a session with no stale object a search answers the rows that meet the criteria. -/
theorem Synced.find (h : σ.Synced) (q : Criteria) :
    (σ.find q).map Prod.fst = q.encode.map fun _ =>
      ((σ.rows.filter q.selects).mergeSort fun a b => a.name ≤ b.name).filter q.lists := by
  rw [find_reads_held_objects h.keyed]
  congr 2
  funext u
  congr 1
  refine (List.map_congr_left fun r hr => ?_).trans (List.map_id _)
  exact h.object?_getD (List.mem_of_mem_filter (List.mem_mergeSort.1 hr))

theorem Synced.create (h : σ.Synced) (r : Recipe) : ((σ.create r).2.release).Synced := by
  rcases create_cases (σ := σ) r with hc | ⟨hrows, hcom, hfresh⟩
  · rw [hc]
    exact h.rollback
  · refine synced_release ?_ (hcom ▸ h.committedKeyed)
    rw [hrows, List.map_append, List.nodup_append]
    refine ⟨h.keyed, List.nodup_singleton _, ?_⟩
    rintro a ha b hb rfl
    obtain ⟨x, hx, rfl⟩ := List.mem_map.1 ha
    exact hfresh x hx (by simpa [Recipe.stored] using hb)

theorem Synced.replace (h : σ.Synced) (r : Recipe) : ((σ.replace r).2.release).Synced := by
  rcases replace_cases (σ := σ) r with hc | hc | ⟨new, hid, hc⟩ <;> rw [hc]
  · exact synced_release h.keyed h.committedKeyed
  · exact h.rollback
  · refine synced_release ?_ h.committedKeyed
    have hids : ∀ x : Recipe, (if x.id == r.id then new else x).id = x.id := by
      intro x
      by_cases hx : x.id = r.id <;> simp [hx, hid]
    show ((σ.rows.map fun x => if x.id == r.id then new else x).map (·.id)).Nodup
    rw [List.map_map]
    exact (List.map_congr_left fun x _ => hids x).symm ▸ h.keyed

/-- **Every step keeps a session free of stale objects.** -/
theorem Synced.perform (h : σ.Synced) : ∀ s, (σ.perform s).Synced
  | .getById _ => h.release_after fun _ _ hx =>
    ⟨(getById_reads hx).1 ▸ List.Sublist.refl _, (getById_reads hx).2⟩
  | .find _ => h.release_after fun _ _ hx =>
    ⟨(find_reads hx).1 ▸ List.Sublist.refl _, (find_reads hx).2⟩
  | .idOfName _ | .idOfCode _ => synced_release h.keyed h.committedKeyed
  | .create r => h.create r
  | .replace r => h.replace r
  | .delete _ => h.release_after fun _ _ hx => delete_reads hx
  | .commit => ⟨h.keyed, h.keyed, h.current⟩
  | .rollback => h.rollback

theorem Synced.run (h : σ.Synced) (steps : List Step) : (σ.run steps).Synced := by
  induction steps generalizing σ with
  | nil => exact h
  | cons s steps ih => exact ih (h.perform s)

/-! ## Searches agree with look-ups -/

/-- **After any steps on a session with no stale object, a search answers exactly the rows that
meet the criteria, in name order**, faulting only where the criteria cannot be bound; **each
recipe it answers meets the criteria and is the one the look-up by its id answers, before the
search and after it.** -/
theorem find_agrees_with_getById {σ : Session} (hσ : σ.Synced) (steps : List Step)
    (q : Criteria) :
    let ρ := σ.run steps
    let found := ((ρ.rows.filter q.selects).mergeSort fun a b => a.name ≤ b.name).filter q.lists
    (ρ.find q).map Prod.fst = q.encode.map (fun _ => found) ∧
      ∀ r ∈ found, q.admits r = true ∧
        (ρ.getById (Text.ofString r.id)).map Prod.fst = .ok (some r) ∧
        ((ρ.perform (.find q)).getById (Text.ofString r.id)).map Prod.fst = .ok (some r) := by
  intro ρ found
  have hs : ρ.Synced := hσ.run steps
  have hafter : (ρ.perform (.find q)).rows = ρ.rows := by
    show (ρ.after (ρ.find q)).release.rows = ρ.rows
    cases hf : ρ.find q with
    | error e => rfl
    | ok p => exact (find_reads hf).1
  refine ⟨hs.find q, fun r hr => ?_⟩
  obtain ⟨hsorted, hlists⟩ := List.mem_filter.1 hr
  obtain ⟨hrow, hselects⟩ := List.mem_filter.1 (List.mem_mergeSort.1 hsorted)
  refine ⟨by rw [Criteria.admits_eq, hselects, hlists]; rfl, ?_, ?_⟩
  · rw [getById_ofString, row?_of_mem hs.keyed hrow]
  · rw [getById_ofString, row?_of_mem (hafter ▸ hs.keyed) (hafter ▸ hrow)]

theorem synced_ofRows {rows : List Recipe} (hk : (rows.map (·.id)).Nodup) : (ofRows rows).Synced :=
  ⟨hk, hk, fun _ ho => absurd ho List.not_mem_nil⟩

/-- On the sample recipes: `Alpha` is looked up, written over at a new price, and everything is
searched for. -/
def repricing : List Step :=
  [.getById (.ofString "00000000-0000-0000-0000-000000000001"),
   .replace { Seed.sample 1 "Alpha" 4 "SNACK" "JOHANN_LAFER" 11.1 0.011 1 "978-3897225831"
     "https://acme.at/" ["JAVASCRIPT"] ["Adriana", "Alfred"] with price := 12.5 },
   .find Criteria.all]

theorem find_agrees_with_getById_after_repricing :
    (ofRows Seed.recipes).Synced ∧
      let ρ := (ofRows Seed.recipes).run repricing
      let found := ((ρ.rows.filter Criteria.all.selects).mergeSort
        fun a b => a.name ≤ b.name).filter Criteria.all.lists
      (ρ.find Criteria.all).map Prod.fst = Criteria.all.encode.map (fun _ => found) ∧
        ∀ r ∈ found, Criteria.all.admits r = true ∧
          (ρ.getById (Text.ofString r.id)).map Prod.fst = .ok (some r) ∧
          ((ρ.perform (.find Criteria.all)).getById (Text.ofString r.id)).map Prod.fst =
            .ok (some r) :=
  ⟨synced_ofRows Store.valid_seeded.ids,
    find_agrees_with_getById (synced_ofRows Store.valid_seeded.ids) repricing Criteria.all⟩

end Session

end RecipeCatalog
