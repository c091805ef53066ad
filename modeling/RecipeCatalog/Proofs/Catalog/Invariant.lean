import Mathlib
import RecipeCatalog.Proofs.Catalog.Calls
import RecipeCatalog.Proofs.Catalog.Ids

/-!
# What every run of calls keeps

A store is valid (`Store.Valid`) when its recipes have distinct ids, names and reference codes,
each is sound (`Recipe.Sound`), and each has an id the store has issued: an id of a sample
recipe or one it drew. Every kind of change a call makes keeps it (`Store.Step.valid`), so every
run does (`Store.valid_run`), from the sample recipes or from none.

Along a run,

* `Store.version_eq_count` — **each recipe's version is the number of successful updates of its
  id**: a creation draws an id that no update has named, and an update counts the version of
  the one recipe with its id up by one;
* `Store.absent_run` — **an id once issued and gone never comes back**: a creation draws an id
  never issued before;
* `Store.isUuid_run` — every id has the shape of a UUID, while fewer than `16^12` calls were
  made.
-/

set_option autoImplicit false

namespace RecipeCatalog

namespace Store

variable {s s' : Store}

/-! ## Issued ids -/

/-- Whether a store has issued an id: the id of a sample recipe, or one of the ids drawn. -/
def Issued (s : Store) (x : String) : Prop :=
  (∃ r ∈ Seed.recipes, r.id = x) ∨ ∃ k, 0 < k ∧ k ≤ s.drawn ∧ x = Ids.drawn k

theorem Issued.mono {x : String} (h : s.drawn ≤ s'.drawn) (hx : s.Issued x) : s'.Issued x := by
  rcases hx with hseed | ⟨k, hk, hle, rfl⟩
  · exact .inl hseed
  · exact .inr ⟨k, hk, by omega, rfl⟩

/-- The id a creation draws next has not been issued. -/
theorem not_issued_next (s : Store) : ¬ s.Issued (Ids.drawn (s.drawn + 1)) := by
  rintro (⟨r, hr, he⟩ | ⟨k, -, hle, he⟩)
  · exact Ids.drawn_ne_seed _ r hr he.symm
  · have := Ids.drawn_injective he
    omega

/-! ## Valid stores -/

/-- The invariant of the recipes of a store. -/
structure Valid (s : Store) : Prop where
  ids : (s.recipes.map (·.id)).Nodup
  names : (s.recipes.map (·.name)).Nodup
  codes : (s.recipes.map (·.referenceCode)).Nodup
  sound : ∀ r ∈ s.recipes, r.Sound
  issued : ∀ r ∈ s.recipes, s.Issued r.id

theorem Valid.nodup (hv : s.Valid) : s.recipes.Nodup := List.Nodup.of_map _ hv.ids

theorem Valid.eq_of_id (hv : s.Valid) {x y : Recipe} (hx : x ∈ s.recipes) (hy : y ∈ s.recipes)
    (h : x.id = y.id) : x = y :=
  List.inj_on_of_nodup_map hv.ids hx hy h

theorem Valid.eq_of_name (hv : s.Valid) {x y : Recipe} (hx : x ∈ s.recipes)
    (hy : y ∈ s.recipes) (h : x.name = y.name) : x = y :=
  List.inj_on_of_nodup_map hv.names hx hy h

/-- In a valid store the name lookup finds the only recipe with the name. -/
theorem Valid.id_of_owner (hv : s.Valid) {n key : String}
    (h : ∀ owner, s.ownerOfName? n = some owner → owner = key) :
    ∀ r ∈ s.recipes, r.name = n → r.id = key := by
  intro r hr hn
  cases ho : s.ownerOfName? n with
  | none => exact absurd hn (ownerOfName?_eq_none ho r hr)
  | some o =>
    obtain ⟨z, hz, hzn, hzo⟩ := ownerOfName?_eq_some ho
    rw [hv.eq_of_name hr hz (hn.trans hzn.symm), hzo]
    exact h o ho

/-- Recipes taken from a valid store, with no fewer ids drawn, make a valid store. -/
theorem Valid.of_sublist (hv : s.Valid) (hsub : s'.recipes.Sublist s.recipes)
    (hd : s.drawn ≤ s'.drawn) : s'.Valid where
  ids := hv.ids.sublist (hsub.map _)
  names := hv.names.sublist (hsub.map _)
  codes := hv.codes.sublist (hsub.map _)
  sound r hr := hv.sound r (hsub.subset hr)
  issued r hr := (hv.issued r (hsub.subset hr)).mono hd

theorem Valid.create (hv : s.Valid) {d : Fields} (hc : Candidate.check d true = .ok Report.empty)
    (hname : ∀ r ∈ s.recipes, r.name ≠ (Recipe.ofChecked d (Ids.drawn (s.drawn + 1)) 0).name)
    (hcode : ∀ r ∈ s.recipes,
      r.referenceCode ≠ (Recipe.ofChecked d (Ids.drawn (s.drawn + 1)) 0).referenceCode)
    (hr : s'.recipes = s.recipes ++ [Recipe.ofChecked d (Ids.drawn (s.drawn + 1)) 0])
    (hd : s'.drawn = s.drawn + 1) : s'.Valid := by
  have hfresh : ∀ r ∈ s.recipes, r.id ≠ Ids.drawn (s.drawn + 1) := fun r hr he =>
    not_issued_next s (he ▸ hv.issued r hr)
  have hiss : ∀ {x}, s.Issued x → s'.Issued x := fun hx => hx.mono (by omega)
  constructor
  · rw [hr, List.map_append, List.nodup_append]
    refine ⟨hv.ids, by simp, ?_⟩
    simpa [Recipe.ofChecked] using fun r hr => hfresh r hr
  · rw [hr, List.map_append, List.nodup_append]
    refine ⟨hv.names, by simp, ?_⟩
    simpa using fun r hr => hname r hr
  · rw [hr, List.map_append, List.nodup_append]
    refine ⟨hv.codes, by simp, ?_⟩
    simpa using fun r hr => hcode r hr
  · rw [hr]
    intro r hmem
    rcases List.mem_append.1 hmem with hmem | hmem
    · exact hv.sound r hmem
    · rw [List.mem_singleton.1 hmem]
      exact Recipe.Sound.ofChecked hc _ _
  · rw [hr]
    intro r hmem
    rcases List.mem_append.1 hmem with hmem | hmem
    · exact hiss (hv.issued r hmem)
    · rw [List.mem_singleton.1 hmem]
      exact .inr ⟨s.drawn + 1, by omega, by omega, rfl⟩

/-! ## Overwriting the recipe with an id -/

section Overwrite

variable {key : String} {old new : Recipe}

/-- Putting a recipe with the same id in place of the one with an id keeps each id. -/
theorem id_replace (hid : new.id = key) (x : Recipe) :
    (if x.id == key then new else x).id = x.id := by
  by_cases he : x.id = key
  · simp [he, hid]
  · simp [he]

theorem map_id_replace (rs : List Recipe) (hid : new.id = key) :
    (rs.map fun x => if x.id == key then new else x).map (·.id) = rs.map (·.id) := by
  rw [List.map_map]
  exact List.map_congr_left fun x _ => id_replace hid x

/-- In a valid store, putting a recipe with the reference code of the one with an id in its
place keeps the reference codes. -/
theorem map_code_replace (hv : s.Valid) (hg : s.get? key = some old)
    (hcode : new.referenceCode = old.referenceCode) :
    (s.recipes.map fun x => if x.id == key then new else x).map (·.referenceCode) =
      s.recipes.map (·.referenceCode) := by
  obtain ⟨hold, hkey⟩ := mem_of_get? hg
  rw [List.map_map]
  refine List.map_congr_left fun x hx => ?_
  by_cases he : x.id = key
  · -- the recipe with the id is `old` itself
    have hx : x = old := hv.eq_of_id hx hold (he.trans hkey.symm)
    subst hx
    simp [hkey, hcode]
  · simp [he]

theorem id_overwrite (hg : s.get? key = some old) (n : Recipe) : (old.overwrite n).id = key :=
  (mem_of_get? hg).2

theorem code_overwrite (n : Recipe) : (old.overwrite n).referenceCode = old.referenceCode := rfl

end Overwrite

/-- An update keeps a store valid: it keeps the ids and the reference codes, and gives the one
recipe with its id a name no other recipe has. -/
theorem Valid.update (hv : s.Valid) {c : Fields} {key : String} {old : Recipe}
    (hc : Candidate.check c false = .ok Report.empty) (hg : s.get? key = some old)
    (hown : ∀ owner, s.ownerOfName? (Recipe.string c .name) = some owner → owner = key)
    (hr : s'.recipes = s.recipes.map (fun x =>
      if x.id == key then old.overwrite (Recipe.ofChecked c key 0) else x))
    (hd : s'.drawn = s.drawn) : s'.Valid := by
  have hold := (mem_of_get? hg).1
  have hids := map_id_replace s.recipes (id_overwrite hg (Recipe.ofChecked c key 0))
  constructor
  · rw [hr, hids]
    exact hv.ids
  · -- the new name is held by no recipe with another id
    rw [hr, List.map_map]
    refine List.Nodup.map_on ?_ hv.nodup
    intro x hx y hy hxy
    have hother : ∀ z ∈ s.recipes,
        z.name = (old.overwrite (Recipe.ofChecked c key 0)).name → z.id = key := by
      intro z hz hzn
      exact hv.id_of_owner hown z hz (by simpa [Recipe.overwrite, Recipe.ofChecked] using hzn)
    by_cases hxk : x.id = key <;> by_cases hyk : y.id = key
    · exact hv.eq_of_id hx hy (hxk.trans hyk.symm)
    · simp only [Function.comp, hxk, hyk, beq_self_eq_true, if_true, beq_iff_eq, if_false] at hxy
      exact absurd (hother y hy hxy.symm) hyk
    · simp only [Function.comp, hxk, hyk, beq_self_eq_true, if_true, beq_iff_eq, if_false] at hxy
      exact absurd (hother x hx hxy) hxk
    · simp only [Function.comp, hxk, hyk, beq_iff_eq, if_false] at hxy
      exact hv.eq_of_name hx hy hxy
  · rw [hr, map_code_replace hv hg (code_overwrite _)]
    exact hv.codes
  · rw [hr]
    intro r hmem
    obtain ⟨x, hx, rfl⟩ := List.mem_map.1 hmem
    by_cases he : x.id = key
    · simp only [he, beq_self_eq_true, if_true]
      exact Recipe.Sound.overwrite (hv.sound old hold) hc _ _
    · simp only [he, beq_iff_eq, if_false]
      exact hv.sound x hx
  · intro r hmem
    have hr' : r.id ∈ s.recipes.map (·.id) := by
      rw [← hids, ← hr]
      exact List.mem_map_of_mem hmem
    obtain ⟨x, hx, hxr⟩ := List.mem_map.1 hr'
    rw [← hxr]
    exact (hv.issued x hx).mono (by omega)

/-- **Every kind of change a call makes keeps a store valid.** -/
theorem Step.valid {u : Option String} (h : Step s u s') (hv : s.Valid) : s'.Valid := by
  cases h with
  | keep hr hd => exact hv.of_sublist (hr ▸ List.Sublist.refl _) (by omega)
  | draw hr hd => exact hv.of_sublist (hr ▸ List.Sublist.refl _) (by omega)
  | create d hc hname hcode hr hd => exact hv.create hc hname hcode hr hd
  | update c key old hc hg hown hr hd => exact hv.update hc hg hown hr hd
  | delete key hr hd => exact hv.of_sublist (hr ▸ List.filter_sublist) (by omega)

theorem valid_run (hv : s.Valid) (cs : List Call) : (s.run cs).Valid := by
  induction cs using List.reverseRecOn with
  | nil => exact hv
  | append_singleton cs c ih =>
    rw [run_append_singleton]
    exact (step_perform _ c).valid ih

/-! ## Ids drawn along a run -/

theorem Step.drawn_le {u : Option String} (h : Step s u s') : s.drawn ≤ s'.drawn := by
  cases h <;> omega

theorem Step.drawn_le_succ {u : Option String} (h : Step s u s') : s'.drawn ≤ s.drawn + 1 := by
  cases h <;> omega

theorem drawn_run_le (s : Store) (cs : List Call) : (s.run cs).drawn ≤ s.drawn + cs.length := by
  induction cs using List.reverseRecOn with
  | nil => simp
  | append_singleton cs c ih =>
    have := (step_perform (s.run cs) c).drawn_le_succ
    simp only [run_append_singleton, List.length_append, List.length_singleton]
    omega

theorem drawn_le_run (s : Store) (cs : List Call) : s.drawn ≤ (s.run cs).drawn := by
  induction cs using List.reverseRecOn with
  | nil => simp
  | append_singleton cs c ih =>
    rw [run_append_singleton]
    exact ih.trans (step_perform _ c).drawn_le

/-! ## Versions count the updates -/

/-- A call updates a recipe it holds, under an issued id. -/
theorem Step.issued_updated {u : Option String} (h : Step s u s') (hv : s.Valid) :
    ∀ x ∈ u.toList, s'.Issued x := by
  cases h with
  | update c key old hc hg hown hr hd =>
    intro x hx
    obtain ⟨hold, hkey⟩ := mem_of_get? hg
    have hx : x = key := by simpa [eq_comm] using hx
    rw [hx, ← hkey]
    exact (hv.issued old hold).mono (by omega)
  | keep | draw | create | delete => simp

/-- The ids a run updates are ids issued by its end. -/
theorem updates_issued (hv : s.Valid) (cs : List Call) :
    ∀ x ∈ s.updates cs, (s.run cs).Issued x := by
  induction cs using List.reverseRecOn with
  | nil => simp
  | append_singleton cs c ih =>
    have hstep := step_perform (s.run cs) c
    intro x hx
    rw [updates_append_singleton, List.mem_append] at hx
    rw [run_append_singleton]
    rcases hx with hx | hx
    · exact (ih x hx).mono hstep.drawn_le
    · exact hstep.issued_updated (valid_run hv cs) x hx

/-- The version of the recipe with an id, or 0 when there is none. -/
def versionOf (s : Store) (x : String) : Nat := ((s.get? x).map (·.version)).getD 0

theorem Valid.get?_of_mem (hv : s.Valid) {r : Recipe} (hr : r ∈ s.recipes) :
    s.get? r.id = some r := by
  cases hg : s.get? r.id with
  | none =>
    unfold get? at hg
    simpa using List.find?_eq_none.1 hg r hr
  | some r' =>
    obtain ⟨hr', hid⟩ := mem_of_get? hg
    rw [hv.eq_of_id hr' hr hid]

theorem Valid.versionOf_of_mem (hv : s.Valid) {r : Recipe} (hr : r ∈ s.recipes) :
    s.versionOf r.id = r.version := by
  simp [versionOf, hv.get?_of_mem hr]

theorem Valid.issued_of_get? (hv : s.Valid) {x : String} {r : Recipe} (h : s.get? x = some r) :
    s.Issued x := by
  obtain ⟨hr, rfl⟩ := mem_of_get? h
  exact hv.issued r hr

/-- One call keeps every version equal to a base plus the number of updates of its id, counting
the update the call makes; the base of an id not issued is 0. -/
theorem Step.version_eq_add_count {u : Option String} (h : Step s u s') (hv : s.Valid)
    {b : String → Nat} {l : List String} (hb : ∀ x, ¬ s.Issued x → b x = 0)
    (hl : ∀ x ∈ l, s.Issued x) (hver : ∀ r ∈ s.recipes, r.version = b r.id + l.count r.id) :
    ∀ r ∈ s'.recipes, r.version = b r.id + (l ++ u.toList).count r.id := by
  cases h with
  | keep hr _ | draw hr _ =>
    rw [hr]
    simpa using hver
  | create d hc hname hcode hr hd =>
    rw [hr]
    intro r hmem
    rcases List.mem_append.1 hmem with hmem | hmem
    · simpa using hver r hmem
    · -- the new id is fresh, so no update has named it and it has no base
      rw [List.mem_singleton.1 hmem]
      have hfresh : Ids.drawn (s.drawn + 1) ∉ l := fun hx => not_issued_next s (hl _ hx)
      simp [Recipe.ofChecked, List.count_eq_zero_of_not_mem hfresh, hb _ (not_issued_next s)]
  | update c key old hc hg hown hr hd =>
    obtain ⟨hold, hkey⟩ := mem_of_get? hg
    rw [hr]
    intro r hmem
    obtain ⟨x, hx, rfl⟩ := List.mem_map.1 hmem
    by_cases he : x.id = key
    · have hxo : x = old := hv.eq_of_id hx hold (he.trans hkey.symm)
      subst hxo
      simp [he, Recipe.overwrite, hver x hx]
      omega
    · have hne : (key == x.id) = false := beq_false_of_ne (Ne.symm he)
      simp [he, hver x hx, List.count_append, List.count_singleton, hne]
  | delete key hr hd =>
    rw [hr]
    intro r hmem
    simpa using hver r (List.mem_of_mem_filter hmem)

/-- **Along a run from a valid store, each recipe's version is its version at the start plus the
number of successful updates of its id.** -/
theorem version_eq_versionOf_add_count (hv : s.Valid) (cs : List Call) :
    ∀ r ∈ (s.run cs).recipes, r.version = s.versionOf r.id + (s.updates cs).count r.id := by
  induction cs using List.reverseRecOn with
  | nil =>
    intro r hr
    simp [hv.versionOf_of_mem hr]
  | append_singleton cs c ih =>
    rw [run_append_singleton, updates_append_singleton]
    refine (step_perform (s.run cs) c).version_eq_add_count (valid_run hv cs) ?_
      (updates_issued hv cs) ih
    intro x hx
    cases hg : s.get? x with
    | none => simp [versionOf, hg]
    | some r => exact absurd ((hv.issued_of_get? hg).mono (drawn_le_run s cs)) hx

/-- **Each recipe's version is the number of successful updates of its id along a run**, from a
valid store whose recipes are at version 0. -/
theorem version_eq_count (hv : s.Valid) (h0 : ∀ r ∈ s.recipes, r.version = 0)
    (cs : List Call) : ∀ r ∈ (s.run cs).recipes, r.version = (s.updates cs).count r.id := by
  intro r hr
  have hbase : s.versionOf r.id = 0 := by
    cases hg : s.get? r.id with
    | none => simp [versionOf, hg]
    | some r₀ => simp [versionOf, hg, h0 r₀ (mem_of_get? hg).1]
  rw [version_eq_versionOf_add_count hv cs r hr, hbase, Nat.zero_add]

/-! ## Ids gone stay gone -/

/-- One call adds no id that was issued before it. -/
theorem Step.absent {u : Option String} (h : Step s u s') {x : String} (hx : s.Issued x)
    (hn : x ∉ s.recipes.map (·.id)) : x ∉ s'.recipes.map (·.id) := by
  cases h with
  | keep hr _ | draw hr _ => rwa [hr]
  | create d hc hname hcode hr hd =>
    rw [hr, List.map_append, List.mem_append, not_or]
    refine ⟨hn, ?_⟩
    simp only [List.map_cons, List.map_nil, List.mem_singleton]
    rintro rfl
    exact not_issued_next s hx
  | update c key old hc hg hown hr hd =>
    rwa [hr, map_id_replace s.recipes (id_overwrite hg _)]
  | delete key hr hd =>
    rw [hr]
    exact fun hmem => hn ((List.filter_sublist.map _).subset hmem)

/-- **An id that a store has issued and no longer holds never comes back.** -/
theorem absent_run {x : String} (hx : s.Issued x) (hn : x ∉ s.recipes.map (·.id))
    (cs : List Call) : x ∉ (s.run cs).recipes.map (·.id) := by
  induction cs using List.reverseRecOn with
  | nil => exact hn
  | append_singleton cs c ih =>
    rw [run_append_singleton]
    exact (step_perform (s.run cs) c).absent (hx.mono (drawn_le_run s cs)) ih

/-! ## Ids have the shape of a UUID -/

/-- While fewer than `16^12` ids were drawn, every recipe of a valid store has an id of the
shape of a UUID. -/
theorem Valid.isUuid (hv : s.Valid) (hb : s.drawn < 16 ^ 12) :
    ∀ r ∈ s.recipes, Field.isUuid (Text.ofString r.id) = true := by
  intro r hr
  rcases hv.issued r hr with ⟨r0, h0, he⟩ | ⟨k, -, hk, he⟩
  · rw [← he]
    exact Ids.isUuid_seed r0 h0
  · rw [he]
    exact Ids.isUuid_drawn (by omega)

/-- While fewer than `16^12` ids can have been drawn, every recipe of a valid store reached by a
run has an id of the shape of a UUID. -/
theorem isUuid_run (hv : s.Valid) (cs : List Call) (h : s.drawn + cs.length < 16 ^ 12) :
    ∀ r ∈ (s.run cs).recipes, Field.isUuid (Text.ofString r.id) = true :=
  (valid_run hv cs).isUuid (by have := drawn_run_le s cs; omega)

/-! ## The two starting stores -/

theorem valid_empty : empty.Valid where
  ids := List.nodup_nil
  names := List.nodup_nil
  codes := List.nodup_nil
  sound _ h := absurd h List.not_mem_nil
  issued _ h := absurd h List.not_mem_nil

theorem valid_seeded : seeded.Valid where
  ids := by decide
  names := by decide
  codes := by decide
  sound := by
    simp only [seeded, empty, Seed.recipes, List.mem_cons, List.not_mem_nil, or_false]
    rintro r (rfl | rfl | rfl | rfl | rfl) <;>
      exact Recipe.Sound.of_admits (by decide +kernel) (by decide)
  issued r hr := .inl ⟨r, hr, rfl⟩

theorem version_seeded : ∀ r ∈ seeded.recipes, r.version = 0 := by
  simp only [seeded, empty, Seed.recipes, List.mem_cons, List.not_mem_nil, or_false]
  rintro r (rfl | rfl | rfl | rfl | rfl) <;> rfl

end Store

end RecipeCatalog
