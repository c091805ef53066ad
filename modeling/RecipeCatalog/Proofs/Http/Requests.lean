import Mathlib
import RecipeCatalog.Proofs.Graph.Effects
import RecipeCatalog.Proofs.Catalog.Invariant
import RecipeCatalog.Http.App

/-!
# Requests change the store by calls

Each handler of the web application answers from the store it is given and changes it, if at
all, by one call of the store; the GraphQL endpoint by the calls its mutations make. So the store
after a request is the store after a run of calls (`Http.App.handle_issues`), and so is the store
after any sequence of calls and requests (`Store.play_issues`): whatever holds after every run of
calls holds after every sequence of requests.

`Store.reachable_invariants` gathers what every store reached from the sample recipes or from
none keeps: **distinct names and reference codes, recipes that pass the check for creation,
versions that count the updates of their ids, ids of the shape of a UUID, and ids gone for
good.**
-/

set_option autoImplicit false

namespace RecipeCatalog

namespace Http

namespace Rest

variable (T : TokenTable) (s : Store) (r : Request)

/- Each handler refuses a request it cannot serve with the store it was given; what it serves it
answers from one call, with the store that call gives (or the one given, on a fault). -/

theorem create_issues : ∃ cs, (create T s r).2 = s.run cs := by
  unfold create
  split
  · exact ⟨[], rfl⟩
  split
  · exact ⟨[], rfl⟩
  split
  · exact ⟨[], rfl⟩
  rename_i c _
  refine ⟨[.create c], ?_⟩
  rcases h : s.create c with e | ⟨_ | _, s'⟩ <;> simp [Store.perform, Store.after, h]

theorem replace_issues (id : String) : ∃ cs, (replace T s r id).2 = s.run cs := by
  unfold replace
  split
  · exact ⟨[], rfl⟩
  split
  · exact ⟨[], rfl⟩
  split
  · exact ⟨[], rfl⟩
  split
  · exact ⟨[], rfl⟩
  split
  · exact ⟨[], rfl⟩
  rename_i hdr _ _ _ c _
  dsimp only
  generalize c.set (Text.ofString "id") (.ofString id) = c'
  generalize some (Text.ofString (String.ofList ((hdr.toList.drop 1).dropLast))) = token
  refine ⟨[.update c' token], ?_⟩
  rcases h : s.update c' token with e | ⟨_ | _, s'⟩ <;> simp [Store.perform, Store.after, h]

theorem remove_issues (id : String) : ∃ cs, (remove T s r id).2 = s.run cs := by
  unfold remove
  split
  · exact ⟨[], rfl⟩
  refine ⟨[.delete (Text.ofString id)], ?_⟩
  rcases h : s.delete (Text.ofString id) with e | ⟨_, s'⟩ <;> simp [Store.perform, Store.after, h]

theorem upload_issues (id : String) : ∃ cs, (upload T s r id).2 = s.run cs := by
  unfold upload
  split
  · exact ⟨[], rfl⟩
  dsimp only
  split
  · exact ⟨[], rfl⟩
  refine ⟨[.saveFile (Text.ofString id) r.body (some (Text.ofString (mediaType r)))], ?_⟩
  rcases h : s.saveFile (Text.ofString id) r.body (some (Text.ofString (mediaType r))) with
    e | ⟨_ | _, s'⟩ <;> simp [Store.perform, Store.after, h]

end Rest

theorem App.serve_issues (T : TokenTable) (s : Store) (r : Request) (t : Address) :
    ∃ cs, (App.serve T s r t).2 = s.run cs := by
  cases t with
  | health => exact ⟨[], rfl⟩
  | recipes =>
    simp only [App.serve]
    split
    · exact ⟨[], rfl⟩
    · exact Rest.create_issues T s r
  | recipe id =>
    simp only [App.serve]
    split
    · exact ⟨[], rfl⟩
    split
    · exact Rest.replace_issues T s r id
    · exact Rest.remove_issues T s r id
  | recipeFile id =>
    simp only [App.serve]
    split
    · exact Rest.upload_issues T s r id
    · exact ⟨[], rfl⟩
  | graphql => exact Graph.serve_issues T s r

/-- **The store after a request is the store after some run of calls.** -/
theorem App.handle_issues (T : TokenTable) (s : Store) (r : Request) :
    ∃ cs, (App.handle T s r).2 = s.run cs := by
  unfold App.handle
  cases Address.ofPath? r.path with
  | some t =>
    dsimp only
    split
    · exact App.serve_issues T s r t
    · exact ⟨[], rfl⟩
  | none =>
    dsimp only
    split <;> exact ⟨[], rfl⟩

end Http

/-! ## Sequences of calls and requests -/

/-- A step of a client: a call of the services, or a request to the web application run with
a token table. -/
inductive Act where
  | call (c : Call)
  | request (T : TokenTable) (r : Http.Request)

namespace Store

/-- The store after an act. -/
def act (s : Store) : Act → Store
  | .call c => s.perform c
  | .request T r => (Http.App.handle T s r).2

/-- The store after a sequence of acts. -/
def play (s : Store) (as : List Act) : Store := as.foldl act s

theorem play_append (s : Store) (as bs : List Act) : s.play (as ++ bs) = (s.play as).play bs := by
  simp [play, List.foldl_append]

theorem act_issues (s : Store) (a : Act) : ∃ cs, s.act a = s.run cs := by
  cases a with
  | call c => exact ⟨[c], rfl⟩
  | request T r => exact Http.App.handle_issues T s r

/-- **The store after any sequence of calls and requests is the store after a run of calls.** -/
theorem play_issues (s : Store) (as : List Act) : ∃ cs, s.play as = s.run cs := by
  induction as using List.reverseRecOn with
  | nil => exact ⟨[], rfl⟩
  | append_singleton as a ih =>
    obtain ⟨cs, hcs⟩ := ih
    obtain ⟨ds, hds⟩ := act_issues (s.play as) a
    refine ⟨cs ++ ds, ?_⟩
    rw [play_append, run_append, ← hcs]
    exact hds

theorem drawn_le_play (s : Store) (as : List Act) : s.drawn ≤ (s.play as).drawn := by
  obtain ⟨cs, hcs⟩ := s.play_issues as
  rw [hcs]
  exact drawn_le_run s cs

/-- A store reached from the sample recipes or from no recipes by calls and requests. -/
def Reachable (s : Store) : Prop :=
  ∃ s0 as, (s0 = seeded ∨ s0 = empty) ∧ s = s0.play as

theorem valid_start {s0 : Store} (h0 : s0 = seeded ∨ s0 = empty) : s0.Valid := by
  rcases h0 with rfl | rfl
  exacts [valid_seeded, valid_empty]

theorem Reachable.valid {s : Store} (h : s.Reachable) : s.Valid := by
  obtain ⟨s0, as, h0, rfl⟩ := h
  obtain ⟨cs, hcs⟩ := s0.play_issues as
  rw [hcs]
  exact valid_run (valid_start h0) cs

theorem reachable_seeded : seeded.Reachable := ⟨seeded, [], .inl rfl, rfl⟩

/-! ## What every reachable store keeps -/

/-- **Along every sequence of calls and requests from the sample recipes or from no recipes**,
the store is that of a run of calls after which names are distinct and reference codes are
distinct (creation and update refuse a conflict before they write), every recipe's document
without its id and version passes the check for creation, each recipe's version is the number
of successful updates of its id, and, while fewer than `16^12` calls were made, every id has the
shape of a UUID; and an id that was stored and is gone is never stored again. -/
theorem reachable_invariants (s0 : Store) (h0 : s0 = seeded ∨ s0 = empty) :
    (∀ as : List Act, ∃ cs, s0.play as = s0.run cs ∧
      ((s0.run cs).recipes.map (·.name)).Nodup ∧
      ((s0.run cs).recipes.map (·.referenceCode)).Nodup ∧
      (∀ r ∈ (s0.run cs).recipes,
        Candidate.check (Http.Rest.withoutIdentity r) true = .ok Report.empty) ∧
      (∀ r ∈ (s0.run cs).recipes, r.version = (s0.updates cs).count r.id) ∧
      (cs.length < 16 ^ 12 →
        ∀ r ∈ (s0.run cs).recipes, Field.isUuid (Text.ofString r.id) = true)) ∧
    ∀ pre mid post : List Act, ∀ x ∈ (s0.play pre).recipes.map (·.id),
      x ∉ (s0.play (pre ++ mid)).recipes.map (·.id) →
      x ∉ (s0.play (pre ++ mid ++ post)).recipes.map (·.id) := by
  have hv0 : s0.Valid := valid_start h0
  have hz0 : ∀ r ∈ s0.recipes, r.version = 0 := by
    rcases h0 with rfl | rfl
    exacts [version_seeded, fun r h => absurd h List.not_mem_nil]
  have hd0 : s0.drawn = 0 := by
    rcases h0 with rfl | rfl <;> rfl
  refine ⟨fun as => ?_, fun pre mid post x hx hgone => ?_⟩
  · obtain ⟨cs, hcs⟩ := s0.play_issues as
    have hv := valid_run hv0 cs
    exact ⟨cs, hcs, hv.names, hv.codes, fun r hr => (hv.sound r hr).check_withoutIdentity,
      version_eq_count hv0 hz0 cs, fun hlen => isUuid_run hv0 cs (by omega)⟩
  · -- the id was issued when it was stored, and is still issued when it is gone
    obtain ⟨cs1, h1⟩ := s0.play_issues pre
    have hv1 : (s0.play pre).Valid := h1 ▸ valid_run hv0 cs1
    obtain ⟨r, hr, rfl⟩ := List.mem_map.1 hx
    have hiss : (s0.play (pre ++ mid)).Issued r.id := by
      rw [play_append]
      exact (hv1.issued r hr).mono (drawn_le_play _ mid)
    obtain ⟨cs3, h3⟩ := (s0.play (pre ++ mid)).play_issues post
    rw [play_append _ (pre ++ mid), h3]
    exact absent_run hiss hgone cs3

/-- The sample recipes are a start of `reachable_invariants`. -/
theorem seeded_reachable_invariants :
    (seeded = seeded ∨ seeded = empty) ∧
    ((∀ as : List Act, ∃ cs, seeded.play as = seeded.run cs ∧
      ((seeded.run cs).recipes.map (·.name)).Nodup ∧
      ((seeded.run cs).recipes.map (·.referenceCode)).Nodup ∧
      (∀ r ∈ (seeded.run cs).recipes,
        Candidate.check (Http.Rest.withoutIdentity r) true = .ok Report.empty) ∧
      (∀ r ∈ (seeded.run cs).recipes, r.version = (seeded.updates cs).count r.id) ∧
      (cs.length < 16 ^ 12 →
        ∀ r ∈ (seeded.run cs).recipes, Field.isUuid (Text.ofString r.id) = true)) ∧
    ∀ pre mid post : List Act, ∀ x ∈ (seeded.play pre).recipes.map (·.id),
      x ∉ (seeded.play (pre ++ mid)).recipes.map (·.id) →
      x ∉ (seeded.play (pre ++ mid ++ post)).recipes.map (·.id)) :=
  ⟨.inl rfl, reachable_invariants seeded (.inl rfl)⟩

end Store

end RecipeCatalog
