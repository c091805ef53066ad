import Mathlib
import RecipeCatalog.Proofs.Recipe.Stored

/-!
# Calls on the catalogue and what each can do

Clients use the catalogue through seven calls: creating, updating, deleting, finding by id and
by criteria, keeping and fetching a recipe's file. A call that faults is rolled back, so a run of
calls is a fold of `Store.perform` over them (`Store.run`).

Each operation of the store has one lemma saying everything it can do:

* `Store.create_eq_ok_ok`, `Store.create_eq_ok_error` — a creation adds the recipe built from
  the candidate under the next id, having checked it and found its name and reference code free;
  a refused one leaves the store, or only counts the id it drew;
* `Store.update_eq_ok_ok`, `Store.update_eq_ok_error` — an update reads a version not below the
  stored one, checks the candidate, finds the name free or the recipe's own, and overwrites the
  recipe with the id it names; a refused one leaves the store;
* `Store.delete_eq_ok`, `Store.saveFile_eq_ok` — a deletion removes the recipes with one id, and
  keeping a file touches the files only.

`Store.Step` gathers them: `Store.step_perform` says that every call makes one of five kinds of
change, and names the recipe a successful update changed (`Store.updated?`). What a whole run
keeps follows from it, in the modules that use it.
-/

set_option autoImplicit false

namespace RecipeCatalog

theorem Except.bind_eq_ok {ε α β : Type} {x : Except ε α} {f : α → Except ε β} {b : β}
    (h : x >>= f = .ok b) : ∃ a, x = .ok a ∧ f a = .ok b := by
  cases x with
  | error e => cases h
  | ok a => exact ⟨a, rfl, h⟩

theorem Report.isEmpty_iff {r : Report} : r.isEmpty = true ↔ r = Report.empty := by
  cases r with
  | mk fields unknown => simp [Report.isEmpty, Report.empty]

/-- A candidate for creation without the id and version a client may have sent. -/
def Candidate.forCreation (c : Fields) : Fields :=
  (c.erase (Text.ofString "id")).erase (Text.ofString "version")

namespace Store

variable {s s' : Store}

/-! ## Lookups -/

@[simp] theorem ownerOfName?_drawn (k : Nat) (n : String) :
    ({ s with drawn := k } : Store).ownerOfName? n = s.ownerOfName? n := rfl

@[simp] theorem ownerOfCode?_drawn (k : Nat) (n : String) :
    ({ s with drawn := k } : Store).ownerOfCode? n = s.ownerOfCode? n := rfl

theorem mem_of_get? {key : String} {r : Recipe} (h : s.get? key = some r) :
    r ∈ s.recipes ∧ r.id = key := by
  unfold get? at h
  exact ⟨List.mem_of_find?_eq_some h, by simpa using List.find?_some h⟩

theorem lookup_ofString (x : String) : s.lookup (Text.ofString x) = .ok (s.get? x) := by
  unfold lookup Text.utf8?
  rw [Text.toString?_ofString]
  rfl

theorem mem_of_lookup {id : Text} {r : Recipe} (h : s.lookup id = .ok (some r)) :
    r ∈ s.recipes := by
  unfold lookup at h
  obtain ⟨key, -, h⟩ := Except.bind_eq_ok h
  exact (mem_of_get? (Except.ok.inj h)).1

theorem ownerOfName?_eq_none {n : String} (h : s.ownerOfName? n = none) :
    ∀ r ∈ s.recipes, r.name ≠ n := by
  unfold ownerOfName? at h
  intro r hr hn
  have := List.find?_eq_none.1 (Option.map_eq_none_iff.1 h) r hr
  simp [hn] at this

theorem ownerOfCode?_eq_none {n : String} (h : s.ownerOfCode? n = none) :
    ∀ r ∈ s.recipes, r.referenceCode ≠ n := by
  unfold ownerOfCode? at h
  intro r hr hn
  have := List.find?_eq_none.1 (Option.map_eq_none_iff.1 h) r hr
  simp [hn] at this

/-- The name lookup finds a recipe of that name, the first. -/
theorem ownerOfName?_eq_some {n o : String} (h : s.ownerOfName? n = some o) :
    ∃ r ∈ s.recipes, r.name = n ∧ r.id = o := by
  unfold ownerOfName? at h
  obtain ⟨r, hr, rfl⟩ := Option.map_eq_some_iff.1 h
  exact ⟨r, List.mem_of_find?_eq_some hr, by simpa using List.find?_some hr, rfl⟩

/-! ## Creation -/

/-- The recipe a creation adds: the candidate, without id and version, under the next id. -/
def created (s : Store) (c : Fields) : Recipe :=
  Recipe.ofChecked (Candidate.forCreation c) (Ids.drawn (s.drawn + 1)) 0

@[simp] theorem id_created (s : Store) (c : Fields) : (s.created c).id = Ids.drawn (s.drawn + 1) :=
  rfl

@[simp] theorem version_created (s : Store) (c : Fields) : (s.created c).version = 0 := rfl

/-- **A creation that succeeds** checked the candidate, found its name and reference code free,
answers the next id and adds the recipe under it. -/
theorem create_eq_ok_ok {c : Fields} {i : String} (h : s.create c = .ok (.ok i, s')) :
    Candidate.check (Candidate.forCreation c) true = .ok Report.empty ∧
      s.ownerOfName? (s.created c).name = none ∧
      s.ownerOfCode? (s.created c).referenceCode = none ∧ i = Ids.drawn (s.drawn + 1) ∧
      s' = { s with
        recipes := s.recipes ++ [s.created c], drawn := s.drawn + 1,
        notified := s.notified ++ [(s.created c).name] } := by
  unfold Store.create at h
  obtain ⟨rep, hc, h⟩ := Except.bind_eq_ok h
  split at h
  · cases h
  rename_i he
  have hrep : rep = Report.empty := Report.isEmpty_iff.1 (by simpa using he)
  subst hrep
  simp only [ownerOfName?_drawn, ownerOfCode?_drawn] at h
  split at h
  · cases h
  rename_i hn
  split at h
  · cases h
  rename_i hcode
  simp only [pure, Except.pure, Except.ok.injEq, Prod.mk.injEq, Except.ok.injEq] at h
  refine ⟨hc, ?_, ?_, h.1.symm, h.2.symm⟩
  · cases ho : s.ownerOfName? (s.created c).name with
    | none => rfl
    | some o => exact absurd ho (hn o)
  · cases ho : s.ownerOfCode? (s.created c).referenceCode with
    | none => rfl
    | some o => exact absurd ho (hcode o)

/-- A creation that is refused leaves the store, or only counts the id it drew. -/
theorem create_eq_ok_error {c : Fields} {e : Failure} (h : s.create c = .ok (.error e, s')) :
    s' = s ∨ s' = { s with drawn := s.drawn + 1 } := by
  unfold Store.create at h
  obtain ⟨rep, -, h⟩ := Except.bind_eq_ok h
  split at h
  · cases h
    exact .inl rfl
  simp only [ownerOfName?_drawn, ownerOfCode?_drawn] at h
  split at h
  · cases h
    exact .inr rfl
  split at h
  · cases h
    exact .inr rfl
  · cases h

/-! ## Update -/

/-- **An update that succeeds** read a version not below the stored one from its token, checked
the candidate, found its name free or the recipe's own, and overwrote the recipe with the id the
candidate names; it answers the version after. -/
theorem update_eq_ok_ok {c : Fields} {token : Option Text} {n : Nat}
    (h : s.update c token = .ok (.ok n, s')) :
    ∃ t v key old, token = some t ∧ Version.read t = .ok (some v) ∧
      Candidate.check c false = .ok Report.empty ∧ Recipe.string? c .id = some key ∧
      s.get? key = some old ∧
      (∀ owner, s.ownerOfName? (Recipe.string c .name) = some owner → owner = key) ∧
      (old.version : Int) ≤ v ∧ n = old.version + 1 ∧
      s' = { s with recipes := s.recipes.map fun x =>
        if x.id == key then old.overwrite (Recipe.ofChecked c key 0) else x } := by
  unfold Store.update at h
  simp only [bind, Except.bind, pure, Except.pure] at h
  rcases token with _ | t
  · cases h
  dsimp only at h
  split at h
  · cases h
  rename_i v? hr
  rcases v? with _ | v
  · cases h
  dsimp only at h
  split at h
  · cases h
  rename_i rep hc
  split at h
  · cases h
  rename_i he
  have hrep : rep = Report.empty := Report.isEmpty_iff.1 (by simpa using he)
  subst hrep
  -- the refusals after the name check do not depend on it: settle the id, the recipe and the
  -- version first
  rcases hk : (Recipe.given? c .id).bind Value.string? with _ | key <;> rw [hk] at h <;>
    dsimp only at h
  · split at h <;> [(split at h <;> cases h); cases h]
  rcases hg : s.get? key with _ | old <;> rw [hg] at h <;> dsimp only at h
  · split at h <;> [(split at h <;> cases h); cases h]
  by_cases hlt : v < old.version
  · simp only [hlt, if_true] at h
    split at h <;> [(split at h <;> cases h); cases h]
  simp only [hlt, if_false] at h
  have hown : ∀ owner, s.ownerOfName? (Recipe.string c .name) = some owner → owner = key := by
    intro owner ho
    rw [ho] at h
    dsimp only at h
    split at h
    · cases h
    · rename_i hne
      simpa using hne
  have hwrite : Except.ok (Except.ok (old.overwrite (Recipe.ofChecked c key 0)).version,
      { s with recipes := s.recipes.map fun x =>
        if x.id == key then old.overwrite (Recipe.ofChecked c key 0) else x }) =
      (Except.ok (Except.ok n, s') : Except Fault (Except Failure Nat × Store)) := by
    rcases ho : s.ownerOfName? (Recipe.string c .name) with _ | owner <;> rw [ho] at h <;>
      dsimp only at h
    · exact h
    · rw [if_neg (by simpa using hown owner ho)] at h
      exact h
  simp only [Except.ok.injEq, Prod.mk.injEq] at hwrite
  exact ⟨t, v, key, old, rfl, hr, hc, hk, hg, hown, by omega, by rw [← hwrite.1]; rfl,
    hwrite.2.symm⟩

/-- An update that is refused leaves the store as it was. -/
theorem update_eq_ok_error {c : Fields} {token : Option Text} {e : Failure}
    (h : s.update c token = .ok (.error e, s')) : s' = s := by
  unfold Store.update at h
  simp only [bind, Except.bind, pure, Except.pure] at h
  repeat' split at h
  all_goals cases h <;> rfl

/-- An update whose token reads as a version, whose candidate passes the check and whose name is
free or the named recipe's own answers by the recipe's presence and version alone. -/
theorem update_of_checks {c : Fields} {t : Text} {v : Int} {key : String}
    (hr : Version.read t = .ok (some v)) (hc : Candidate.check c false = .ok Report.empty)
    (hk : Recipe.string? c .id = some key)
    (hown : ∀ owner, s.ownerOfName? (Recipe.string c .name) = some owner → owner = key) :
    s.update c (some t) = match s.get? key with
      | none => .ok (.error (.recipeNotExists (some (Text.ofString key))), s)
      | some old =>
        if v < old.version then .ok (.error (.versionOutdated key v), s)
        else .ok (.ok (old.version + 1),
          { s with
            recipes := s.recipes.map fun x =>
              if x.id == key then old.overwrite (Recipe.ofChecked c key 0) else x }) := by
  have hk' : (Recipe.given? c .id).bind Value.string? = some key := hk
  unfold Store.update
  simp only [bind, Except.bind, pure, Except.pure, hr, hc, hk']
  have hempty : (!Report.empty.isEmpty) = false := rfl
  simp only [hempty, Bool.false_eq_true, if_false]
  cases ho : s.ownerOfName? (Recipe.string c .name) with
  | none => cases s.get? key <;> rfl
  | some owner =>
    have hne : (some owner != some key) = false := by simp [hown owner ho]
    simp only [hne, Bool.false_eq_true, if_false]
    cases s.get? key <;> rfl
/-! ## Deletion and files -/

/-- A deletion removes the recipes with the id of one recipe, or nothing. -/
theorem delete_eq_ok {id : Text} {b : Bool} (h : s.delete id = .ok (b, s')) :
    s' = s ∨
      ∃ r ∈ s.recipes, s' = { s with recipes := s.recipes.filter (·.id != r.id) } := by
  unfold Store.delete at h
  obtain ⟨o, hl, h⟩ := Except.bind_eq_ok h
  cases o with
  | none =>
    cases h
    exact .inl rfl
  | some r =>
    cases h
    exact .inr ⟨r, mem_of_lookup hl, rfl⟩

theorem saveFile_eq_ok {id : Text} {content : List UInt8} {media : Option Text} {b : Bool}
    (h : s.saveFile id content media = .ok (b, s')) :
    s'.recipes = s.recipes ∧ s'.drawn = s.drawn ∧ s'.notified = s.notified := by
  unfold Store.saveFile at h
  obtain ⟨o, -, h⟩ := Except.bind_eq_ok h
  cases o with
  | none =>
    cases h
    exact ⟨rfl, rfl, rfl⟩
  | some r =>
    cases h
    exact ⟨rfl, rfl, rfl⟩

end Store

/-! ## Runs of calls -/

/-- A call a client makes on the catalogue. -/
inductive Call where
  | create (c : Fields)
  | update (c : Fields) (token : Option Text)
  | delete (id : Text)
  | findById (id : Text)
  | find (q : Criteria)
  | saveFile (id : Text) (content : List UInt8) (mediaType : Option Text)
  | findFile (id : Text)

namespace Store

variable {s s' : Store}

/-- The store after an operation: a fault rolls the operation back. -/
def after {α : Type} (s : Store) : Except Fault (α × Store) → Store
  | .ok (_, s') => s'
  | .error _ => s

theorem after_eq {α : Type} {x : Except Fault (α × Store)} {a : α} (h : x = .ok (a, s')) :
    s.after x = s' := by
  rw [h]
  rfl

/-- The store after a call. -/
def perform (s : Store) : Call → Store
  | .create c => s.after (s.create c)
  | .update c token => s.after (s.update c token)
  | .delete id => s.after (s.delete id)
  | .saveFile id content media => s.after (s.saveFile id content media)
  | .findById _ | .find _ | .findFile _ => s

/-- The store after a run of calls. -/
def run (s : Store) (cs : List Call) : Store := cs.foldl perform s

@[simp] theorem run_nil : s.run [] = s := rfl

@[simp] theorem run_singleton (c : Call) : s.run [c] = s.perform c := rfl

@[simp] theorem run_append_singleton (cs : List Call) (c : Call) :
    s.run (cs ++ [c]) = (s.run cs).perform c := by
  simp [run, List.foldl_append]

theorem run_append (cs ds : List Call) : s.run (cs ++ ds) = (s.run cs).run ds := by
  simp [run, List.foldl_append]

/-- The id of the recipe a call updates, when it updates one. -/
def updated? (s : Store) : Call → Option String
  | .update c token =>
    match s.update c token with
    | .ok (.ok _, _) => Recipe.string? c .id
    | _ => none
  | _ => none

/-- The ids of the recipes a run of calls updates, one for each update, in order. -/
def updates (s : Store) : List Call → List String
  | [] => []
  | c :: cs => (s.updated? c).toList ++ (s.perform c).updates cs

@[simp] theorem updates_nil : s.updates [] = [] := rfl

@[simp] theorem updates_append_singleton (cs : List Call) (c : Call) :
    s.updates (cs ++ [c]) = s.updates cs ++ ((s.run cs).updated? c).toList := by
  induction cs generalizing s with
  | nil => simp [updates, run]
  | cons d cs ih =>
    simp only [List.cons_append, updates, ih, List.append_assoc]
    rfl

/-! ## What one call can do -/

/-- The five kinds of change one call makes to a store, indexed by the id of the recipe it
updates, if any. -/
inductive Step (s : Store) : Option String → Store → Prop
  /-- a read, a refusal, a fault or a file: the recipes stay and no id is drawn -/
  | keep {s' : Store} : s'.recipes = s.recipes → s'.drawn = s.drawn → Step s none s'
  /-- a creation refused for a name or a reference code held already: it drew an id -/
  | draw {s' : Store} : s'.recipes = s.recipes → s'.drawn = s.drawn + 1 → Step s none s'
  /-- a creation, of a recipe checked and with a name and a reference code no recipe has -/
  | create {s' : Store} (d : Fields) :
      Candidate.check d true = .ok Report.empty →
      (∀ r ∈ s.recipes, r.name ≠ (Recipe.ofChecked d (Ids.drawn (s.drawn + 1)) 0).name) →
      (∀ r ∈ s.recipes,
        r.referenceCode ≠ (Recipe.ofChecked d (Ids.drawn (s.drawn + 1)) 0).referenceCode) →
      s'.recipes = s.recipes ++ [Recipe.ofChecked d (Ids.drawn (s.drawn + 1)) 0] →
      s'.drawn = s.drawn + 1 → Step s none s'
  /-- an update of the recipe `old` with id `key`, by a checked candidate whose name only `old`
  may have -/
  | update {s' : Store} (c : Fields) (key : String) (old : Recipe) :
      Candidate.check c false = .ok Report.empty → s.get? key = some old →
      (∀ owner, s.ownerOfName? (Recipe.string c .name) = some owner → owner = key) →
      s'.recipes = s.recipes.map (fun x =>
        if x.id == key then old.overwrite (Recipe.ofChecked c key 0) else x) →
      s'.drawn = s.drawn → Step s (some key) s'
  /-- a deletion of the recipes with id `key` -/
  | delete {s' : Store} (key : String) :
      s'.recipes = s.recipes.filter (·.id != key) → s'.drawn = s.drawn → Step s none s'

/-- **Every call makes one of the five kinds of change**, and updates the recipe `updated?`
names. -/
theorem step_perform (s : Store) (call : Call) : Step s (s.updated? call) (s.perform call) := by
  cases call with
  | create c =>
    simp only [perform, updated?]
    rcases h : s.create c with e | ⟨_ | i, s'⟩
    · exact .keep rfl rfl
    · rcases create_eq_ok_error h with rfl | rfl
      · exact .keep rfl rfl
      · exact .draw rfl rfl
    · obtain ⟨hc, hn, hcode, -, rfl⟩ := create_eq_ok_ok h
      exact .create _ hc (ownerOfName?_eq_none hn) (ownerOfCode?_eq_none hcode) rfl rfl
  | update c token =>
    simp only [perform, updated?]
    rcases h : s.update c token with e | ⟨_ | n, s'⟩
    · exact .keep rfl rfl
    · rw [update_eq_ok_error h]
      exact .keep rfl rfl
    · obtain ⟨t, v, key, old, -, -, hc, hk, hg, hown, -, -, rfl⟩ := update_eq_ok_ok h
      rw [hk]
      exact .update c key old hc hg hown rfl rfl
  | delete id =>
    simp only [perform, updated?]
    rcases h : s.delete id with e | ⟨b, s'⟩
    · exact .keep rfl rfl
    · rcases delete_eq_ok h with rfl | ⟨r, -, rfl⟩
      · exact .keep rfl rfl
      · exact .delete r.id rfl rfl
  | saveFile id content media =>
    simp only [perform, updated?]
    rcases h : s.saveFile id content media with e | ⟨b, s'⟩
    · exact .keep rfl rfl
    · obtain ⟨hr, hd, -⟩ := saveFile_eq_ok h
      exact .keep hr hd
  | findById id => exact .keep rfl rfl
  | find q => exact .keep rfl rfl
  | findFile id => exact .keep rfl rfl

end Store

end RecipeCatalog
