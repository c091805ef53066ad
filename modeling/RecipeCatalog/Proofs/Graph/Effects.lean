import Mathlib
import RecipeCatalog.Proofs.Catalog.Calls
import RecipeCatalog.Graph.Endpoint

/-!
# What a GraphQL request does to the store

The executor threads the store through a run of an operation, beside the errors it reports.
Completing values only reports errors (`Graph.Runner.Keeps`): by induction on the fuel of the
mutual recursion `complete`/`object`, every bind, loop and branch of their bodies keeps the
store. The store changes only where a field of the mutation type resolves: `createRezept`,
`updateRezept` and `deleteRezept` make one creation, update or deletion with the arguments they
are given (`Graph.fieldCall`), and only for an authenticated caller. The root fields run one
after the other, and a mutation stops after a field whose failure makes the data `null`.

* `Graph.Runner.operation_calls` — **an operation makes, in order, the calls of a prefix of its
  root fields (`Graph.Setting.planned`), and the calls of all of them when its data is not
  `null`**; a query makes none (`Graph.Setting.planned_of_ne_mutation`);
* `Graph.serve_calls` — a GraphQL request changes the store by the operation it runs and in no
  other way.
-/

set_option autoImplicit false

namespace RecipeCatalog

/-- A call that writes the recipes: a creation, an update or a deletion. -/
def Call.Writes : Call → Prop
  | .create _ | .update _ _ | .delete _ => True
  | _ => False

namespace Graph

namespace Runner

/-! ## Runs that keep the store -/

/-- A run of the executor that leaves the store as it finds it. -/
def Keeps {α : Type} (x : Runner α) : Prop := ∀ p, (x.run p).2.store = p.store

theorem Keeps.pure {α : Type} (a : α) : Keeps (Pure.pure a : Runner α) := fun _ => rfl

theorem Keeps.bind {α β : Type} {x : Runner α} {f : α → Runner β} (hx : Keeps x)
    (hf : ∀ a, Keeps (f a)) : Keeps (x >>= f) := by
  intro p
  show ((f (x.run p).1).run (x.run p).2).2.store = p.store
  rw [hf, hx]

theorem Keeps.fail (e : Error) : Keeps (fail e) := fun _ => rfl

theorem Keeps.forIn {α β : Type} (xs : List α) (init : β)
    {f : α → β → Runner (ForInStep β)}
    (hf : ∀ a b, Keeps (f a b)) : Keeps (forIn xs init f) := by
  induction xs generalizing init with
  | nil => exact Keeps.pure init
  | cons a as ih =>
    rw [List.forIn_cons]
    refine Keeps.bind (hf a init) fun step => ?_
    cases step with
    | done b => exact Keeps.pure b
    | yield b => exact ih b

theorem keeps_leaf (st : Setting) (v : Value) (places : List Nat) (path : List PathKey) :
    Keeps (leaf st v places path) := by
  unfold leaf
  split
  · -- a double: sent when finite
    split
    · exact Keeps.pure _
    · exact Keeps.bind (Keeps.fail _) fun _ => Keeps.pure _
  · -- an integer: sent when it fits in 32 bits
    split
    · exact Keeps.pure _
    · exact Keeps.bind (Keeps.fail _) fun _ => Keeps.pure _
  · exact Keeps.pure _

/-- **Completing a value keeps the store**, at every fuel. -/
theorem keeps_complete_object (st : Setting) : ∀ fuel,
    (∀ t r uses path, Keeps (complete st fuel t r uses path)) ∧
    (∀ n res uses path, Keeps (object st fuel n res uses path))
  | 0 => ⟨fun _ _ _ _ => by rw [complete.eq_1]; exact Keeps.pure _,
      fun _ _ _ _ => by rw [object.eq_1]; exact Keeps.pure _⟩
  | fuel + 1 => by
    obtain ⟨hc, ho⟩ := keeps_complete_object st fuel
    refine ⟨fun t r uses path => ?_, fun n res uses path => ?_⟩ <;>
      [unfold complete; unfold object] <;>
      -- the bodies are binds, loops and branches over failures, leaves and completions at
      -- less fuel: take them apart by the rule for each
      repeat' (first
        | exact Keeps.pure _
        | exact Keeps.fail _
        | exact keeps_leaf _ _ _ _
        | exact hc _ _ _ _
        | exact ho _ _ _ _
        | refine Keeps.bind ?_ (fun _ => ?_)
        | refine Keeps.forIn _ _ (fun _ _ => ?_)
        | split
        | dsimp only)

/-! ## Runs that make calls -/

/-- A run of the executor that changes the store as the calls `cs` do, from every state. -/
def Makes {α : Type} (cs : List Call) (x : Runner α) : Prop :=
  ∀ p, (x.run p).2.store = p.store.run cs

theorem Keeps.makes {α : Type} {x : Runner α} (h : Keeps x) : Makes [] x := h

theorem Makes.bind {α β : Type} {cs ds : List Call} {x : Runner α} {f : α → Runner β}
    (hx : Makes cs x) (hf : ∀ a, Makes ds (f a)) : Makes (cs ++ ds) (x >>= f) := by
  intro p
  show ((f (x.run p).1).run (x.run p).2).2.store = _
  rw [hf, hx, Store.run_append]

theorem Makes.bind_keeps {α β : Type} {cs : List Call} {x : Runner α} {f : α → Runner β}
    (hx : Makes cs x) (hf : ∀ a, Keeps (f a)) : Makes cs (x >>= f) := by
  simpa using hx.bind fun a => (hf a).makes

theorem makes_stored {c : Call} {s' : Store} (p : Progress) (h : p.store.perform c = s')
    (r : Resolved) :
    ((do modify fun q : Progress => { q with store := s' }; Pure.pure (some r) :
      Runner (Option Resolved)).run p).2.store = p.store.run [c] := h.symm

/-- The call a field of a root type makes on the store with its coerced arguments: a creation,
an update or a deletion for the fields of the mutation type, none for any other field. -/
def fieldCall (root name : String) (args : List (String × Value)) : Option Call :=
  match root, name with
  | "Mutation", "createRezept" => some (.create (candidate args []))
  | "Mutation", "updateRezept" =>
    some (.update (updateCandidate args) (some (Text.ofString (toString (versionArg args)))))
  | "Mutation", "deleteRezept" => some (.delete (textArg args "id"))
  | _, _ => none

theorem fieldCall_writes {root name : String} {args : List (String × Value)} {c : Call}
    (h : fieldCall root name args = some c) : root = "Mutation" ∧ c.Writes := by
  unfold fieldCall at h
  split at h
  all_goals cases h
  all_goals exact ⟨rfl, trivial⟩

/-- **Resolving a root field makes the call `fieldCall` names, and no other.** -/
theorem resolve_makes (root name : String) (args : List (String × Value)) :
    Makes (fieldCall root name args).toList (resolve root name args) := by
  intro p
  unfold resolve
  dsimp only [StateT.run, bind, StateT.bind, get, getThe, MonadStateOf.get, StateT.get, pure, StateT.pure]
  split
  · -- a search reads the store
    split
    · rename_i t _
      cases p.store.find (Criteria.ofFields [(Text.ofString "name", Value.str t)]) <;> rfl
    · cases p.store.find (Criteria.ofFields []) <;> rfl
  · cases p.store.findById (textArg args "id") <;> rfl
  · rfl
  · rfl
  · show _ = p.store.run [.create _]
    rw [Store.run_singleton, Store.perform]
    rcases h : p.store.create (candidate args []) with e | ⟨_ | _, s'⟩ <;> rfl
  · show _ = p.store.run [.update _ _]
    rw [Store.run_singleton, Store.perform]
    rcases h : p.store.update (updateCandidate args) _ with e | ⟨_ | _, s'⟩ <;> rfl
  · show _ = p.store.run [.delete _]
    rw [Store.run_singleton, Store.perform]
    rcases h : p.store.delete (textArg args "id") with e | ⟨_, s'⟩ <;> rfl
  · -- no other field of a root type makes a call
    have hnone : fieldCall root name args = none := by
      unfold fieldCall
      split <;> simp_all
    rw [hnone]
    rfl

end Runner

namespace Setting

/-- The call a root field makes on the store: the call of its resolution with the arguments it
coerces, unless they do not coerce, or the field is a mutation and the caller is not
authenticated. -/
def fieldCall? (st : Setting) (root : String) (uses : List FieldUse) : Option Call := do
  let u ← uses.head?
  let fd ← Schema.field? root u.name
  let args ← (argumentValues st.body fd.args u.args st.vars u.start).toOption
  if root == "Mutation" && !st.authenticated then none else Runner.fieldCall root u.name args

/-- The calls the root fields of an operation make, in the order of its fields. -/
def planned (st : Setting) (o : Operation) : List Call :=
  match Schema.root? o.kind with
  | none => []
  | some root =>
    match collectFields st root (st.body.size + 2) o.selections [] [] with
    | .error _ => []
    | .ok (grouped, _) => grouped.filterMap fun g => st.fieldCall? root g.2

end Setting

namespace Runner

theorem fieldCall_typename (root : String) (args : List (String × Value)) :
    fieldCall root "__typename" args = none := by
  unfold fieldCall
  split <;> simp_all

/-- **A root field makes the call of its resolution with the arguments it coerces**, unless they
do not coerce or it is a mutation and the caller is not authenticated; completing what it
resolves to keeps the store. -/
theorem rootField_makes (st : Setting) (root key : String) (uses : List FieldUse) :
    Makes (st.fieldCall? root uses).toList (rootField st root key uses) := by
  unfold rootField
  cases hu : uses.head? with
  | none => simpa [Setting.fieldCall?, hu] using (Keeps.pure _).makes
  | some u =>
    cases hf : Schema.field? root u.name with
    | none => simpa [Setting.fieldCall?, hu, hf] using (Keeps.pure _).makes
    | some fd =>
      simp only [hf]
      by_cases htn : u.name = "__typename"
      · have hnone : st.fieldCall? root uses = none := by
          simp [Setting.fieldCall?, hu, htn, fieldCall_typename]
        rw [if_pos (by simpa using htn), hnone]
        exact (Keeps.pure _).makes
      rw [if_neg (by simpa using htn)]
      cases ha : argumentValues st.body fd.args u.args st.vars u.start with
      | error e =>
        have hnone : st.fieldCall? root uses = none := by
          simp [Setting.fieldCall?, hu, hf, ha, Except.toOption]
        rw [hnone]
        exact (Keeps.bind (Keeps.fail _) fun _ => Keeps.pure _).makes
      | ok args =>
        dsimp only
        by_cases hauth : (root == "Mutation" && !st.authenticated) = true
        · have hnone : st.fieldCall? root uses = none := by
            simp [Setting.fieldCall?, hu, hauth]
          rw [if_pos hauth, hnone]
          exact (Keeps.bind (Keeps.fail _) fun _ => Keeps.pure _).makes
        have hcall : st.fieldCall? root uses = fieldCall root u.name args := by
          simp [Setting.fieldCall?, hu, hf, ha, Except.toOption, hauth]
        rw [if_neg hauth, hcall]
        refine (resolve_makes root u.name args).bind_keeps fun r => ?_
        cases r with
        | none => exact Keeps.bind (Keeps.fail _) fun _ => Keeps.pure _
        | some r =>
          refine Keeps.bind ((keeps_complete_object st _).1 _ _ _ _) fun c => ?_
          cases c <;> exact Keeps.pure _

theorem run_bind {α β : Type} (x : Runner α) (g : α → Runner β) (p : Progress) :
    (x >>= g).run p = (g (x.run p).1).run (x.run p).2 := rfl

/-- **A loop that at each item either stops, changing nothing, in a state that `ok` refuses, or
makes the item's call and goes on, makes the calls of a prefix of its items**, and of all of them
when it ends in a state that `ok` accepts. -/
theorem forIn_prefix {α β : Type} (call : α → Option Call) (ok : β → Bool)
    {f : α → β → Runner (ForInStep β)}
    (hdone : ∀ a b p b' q, (f a b).run p = (.done b', q) → q.store = p.store ∧ ok b' = false)
    (hyield : ∀ a b p b' q, (f a b).run p = (.yield b', q) → q.store = p.store.run (call a).toList) :
    ∀ (xs : List α) (b : β) (p : Progress), ∃ j,
      ((forIn xs b f).run p).2.store = p.store.run ((xs.take j).filterMap call) ∧
      (ok ((forIn xs b f).run p).1 = true → j = xs.length)
  | [], _, _ => ⟨0, rfl, fun _ => rfl⟩
  | a :: xs, b, p => by
    rw [List.forIn_cons, run_bind]
    rcases hr : (f a b).run p with ⟨b' | b', q⟩
    · -- the loop stops at `a`
      obtain ⟨hq, hok⟩ := hdone a b p b' q hr
      exact ⟨0, hq, fun h => absurd (h.symm.trans hok) (by decide)⟩
    · obtain ⟨j, hj, hall⟩ := forIn_prefix call ok hdone hyield xs b' q
      refine ⟨j + 1, ?_, fun h => by simp [hall h]⟩
      dsimp only
      rw [hj, hyield a b p b' q hr, ← Store.run_append]
      cases hca : call a <;> simp [hca]

end Runner

namespace Setting

theorem fieldCall?_eq_some {st : Setting} {root : String} {uses : List FieldUse} {c : Call}
    (h : st.fieldCall? root uses = some c) :
    root = "Mutation" ∧ st.authenticated = true ∧ c.Writes := by
  simp only [fieldCall?, Option.bind_eq_bind, Option.bind_eq_some_iff] at h
  obtain ⟨u, -, fd, -, args, -, h⟩ := h
  split at h
  · cases h
  · rename_i hauth
    obtain ⟨hroot, hc⟩ := Runner.fieldCall_writes h
    refine ⟨hroot, ?_, hc⟩
    simpa [hroot] using hauth

/-- Every call of an operation is a creation, an update or a deletion, for a mutation and an
authenticated caller. -/
theorem mem_planned {st : Setting} {o : Operation} {c : Call} (h : c ∈ st.planned o) :
    o.kind = .mutation ∧ st.authenticated = true ∧ c.Writes := by
  unfold planned at h
  split at h
  · cases h
  · rename_i root hroot
    split at h
    · cases h
    · obtain ⟨g, -, hg⟩ := List.mem_filterMap.1 h
      obtain ⟨rfl, hauth, hc⟩ := fieldCall?_eq_some hg
      refine ⟨?_, hauth, hc⟩
      cases hk : o.kind <;> simp_all [Schema.root?]

/-- **A query makes no call.** -/
theorem planned_of_ne_mutation (st : Setting) {o : Operation} (h : o.kind ≠ .mutation) :
    st.planned o = [] :=
  List.eq_nil_iff_forall_not_mem.2 fun _ hc => h (mem_planned hc).1

/-- The root fields of an operation, as the runner collects them. -/
theorem planned_eq (st : Setting) (o : Operation) {root : String} (hroot : Schema.root? o.kind = some root)
    {grouped : Grouped} {visited : List String}
    (hc : collectFields st root (st.body.size + 2) o.selections [] [] = .ok (grouped, visited)) :
    st.planned o = grouped.filterMap fun g => st.fieldCall? root g.2 := by
  simp [planned, hroot, hc]

end Setting

namespace Runner

section RootStep

variable {st : Setting} {root : String} {kind : OperationKind} {g : String × List FieldUse}
  {b b' : List (String × Value) × Bool} {p q : Progress}

/-- A root field at which the loop stops leaves the store as it was, and a field had bubbled. -/
theorem rootStep_done (h : (rootStep st root kind g b).run p = (.done b', q)) :
    q.store = p.store ∧ b'.2 = true := by
  unfold rootStep at h
  split at h
  · cases h
    exact ⟨rfl, by simp_all⟩
  · rw [run_bind] at h
    rcases hrf : (rootField st root g.1 g.2).run p with ⟨c, q'⟩
    rw [hrf] at h
    cases c <;> cases h

/-- A root field past which the loop goes on makes its call. -/
theorem rootStep_yield (h : (rootStep st root kind g b).run p = (.yield b', q)) :
    q.store = p.store.run (st.fieldCall? root g.2).toList := by
  unfold rootStep at h
  split at h
  · cases h
  · rw [run_bind] at h
    have hmakes := rootField_makes st root g.1 g.2 p
    rcases hrf : (rootField st root g.1 g.2).run p with ⟨c, q'⟩
    rw [hrf] at h hmakes
    cases c <;> cases h <;> exact hmakes

end RootStep

/-- **An operation makes, in order, the calls of a prefix of its root fields, and the calls of
all of them when its data is not `null`.** -/
theorem operation_calls (st : Setting) (o : Operation) (p : Progress) :
    ∃ k, ((operation st o).run p).2.store = p.store.run ((st.planned o).take k) ∧
      (((operation st o).run p).1.isSome → k = (st.planned o).length) := by
  unfold operation
  cases hroot : Schema.root? o.kind with
  | none => exact ⟨0, rfl, fun h => nomatch h⟩
  | some root =>
    dsimp only
    cases hc : collectFields st root (st.body.size + 2) o.selections [] [] with
    | error e => exact ⟨0, rfl, fun h => nomatch h⟩
    | ok res =>
      obtain ⟨grouped, visited⟩ := res
      dsimp only
      rw [Setting.planned_eq st o hroot hc, run_bind]
      obtain ⟨j, hj, hall⟩ := forIn_prefix (fun g : String × List FieldUse => st.fieldCall? root g.2)
        (fun b : List (String × Value) × Bool => !b.2) (f := rootStep st root o.kind)
        (fun _ _ _ _ _ h => ⟨(rootStep_done h).1, by simp [(rootStep_done h).2]⟩)
        (fun _ _ _ _ _ h => rootStep_yield h) grouped ([], false) p
      have hpre := (List.take_prefix j grouped).filterMap fun g => st.fieldCall? root g.2
      refine ⟨((grouped.take j).filterMap fun g => st.fieldCall? root g.2).length, ?_, fun h => ?_⟩
      · rw [← List.prefix_iff_eq_take.1 hpre]
        exact hj
      · split at h
        · cases h
        · rename_i hb
          rw [hall (congrArg (fun b => !b) (Bool.eq_false_iff.2 hb)), List.take_length]

end Runner

/-! ## Requests -/

namespace Request

theorem prepare_authenticated {q : Request} {authenticated viaGet : Bool} {st : Setting}
    {o : Operation} (h : q.prepare authenticated viaGet = .ok (.ok (st, o))) :
    st.authenticated = authenticated := by
  unfold prepare at h
  repeat' (first | (cases h <;> rfl) | split at h | dsimp only at h)

/-- Running a request keeps the store, or runs the operation it prepares from the store given
with no errors yet. -/
theorem run_eq_ok {q : Request} {s s' : Store} {authenticated viaGet : Bool} {o : Outcome}
    (h : q.run s authenticated viaGet = .ok (o, s')) :
    s' = s ∨ ∃ st op, q.prepare authenticated viaGet = .ok (.ok (st, op)) ∧
      s' = ((Runner.operation st op).run ⟨s, #[]⟩).2.store := by
  unfold run at h
  split at h
  · cases h
  · cases h
    exact .inl rfl
  · rename_i st op hp
    cases h
    exact .inr ⟨st, op, hp, rfl⟩

end Request

/-- A request to the GraphQL endpoint of a service with the token table `T` runs the operation
`o` in the setting `st`. -/
def Runs (T : TokenTable) (r : Http.Request) (st : Setting) (o : Operation) : Prop :=
  ∃ q, authenticated T r = .ok st.authenticated ∧
    (if r.method == "GET" then ofGet r else ofPost r) = .ok q ∧
    q.prepare st.authenticated (r.method == "GET") = .ok (.ok (st, o))

/-- A GraphQL request keeps the store, or runs an operation from the store given. -/
theorem serve_runs (T : TokenTable) (s : Store) (r : Http.Request) :
    (serve T s r).2 = s ∨
      ∃ st o, Runs T r st o ∧ (serve T s r).2 = ((Runner.operation st o).run ⟨s, #[]⟩).2.store := by
  unfold serve
  split
  · exact .inl rfl
  rename_i user hauth
  dsimp only
  split
  · exact .inl rfl
  rename_i q hq
  split
  · exact .inl rfl
  rename_i o s' hrun
  rcases Request.run_eq_ok hrun with rfl | ⟨st, op, hp, rfl⟩
  · exact .inl rfl
  · have hst := Request.prepare_authenticated hp
    subst hst
    exact .inr ⟨st, op, ⟨q, hauth, hq, hp⟩, rfl⟩

/-- **A GraphQL request makes, in order, the calls of a prefix of the root fields of the
operation it runs, and of all of them when the data is not `null`; the store changes in no other
way.** -/
theorem serve_calls (T : TokenTable) (s : Store) (r : Http.Request) :
    (serve T s r).2 = s ∨ ∃ st o k, Runs T r st o ∧
      (serve T s r).2 = s.run ((st.planned o).take k) ∧
      (((Runner.operation st o).run ⟨s, #[]⟩).1.isSome → k = (st.planned o).length) := by
  rcases serve_runs T s r with h | ⟨st, o, hruns, h⟩
  · exact .inl h
  · obtain ⟨k, hk, hall⟩ := Runner.operation_calls st o ⟨s, #[]⟩
    exact .inr ⟨st, o, k, hruns, h.trans hk, hall⟩

theorem serve_issues (T : TokenTable) (s : Store) (r : Http.Request) :
    ∃ cs, (serve T s r).2 = s.run cs := by
  rcases serve_calls T s r with h | ⟨st, o, k, -, h, -⟩
  exacts [⟨[], h⟩, ⟨_, h⟩]

end Graph

end RecipeCatalog
