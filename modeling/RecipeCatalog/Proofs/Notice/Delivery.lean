import Mathlib
import RecipeCatalog.Notice.Loop
import RecipeCatalog.Catalog.Seed

/-!
# Notices are sent once each, in order, before a drain returns

Creating a recipe dispatches a task for its notice and returns; the task runs when the loop comes
to it. Whatever the order in which creations return, callers call `drain` and the loop runs its
jobs, and whichever notices raise:

* `Notice.Loop.Sound` — what holds after any events: the notices sent are those of the first
  tasks dispatched, in order, one each; the pending set holds every task that has not run, and a
  task leaves it before any gathering sees it end; a gathering ends only well, and only once each
  task it gathered ran and left the pending set (`Notice.Loop.sound_run`).
* `Notice.Loop.Keeps` — what a later loop keeps from an earlier one: the notices sent, the tasks
  that left the pending set, and what each gathering gathered (`Notice.Loop.keeps_run`).
* **`Notice.Loop.drain_returns_after_notices`** — once a call of `drain` has returned, a notice
  was sent for each creation that returned an id before the call, in the order they returned,
  and for none that failed; no notice was sent twice; the call returned without raising, no task
  ended by raising, and no task dispatched before the call is pending.

The proof follows the jobs through the ready queue: the tasks run in the order they were
dispatched because their first steps are made ready in that order and nothing else runs a task,
and a task leaves the pending set before a gathering sees it end because the callback that takes
it out was added first, when the task was made.
-/

set_option autoImplicit false

namespace RecipeCatalog

namespace Notice

/-- The task a job runs, if it is a delivery. -/
def Job.delivered : Job → Option Nat
  | .deliver t => some t
  | _ => none

/-- How a delivery task stands, by whether it ran: one that ran ended without raising and has no
callbacks left; one that has not has no result, and its first callback takes it out of the
pending set, the others being those of gatherings. -/
def Delivery.Standing (task : Delivery) (t : Nat) : Bool → Prop
  | true => task.result = some (.ok ()) ∧ task.callbacks = []
  | false => task.result = none ∧ ∃ ds : List Nat, task.callbacks = .discard t :: ds.map (Job.settle · t)

/-- In a queue of jobs, no callback of a gathering for task `t` comes before the callback that
takes `t` out of the pending set. -/
def SettlesAfterDiscard (ready : List Job) (t : Nat) : Prop :=
  ∀ d, Job.settle d t ∉ ready.takeWhile (· != .discard t)

/-! ## Queues that grow at the end -/

/-- What is taken from the front of a list that grew at its end was taken from the list, or the
whole list was taken and then some of what was added. -/
theorem mem_takeWhile_append {α : Type} {p : α → Bool} {x : α} {l m : List α}
    (h : x ∈ (l ++ m).takeWhile p) : x ∈ l.takeWhile p ∨ (∀ a ∈ l, p a) ∧ x ∈ m.takeWhile p := by
  rw [List.takeWhile_append] at h
  split at h
  · rename_i hlen
    have hself : l.takeWhile p = l := (List.takeWhile_prefix p).eq_of_length hlen
    rcases List.mem_append.1 h with h | h
    · rw [hself]
      exact .inl h
    · exact .inr ⟨List.takeWhile_eq_self_iff.1 hself, h⟩
  · exact .inl h

theorem getElem?_concat_eq_some {α : Type} {l : List α} {a b : α} {i : Nat}
    (h : (l ++ [a])[i]? = some b) : l[i]? = some b ∨ i = l.length ∧ b = a := by
  rcases Nat.lt_or_ge i l.length with hi | hi
  · rw [List.getElem?_append_left hi] at h
    exact .inl h
  · rw [List.getElem?_append_right hi, List.getElem?_singleton] at h
    split at h
    · exact .inr ⟨by omega, (Option.some.inj h).symm⟩
    · cases h

theorem getElem?_append_of_eq_some {α : Type} {l m : List α} {i : Nat} {a : α}
    (h : l[i]? = some a) : (l ++ m)[i]? = some a := by
  rw [List.getElem?_append_left (List.getElem?_eq_some_iff.1 h).1, h]

theorem getElem?_set_eq_some {α : Type} {l : List α} {i j : Nat} {a b : α}
    (h : (l.set i a)[j]? = some b) : i = j ∧ b = a ∨ i ≠ j ∧ l[j]? = some b := by
  rw [List.getElem?_set] at h
  split at h
  · split at h
    · exact .inl ⟨‹i = j›, (Option.some.inj h).symm⟩
    · cases h
  · exact .inr ⟨‹¬i = j›, h⟩

namespace SettlesAfterDiscard

variable {ready rest : List Job} {t : Nat}

theorem of_not_mem (h : ∀ d, Job.settle d t ∉ ready) : SettlesAfterDiscard ready t :=
  fun d hd => h d (List.takeWhile_subset _ hd)

theorem append (h : SettlesAfterDiscard ready t) (hrest : ∀ d, Job.settle d t ∉ rest) :
    SettlesAfterDiscard (ready ++ rest) t := by
  intro d hd
  rcases mem_takeWhile_append hd with hd | ⟨-, hd⟩
  · exact h d hd
  · exact hrest d (List.takeWhile_subset _ hd)

/-- Once the callback that takes `t` out is in the queue, anything may follow. -/
theorem append_of_discard (h : SettlesAfterDiscard ready t) (hdis : Job.discard t ∈ ready) :
    SettlesAfterDiscard (ready ++ rest) t := by
  intro d hd
  rcases mem_takeWhile_append hd with hd | ⟨hall, -⟩
  · exact h d hd
  · simpa using hall _ hdis

theorem append_discard (h : SettlesAfterDiscard ready t) :
    SettlesAfterDiscard (ready ++ .discard t :: rest) t := by
  intro d hd
  rcases mem_takeWhile_append hd with hd | ⟨-, hd⟩
  · exact h d hd
  · simp at hd

theorem tail {j : Job} (h : SettlesAfterDiscard (j :: ready) t) (hj : j ≠ .discard t) :
    SettlesAfterDiscard ready t := by
  intro d hd
  apply h d
  rw [List.takeWhile_cons_of_pos (by simpa using hj)]
  exact List.mem_cons_of_mem _ hd

/-- A gathering's callback for `t` at the head of the queue comes before the one that takes `t`
out. -/
theorem not_settle_cons {d : Nat} : ¬ SettlesAfterDiscard (.settle d t :: ready) t := by
  intro h
  apply h d
  simp

end SettlesAfterDiscard

namespace Loop

variable {s : Loop}

/-! ## What each operation changes -/

theorem recipes_set {t : Nat} {task task' : Delivery} (h : s.tasks[t]? = some task)
    (hr : task'.recipe = task.recipe) :
    (s.tasks.set t task').map (·.recipe) = s.tasks.map (·.recipe) := by
  apply List.ext_getElem?
  intro i
  simp only [List.getElem?_map, List.getElem?_set]
  split
  · subst i
    obtain ⟨hlt, rfl⟩ := List.getElem?_eq_some_iff.1 h
    simp [hlt, hr]
  · rfl

theorem finish_of_getElem? {t : Nat} {task : Delivery} (h : s.tasks[t]? = some task)
    (r : Except Fault Unit) :
    s.finish t r = { s with
      ready := s.ready ++ task.callbacks
      tasks := s.tasks.set t { task with result := some r, callbacks := [] } } := by
  simp [finish, h]

theorem addDoneCallback_of_ended {t : Nat} {task : Delivery} (h : s.tasks[t]? = some task)
    (hr : task.result.isSome) (j : Job) : s.addDoneCallback t j = s.callSoon j := by
  simp [addDoneCallback, h, hr]

theorem addDoneCallback_of_running {t : Nat} {task : Delivery} (h : s.tasks[t]? = some task)
    (hr : task.result = none) (j : Job) :
    s.addDoneCallback t j =
      { s with tasks := s.tasks.set t { task with callbacks := task.callbacks ++ [j] } } := by
  simp [addDoneCallback, h, hr]

@[simp] theorem pending_addDoneCallback (t : Nat) (j : Job) :
    (s.addDoneCallback t j).pending = s.pending := by
  unfold addDoneCallback
  split
  · rfl
  · split <;> rfl

@[simp] theorem sent_addDoneCallback (t : Nat) (j : Job) :
    (s.addDoneCallback t j).sent = s.sent := by
  unfold addDoneCallback
  split
  · rfl
  · split <;> rfl

@[simp] theorem drains_addDoneCallback (t : Nat) (j : Job) :
    (s.addDoneCallback t j).drains = s.drains := by
  unfold addDoneCallback
  split
  · rfl
  · split <;> rfl

@[simp] theorem recipes_addDoneCallback (t : Nat) (j : Job) :
    (s.addDoneCallback t j).tasks.map (·.recipe) = s.tasks.map (·.recipe) := by
  unfold addDoneCallback
  split
  · rfl
  · rename_i task htask
    split
    · rfl
    · exact recipes_set htask rfl

theorem deliver_of_getElem? {t : Nat} {task : Delivery} (h : s.tasks[t]? = some task)
    (sent : Except Fault Unit) :
    s.deliver t sent = { s.send task.recipe sent with
      ready := s.ready ++ task.callbacks
      tasks := s.tasks.set t { task with result := some (.ok ()), callbacks := [] } } := by
  have hsend : (s.send task.recipe sent).tasks[t]? = some task := by cases sent <;> exact h
  simp only [deliver, h, finish_of_getElem? hsend]
  cases sent <;> rfl

@[simp] theorem sent_send (r : Recipe) (sent : Except Fault Unit) :
    (s.send r sent).sent = s.sent ++ [r] := by
  cases sent <;> rfl

@[simp] theorem pending_send (r : Recipe) (sent : Except Fault Unit) :
    (s.send r sent).pending = s.pending := by
  cases sent <;> rfl

@[simp] theorem drains_send (r : Recipe) (sent : Except Fault Unit) :
    (s.send r sent).drains = s.drains := by
  cases sent <;> rfl

theorem settle_of_none {d : Nat} (hd : s.drains[d]? = none) (t : Nat) : s.settle d t = s := by
  simp [settle, hd]

theorem settle_of_ended {d t : Nat} {g : DrainCall} (hd : s.drains[d]? = some g)
    (ho : g.outcome.isSome) : s.settle d t = s := by
  unfold settle
  rw [hd]
  cases s.tasks[t]? <;> simp [ho]

/-- A gathering that has not ended learns that a task ended well: the task is no longer
outstanding, and the gathering ends well if it was the last. -/
theorem settle_of_ok {d t : Nat} {g : DrainCall} {task : Delivery} (hd : s.drains[d]? = some g)
    (htask : s.tasks[t]? = some task) (hres : task.result = some (.ok ()))
    (ho : g.outcome = none) :
    s.settle d t =
      if (g.outstanding.erase t).isEmpty then
        s.conclude d { g with outstanding := g.outstanding.erase t } (.ok ())
      else { s with drains := s.drains.set d { g with outstanding := g.outstanding.erase t } } := by
  simp [settle, hd, htask, hres, ho]

theorem wake_of_getElem? {d : Nat} {g : DrainCall} (hd : s.drains[d]? = some g) :
    s.wake d = { s with drains := s.drains.set d { g with resumed := true } } := by
  simp [wake, hd]

/-! ## The invariant -/

/-- A gathering is sound: it ends only well, with no task outstanding; its caller resumes only
once it has ended; and each task it has seen end ran and left the pending set. -/
structure SoundDrain (s : Loop) (g : DrainCall) : Prop where
  outcome : g.outcome = none ∨ g.outcome = some (.ok ()) ∧ g.outstanding = []
  resumed : g.resumed = true → g.outcome.isSome
  seen : ∀ t ∈ g.gathered, t ∉ g.outstanding → t < s.sent.length ∧ t ∉ s.pending

/-- What holds of the loop after any events. The notices sent are those of the first tasks
dispatched, one each; the tasks that have not run are ready to run, in the order they were
dispatched; the callbacks ready are those of tasks that ran and of gatherings that ended; and the
pending set holds each task that has not run, once, while a task that ran leaves it before any
gathering sees it end. -/
structure Sound (s : Loop) : Prop where
  sent_le : s.sent.length ≤ s.tasks.length
  sent_eq : s.sent = (s.tasks.map (·.recipe)).take s.sent.length
  delivers : s.ready.filterMap Job.delivered =
    List.range' s.sent.length (s.tasks.length - s.sent.length)
  standing : ∀ t (task : Delivery), s.tasks[t]? = some task →
    task.Standing t (decide (t < s.sent.length))
  discard_ran : ∀ t, Job.discard t ∈ s.ready → t < s.sent.length
  settle_ran : ∀ d t, Job.settle d t ∈ s.ready → t < s.sent.length
  wake_ended : ∀ d, Job.wake d ∈ s.ready → ∃ g : DrainCall, s.drains[d]? = some g ∧ g.outcome.isSome
  pending_nodup : s.pending.Nodup
  pending_lt : ∀ t ∈ s.pending, t < s.tasks.length
  ran_of_not_pending : ∀ t < s.tasks.length, t ∉ s.pending → t < s.sent.length
  discard_ready : ∀ t ∈ s.pending, t < s.sent.length → Job.discard t ∈ s.ready
  settles_after : ∀ t ∈ s.pending, SettlesAfterDiscard s.ready t
  drains_sound : ∀ (d : Nat) (g : DrainCall), s.drains[d]? = some g → s.SoundDrain g

/-- A gathering stays sound while notices are sent and no task it saw end comes back into the
pending set. -/
theorem SoundDrain.mono {s' : Loop} {g : DrainCall} (h : s.SoundDrain g)
    (hsent : s.sent.length ≤ s'.sent.length)
    (hpending : ∀ t < s.sent.length, t ∉ s.pending → t ∉ s'.pending) : s'.SoundDrain g where
  outcome := h.outcome
  resumed := h.resumed
  seen t hg ho := by
    obtain ⟨hran, hp⟩ := h.seen t hg ho
    exact ⟨by omega, hpending t hran hp⟩

/-- A gathering that has not ended and learns that a ran task left the pending set stays sound. -/
theorem SoundDrain.erase {g : DrainCall} (hg : s.SoundDrain g) (hnone : g.outcome = none)
    {t : Nat} (hran : t < s.sent.length) (hleft : t ∉ s.pending) :
    s.SoundDrain { g with outstanding := g.outstanding.erase t } where
  outcome := .inl hnone
  resumed hr := by simpa [hnone] using hg.resumed hr
  seen u hu ho := by
    by_cases hut : u = t
    · subst hut
      exact ⟨hran, hleft⟩
    · exact hg.seen u hu fun hm => ho ((List.mem_erase_of_ne hut).2 hm)

theorem SoundDrain.conclude {g : DrainCall} (hg : s.SoundDrain g) (hempty : g.outstanding = []) :
    s.SoundDrain { g with outcome := some (.ok ()) } where
  outcome := .inr ⟨rfl, hempty⟩
  resumed _ := rfl
  seen := hg.seen

@[simp] theorem tasks_idle : idle.tasks = [] := rfl

theorem sound_idle : idle.Sound := by
  constructor <;> simp [idle, SettlesAfterDiscard]

/-! ## Each operation keeps the invariant -/

/-- Making a callback ready keeps the invariant when it is that of a task that ran or of a
gathering that ended. -/
theorem Sound.callSoon (h : s.Sound) {j : Job} (hdel : j.delivered = none)
    (hdis : ∀ t, j ≠ .discard t) (hset : ∀ d t, j = .settle d t → t < s.sent.length)
    (hwake : ∀ d, j = .wake d → ∃ g, s.drains[d]? = some g ∧ g.outcome.isSome) :
    (s.callSoon j).Sound where
  sent_le := h.sent_le
  sent_eq := h.sent_eq
  delivers := by simp [Loop.callSoon, h.delivers, hdel]
  standing := h.standing
  discard_ran t ht := by
    simp only [Loop.callSoon, List.mem_append, List.mem_singleton] at ht
    rcases ht with ht | ht
    · exact h.discard_ran t ht
    · exact absurd ht.symm (hdis t)
  settle_ran d t ht := by
    simp only [Loop.callSoon, List.mem_append, List.mem_singleton] at ht
    rcases ht with ht | ht
    · exact h.settle_ran d t ht
    · exact hset d t ht.symm
  wake_ended d hd := by
    simp only [Loop.callSoon, List.mem_append, List.mem_singleton] at hd
    rcases hd with hd | hd
    · exact h.wake_ended d hd
    · exact hwake d hd.symm
  pending_nodup := h.pending_nodup
  pending_lt := h.pending_lt
  ran_of_not_pending := h.ran_of_not_pending
  discard_ready t ht hran := List.mem_append_left _ (h.discard_ready t ht hran)
  settles_after t ht := by
    by_cases hj : ∃ d, j = .settle d t
    · obtain ⟨d, rfl⟩ := hj
      exact (h.settles_after t ht).append_of_discard (h.discard_ready t ht (hset d t rfl))
    · refine (h.settles_after t ht).append ?_
      intro d hd
      exact hj ⟨d, (List.mem_singleton.1 hd).symm⟩
  drains_sound d g hg := (h.drains_sound d g hg).mono le_rfl fun _ _ hp => hp

theorem Sound.dispatch (h : s.Sound) (r : Recipe) : (s.dispatch r).Sound where
  sent_le := by
    simp only [Loop.dispatch, List.length_append, List.length_singleton]
    exact Nat.le_succ_of_le h.sent_le
  sent_eq := by
    simp only [Loop.dispatch, List.map_append]
    rw [List.take_append_of_le_length (by simpa using h.sent_le)]
    exact h.sent_eq
  delivers := by
    have hk := h.sent_le
    simp only [Loop.dispatch, List.filterMap_append, h.delivers, List.length_append,
      List.length_singleton]
    rw [show s.tasks.length + 1 - s.sent.length = s.tasks.length - s.sent.length + 1 by omega,
      List.range'_concat]
    simp [Job.delivered]
    omega
  standing t task ht := by
    simp only [Loop.dispatch] at ht ⊢
    rcases getElem?_concat_eq_some ht with ht | ⟨rfl, rfl⟩
    · exact h.standing t task ht
    · have : ¬ s.tasks.length < s.sent.length := Nat.not_lt.2 h.sent_le
      simp only [this, decide_false, Delivery.Standing]
      refine ⟨?_, [], ?_⟩ <;> simp
  discard_ran t ht := by
    simp only [Loop.dispatch, List.mem_append, List.mem_singleton, reduceCtorEq, or_false] at ht
    exact h.discard_ran t ht
  settle_ran d t ht := by
    simp only [Loop.dispatch, List.mem_append, List.mem_singleton, reduceCtorEq, or_false] at ht
    exact h.settle_ran d t ht
  wake_ended d hd := by
    simp only [Loop.dispatch, List.mem_append, List.mem_singleton, reduceCtorEq, or_false] at hd
    exact h.wake_ended d hd
  pending_nodup := by
    have hn : s.tasks.length ∉ s.pending := fun hm => lt_irrefl _ (h.pending_lt _ hm)
    refine List.nodup_append.2 ⟨h.pending_nodup, List.nodup_singleton _, fun a ha b hb hab => ?_⟩
    rw [List.mem_singleton.1 hb] at hab
    exact hn (hab ▸ ha)
  pending_lt t ht := by
    simp only [Loop.dispatch, List.mem_append, List.mem_singleton, List.length_append,
      List.length_singleton] at ht ⊢
    rcases ht with ht | rfl
    · exact Nat.lt_succ_of_lt (h.pending_lt t ht)
    · exact Nat.lt_succ_self _
  ran_of_not_pending t ht hp := by
    simp only [Loop.dispatch, List.mem_append, List.mem_singleton, not_or, List.length_append,
      List.length_singleton] at ht hp ⊢
    exact h.ran_of_not_pending t (by omega) hp.1
  discard_ready t ht hran := by
    simp only [Loop.dispatch, List.mem_append, List.mem_singleton] at ht hran ⊢
    rcases ht with ht | rfl
    · exact .inl (h.discard_ready t ht hran)
    · exact absurd h.sent_le (Nat.not_le.2 hran)
  settles_after t ht := by
    simp only [Loop.dispatch, List.mem_append, List.mem_singleton] at ht ⊢
    have hsad : SettlesAfterDiscard s.ready t := by
      rcases ht with ht | rfl
      · exact h.settles_after t ht
      · exact .of_not_mem fun d hd => absurd h.sent_le (Nat.not_le.2 (h.settle_ran d _ hd))
    exact hsad.append (by simp)
  drains_sound d g hg := by
    refine (h.drains_sound d g hg).mono le_rfl fun t hran hp => ?_
    simp only [Loop.dispatch, List.mem_append, List.mem_singleton, not_or]
    exact ⟨hp, by have := h.sent_le; omega⟩

/-- A callback added to a task that has not run waits with the others. -/
theorem Sound.setCallbacks (h : s.Sound) {t : Nat} {task : Delivery}
    (htask : s.tasks[t]? = some task) (hran : ¬ t < s.sent.length) {cbs : List Job}
    (hst : ({ task with callbacks := cbs } : Delivery).Standing t false) :
    { s with tasks := s.tasks.set t { task with callbacks := cbs } }.Sound where
  sent_le := by simpa using h.sent_le
  sent_eq := by
    dsimp only
    rw [recipes_set htask (show ({ task with callbacks := cbs } : Delivery).recipe = _ from rfl)]
    exact h.sent_eq
  delivers := by simpa using h.delivers
  standing u task' hu := by
    dsimp only at hu ⊢
    rcases getElem?_set_eq_some hu with ⟨rfl, rfl⟩ | ⟨-, hu⟩
    · rw [decide_eq_false hran]
      exact hst
    · exact h.standing u task' hu
  discard_ran := h.discard_ran
  settle_ran := h.settle_ran
  wake_ended := h.wake_ended
  pending_nodup := h.pending_nodup
  pending_lt := by simpa using h.pending_lt
  ran_of_not_pending := by simpa using h.ran_of_not_pending
  discard_ready := h.discard_ready
  settles_after := h.settles_after
  drains_sound d g hg := (h.drains_sound d g hg).mono le_rfl fun _ _ hp => hp

/-- A gathering's callback added to a pending task keeps the invariant: it is made ready at once
if the task ran, after the callback that takes the task out, and waits for the task otherwise. -/
theorem Sound.addDoneCallback (h : s.Sound) {t : Nat} (ht : t ∈ s.pending) (d : Nat) :
    (s.addDoneCallback t (.settle d t)).Sound := by
  obtain ⟨task, htask⟩ : ∃ task, s.tasks[t]? = some task :=
    ⟨_, List.getElem?_eq_getElem (h.pending_lt t ht)⟩
  have hst := h.standing t task htask
  by_cases hran : t < s.sent.length
  · simp only [hran, decide_true, Delivery.Standing] at hst
    rw [addDoneCallback_of_ended htask (by simp [hst.1])]
    exact h.callSoon rfl (fun _ => by simp) (fun _ _ he => by cases he; exact hran)
      (fun _ he => by cases he)
  · simp only [hran, decide_false, Delivery.Standing] at hst
    obtain ⟨hres, ds, hcb⟩ := hst
    rw [addDoneCallback_of_running htask hres]
    exact h.setCallbacks htask hran ⟨hres, ds ++ [d], by simp [hcb]⟩

theorem Sound.foldl_settle (d : Nat) : ∀ {s : Loop} (ts : List Nat), s.Sound →
    (∀ t ∈ ts, t ∈ s.pending) → (ts.foldl (fun s t => s.addDoneCallback t (.settle d t)) s).Sound
  | _, [], h, _ => h
  | s, t :: ts, h, hts => by
    rw [List.foldl_cons]
    refine Sound.foldl_settle d ts (h.addDoneCallback (hts t List.mem_cons_self) d) fun u hu => ?_
    rw [pending_addDoneCallback]
    exact hts u (List.mem_cons_of_mem t hu)

/-- A sound gathering added keeps the invariant. -/
theorem Sound.addDrain (h : s.Sound) {g : DrainCall} (hg : s.SoundDrain g) :
    { s with drains := s.drains ++ [g] }.Sound where
  sent_le := h.sent_le
  sent_eq := h.sent_eq
  delivers := h.delivers
  standing := h.standing
  discard_ran := h.discard_ran
  settle_ran := h.settle_ran
  wake_ended d hd := by
    obtain ⟨g', hg', ho⟩ := h.wake_ended d hd
    exact ⟨g', getElem?_append_of_eq_some hg', ho⟩
  pending_nodup := h.pending_nodup
  pending_lt := h.pending_lt
  ran_of_not_pending := h.ran_of_not_pending
  discard_ready := h.discard_ready
  settles_after := h.settles_after
  drains_sound d g' hg' := by
    rcases getElem?_concat_eq_some hg' with hg' | ⟨-, rfl⟩
    · exact (h.drains_sound d g' hg').mono le_rfl fun _ _ hp => hp
    · exact hg.mono le_rfl fun _ _ hp => hp

theorem mem_snapshot {t : Nat} (order : List Nat) : t ∈ s.snapshot order ↔ t ∈ s.pending := by
  unfold snapshot
  split
  · exact (List.isPerm_iff.1 ‹_›).mem_iff
  · rfl

theorem Sound.drain (h : s.Sound) (order : List Nat) : (s.drain order).Sound := by
  unfold Loop.drain
  split
  · -- nothing is pending: the call returns at once
    exact h.addDrain ⟨.inr ⟨rfl, rfl⟩, fun _ => rfl, fun _ ht => absurd ht List.not_mem_nil⟩
  · -- the pending tasks are gathered, each given a callback for its end
    dsimp only
    refine Sound.foldl_settle _ _ (h.addDrain ⟨.inl rfl, (fun hr => by cases hr),
      fun t hg ho => absurd hg ho⟩) fun t ht => ?_
    exact (mem_snapshot order).1 ht

/-- Replacing a gathering by a sound one keeps the invariant, when a gathering that ended stays
ended. -/
theorem Sound.setDrain (h : s.Sound) {d : Nat} {g g' : DrainCall} (hd : s.drains[d]? = some g)
    (hg' : s.SoundDrain g') (hended : g.outcome.isSome → g'.outcome.isSome) :
    { s with drains := s.drains.set d g' }.Sound where
  sent_le := h.sent_le
  sent_eq := h.sent_eq
  delivers := h.delivers
  standing := h.standing
  discard_ran := h.discard_ran
  settle_ran := h.settle_ran
  wake_ended d' hd' := by
    obtain ⟨g₀, hg₀, ho⟩ := h.wake_ended d' hd'
    dsimp only
    by_cases hdd : d = d'
    · subst hdd
      rw [hd] at hg₀
      cases hg₀
      exact ⟨g', List.getElem?_set_self (List.getElem?_eq_some_iff.1 hd).1, hended ho⟩
    · exact ⟨g₀, by rw [List.getElem?_set_ne hdd]; exact hg₀, ho⟩
  pending_nodup := h.pending_nodup
  pending_lt := h.pending_lt
  ran_of_not_pending := h.ran_of_not_pending
  discard_ready := h.discard_ready
  settles_after := h.settles_after
  drains_sound d' g₀ hg₀ := by
    rcases getElem?_set_eq_some hg₀ with ⟨-, rfl⟩ | ⟨-, hg₀⟩
    · exact hg'.mono le_rfl fun _ _ hp => hp
    · exact (h.drains_sound d' g₀ hg₀).mono le_rfl fun _ _ hp => hp

theorem mem_ready_of_mem_rest {j x : Job} {rest : List Job} (hr : s.ready = j :: rest)
    (hx : x ∈ rest) : x ∈ s.ready := by
  rw [hr]
  exact List.mem_cons_of_mem _ hx

/-- Taking a job off the queue keeps the invariant, when it is neither a delivery nor the
callback that takes a task out of the pending set. -/
theorem Sound.pop (h : s.Sound) {j : Job} {rest : List Job} (hr : s.ready = j :: rest)
    (hdel : j.delivered = none) (hdis : ∀ t, j ≠ .discard t) : { s with ready := rest }.Sound where
  sent_le := h.sent_le
  sent_eq := h.sent_eq
  delivers := by
    dsimp only
    rw [← h.delivers, hr, List.filterMap_cons_none hdel]
  standing := h.standing
  discard_ran t ht := h.discard_ran t (mem_ready_of_mem_rest hr ht)
  settle_ran d t ht := h.settle_ran d t (mem_ready_of_mem_rest hr ht)
  wake_ended d hd := h.wake_ended d (mem_ready_of_mem_rest hr hd)
  pending_nodup := h.pending_nodup
  pending_lt := h.pending_lt
  ran_of_not_pending := h.ran_of_not_pending
  discard_ready t ht hran := by
    have hmem := h.discard_ready t ht hran
    rw [hr, List.mem_cons] at hmem
    exact hmem.resolve_left fun he => hdis t he.symm
  settles_after t ht := by
    have hsad := h.settles_after t ht
    rw [hr] at hsad
    exact hsad.tail (hdis t)
  drains_sound d g hg := (h.drains_sound d g hg).mono le_rfl fun _ _ hp => hp

/-- The first task that has not run runs: its notice is sent, it ends well, and its callbacks
are made ready. -/
theorem Sound.ran {s' : Loop} (h : s.Sound) {rest : List Job}
    (hr : s.ready = .deliver s.sent.length :: rest) {task : Delivery}
    (htask : s.tasks[s.sent.length]? = some task) {ds : List Nat}
    (hcb : task.callbacks = .discard s.sent.length :: ds.map (Job.settle · s.sent.length))
    (hready : s'.ready = rest ++ task.callbacks)
    (htasks : s'.tasks =
      s.tasks.set s.sent.length { task with result := some (.ok ()), callbacks := [] })
    (hsent : s'.sent = s.sent ++ [task.recipe]) (hpending : s'.pending = s.pending)
    (hdrains : s'.drains = s.drains) : s'.Sound := by
  have hlt : s.sent.length < s.tasks.length := (List.getElem?_eq_some_iff.1 htask).1
  have hrecipes : s'.tasks.map (·.recipe) = s.tasks.map (·.recipe) := by
    rw [htasks]
    exact recipes_set htask rfl
  have hlen : s'.sent.length = s.sent.length + 1 := by simp [hsent]
  constructor
  case sent_le =>
    rw [hlen, htasks, List.length_set]
    exact hlt
  case sent_eq =>
    rw [hrecipes, hlen, List.take_add_one, List.getElem?_map, htask, ← h.sent_eq, hsent]
    rfl
  case delivers =>
    have hd := h.delivers
    rw [hr, List.filterMap_cons_some (f := Job.delivered) rfl,
      show s.tasks.length - s.sent.length = s.tasks.length - (s.sent.length + 1) + 1 by omega,
      List.range'_succ] at hd
    rw [hready, hlen, htasks, List.length_set, List.filterMap_append, (List.cons.inj hd).2, hcb]
    simp [Job.delivered]
  case standing =>
    intro u task' hu
    rw [htasks] at hu
    rw [hlen]
    rcases getElem?_set_eq_some hu with ⟨rfl, rfl⟩ | ⟨hne, hu⟩
    · simp [Delivery.Standing]
    · rw [decide_eq_decide.2 (by omega : u < s.sent.length + 1 ↔ u < s.sent.length)]
      exact h.standing u task' hu
  case discard_ran =>
    intro u hu
    rw [hready, List.mem_append, hcb] at hu
    rw [hlen]
    rcases hu with hu | hu
    · exact Nat.lt_succ_of_lt (h.discard_ran u (mem_ready_of_mem_rest hr hu))
    · simp at hu
      omega
  case settle_ran =>
    intro d u hu
    rw [hready, List.mem_append, hcb] at hu
    rw [hlen]
    rcases hu with hu | hu
    · exact Nat.lt_succ_of_lt (h.settle_ran d u (mem_ready_of_mem_rest hr hu))
    · simp at hu
      omega
  case wake_ended =>
    intro d hd
    rw [hready, List.mem_append, hcb] at hd
    rw [hdrains]
    rcases hd with hd | hd
    · exact h.wake_ended d (mem_ready_of_mem_rest hr hd)
    · simp at hd
  case pending_nodup =>
    rw [hpending]
    exact h.pending_nodup
  case pending_lt =>
    rw [hpending, htasks, List.length_set]
    exact h.pending_lt
  case ran_of_not_pending =>
    intro u hu hp
    rw [hpending] at hp
    rw [htasks, List.length_set] at hu
    rw [hlen]
    exact Nat.lt_succ_of_lt (h.ran_of_not_pending u hu hp)
  case discard_ready =>
    intro u hu hran
    rw [hpending] at hu
    rw [hlen] at hran
    rw [hready, hcb]
    by_cases hut : u = s.sent.length
    · subst hut
      simp
    · have hdis := h.discard_ready u hu (by omega)
      rw [hr, List.mem_cons] at hdis
      exact List.mem_append_left _ (hdis.resolve_left (by simp))
  case settles_after =>
    intro u hu
    rw [hpending] at hu
    rw [hready, hcb]
    have hsad := h.settles_after u hu
    rw [hr] at hsad
    replace hsad := hsad.tail (by simp)
    by_cases hut : u = s.sent.length
    · subst hut
      exact hsad.append_discard
    · exact hsad.append (by simp [Ne.symm hut])
  case drains_sound =>
    intro d g hg
    rw [hdrains] at hg
    exact (h.drains_sound d g hg).mono (by omega) fun u _ hp => by rw [hpending]; exact hp

/-- The delivery at the head of the queue is that of the first task that has not run, and
running it keeps the invariant. -/
theorem Sound.runDeliver (h : s.Sound) {t : Nat} {rest : List Job}
    (hr : s.ready = .deliver t :: rest) (sent : Except Fault Unit) :
    ({ s with ready := rest }.deliver t sent).Sound := by
  have hfirst : t = s.sent.length ∧ s.sent.length < s.tasks.length := by
    have hd := h.delivers
    rw [hr, List.filterMap_cons_some (f := Job.delivered) rfl] at hd
    rcases hn : s.tasks.length - s.sent.length with _ | m
    · rw [hn] at hd
      cases hd
    · rw [hn, List.range'_succ] at hd
      exact ⟨(List.cons.inj hd).1, by omega⟩
  obtain ⟨rfl, hlt⟩ := hfirst
  obtain ⟨task, htask⟩ : ∃ task, s.tasks[s.sent.length]? = some task :=
    ⟨_, List.getElem?_eq_getElem hlt⟩
  have hst := h.standing _ task htask
  simp only [lt_irrefl, decide_false, Delivery.Standing] at hst
  obtain ⟨-, ds, hcb⟩ := hst
  rw [deliver_of_getElem? (s := { s with ready := rest }) htask]
  exact h.ran hr htask hcb rfl rfl (sent_send _ _) (pending_send _ _) (drains_send _ _)

/-- The callback that takes a task out of the pending set runs. -/
theorem Sound.runDiscard (h : s.Sound) {t : Nat} {rest : List Job}
    (hr : s.ready = .discard t :: rest) :
    { s with ready := rest, pending := s.pending.erase t }.Sound where
  sent_le := h.sent_le
  sent_eq := h.sent_eq
  delivers := by
    dsimp only
    rw [← h.delivers, hr, List.filterMap_cons_none (f := Job.delivered) rfl]
  standing := h.standing
  discard_ran u hu := h.discard_ran u (mem_ready_of_mem_rest hr hu)
  settle_ran d u hu := h.settle_ran d u (mem_ready_of_mem_rest hr hu)
  wake_ended d hd := h.wake_ended d (mem_ready_of_mem_rest hr hd)
  pending_nodup := h.pending_nodup.erase t
  pending_lt u hu := h.pending_lt u (List.mem_of_mem_erase hu)
  ran_of_not_pending u hu hp := by
    by_cases hut : u = t
    · subst hut
      exact h.discard_ran u (by rw [hr]; exact List.mem_cons_self)
    · exact h.ran_of_not_pending u hu fun hm => hp ((List.mem_erase_of_ne hut).2 hm)
  discard_ready u hu hran := by
    have hne : u ≠ t := (h.pending_nodup.mem_erase_iff.1 hu).1
    have hmem := h.discard_ready u (List.mem_of_mem_erase hu) hran
    rw [hr, List.mem_cons] at hmem
    exact hmem.resolve_left fun he => hne (Job.discard.inj he)
  settles_after u hu := by
    have hne : u ≠ t := (h.pending_nodup.mem_erase_iff.1 hu).1
    have hsad := h.settles_after u (List.mem_of_mem_erase hu)
    rw [hr] at hsad
    exact hsad.tail fun he => hne (Job.discard.inj he).symm
  drains_sound d g hg :=
    (h.drains_sound d g hg).mono le_rfl fun _ _ hp hm => hp (List.mem_of_mem_erase hm)

/-- A gathering's callback runs: its task ran and left the pending set before it. -/
theorem Sound.runSettle (h : s.Sound) {d t : Nat} {rest : List Job}
    (hr : s.ready = .settle d t :: rest) : ({ s with ready := rest }.settle d t).Sound := by
  have hpop := h.pop hr rfl fun _ => by simp
  have hran : t < s.sent.length := h.settle_ran d t (by rw [hr]; exact List.mem_cons_self)
  have hleft : t ∉ s.pending := fun ht =>
    SettlesAfterDiscard.not_settle_cons (hr ▸ h.settles_after t ht)
  obtain ⟨task, htask⟩ : ∃ task, s.tasks[t]? = some task :=
    ⟨_, List.getElem?_eq_getElem (by have := h.sent_le; omega)⟩
  have hres : task.result = some (.ok ()) := by
    have hst := h.standing t task htask
    simp only [hran, decide_true, Delivery.Standing] at hst
    exact hst.1
  cases hd : s.drains[d]? with
  | none => rw [settle_of_none (s := { s with ready := rest }) hd]; exact hpop
  | some g =>
    by_cases ho : g.outcome.isSome
    · rw [settle_of_ended (s := { s with ready := rest }) hd ho]
      exact hpop
    have hnone : g.outcome = none := by simpa using ho
    have herase : ({ s with ready := rest } : Loop).SoundDrain _ :=
      ((h.drains_sound d g hd).erase hnone hran hleft).mono le_rfl fun _ _ hp => hp
    rw [settle_of_ok (s := { s with ready := rest }) hd htask hres hnone]
    split
    · rename_i hempty
      have hconcluded := herase.conclude (List.isEmpty_iff.1 hempty)
      refine (hpop.setDrain hd hconcluded (absurd · ho)).callSoon rfl (fun _ => by simp)
        (fun _ _ he => by cases he) fun _ he => ?_
      cases he
      exact ⟨_, List.getElem?_set_self (List.getElem?_eq_some_iff.1 hd).1, rfl⟩
    · exact hpop.setDrain hd herase (absurd · ho)

/-- The caller of a gathering that ended resumes. -/
theorem Sound.runWake (h : s.Sound) {d : Nat} {rest : List Job}
    (hr : s.ready = .wake d :: rest) : ({ s with ready := rest }.wake d).Sound := by
  obtain ⟨g, hd, ho⟩ := h.wake_ended d (by rw [hr]; exact List.mem_cons_self)
  have hpop := h.pop hr rfl fun _ => by simp
  have hg : ({ s with ready := rest } : Loop).SoundDrain g :=
    (h.drains_sound d g hd).mono le_rfl fun _ _ hp => hp
  rw [wake_of_getElem? (s := { s with ready := rest }) hd]
  exact hpop.setDrain hd ⟨hg.outcome, fun _ => ho, hg.seen⟩ id

theorem Sound.next (h : s.Sound) (sent : Except Fault Unit) : (s.step (.next sent)).Sound := by
  cases hr : s.ready with
  | nil =>
    simp only [Loop.step, hr]
    exact h
  | cons j rest =>
    simp only [Loop.step, hr]
    cases j with
    | deliver t => exact h.runDeliver hr sent
    | discard t => exact h.runDiscard hr
    | settle d t => exact h.runSettle hr
    | wake d => exact h.runWake hr

/-- **Every event keeps the invariant.** -/
theorem Sound.step (h : s.Sound) : ∀ e, (s.step e).Sound
  | .answer (.ok r) => h.dispatch r
  | .answer (.error _) => h
  | .drain order => h.drain order
  | .next sent => h.next sent

theorem Sound.run (h : s.Sound) (es : List Event) : (s.run es).Sound := by
  induction es generalizing s with
  | nil => exact h
  | cons e es ih => exact ih (h.step e)

/-- **The invariant holds after any events.** -/
theorem sound_run (es : List Event) : (idle.run es).Sound :=
  sound_idle.run es

/-- No task ends by raising: a task that ran ended well. -/
theorem Sound.result_ok (h : s.Sound) {task : Delivery} (htask : task ∈ s.tasks) :
    task.result = none ∨ task.result = some (.ok ()) := by
  obtain ⟨i, hi, rfl⟩ := List.getElem_of_mem htask
  have hst := h.standing i _ (List.getElem?_eq_getElem hi)
  cases hb : decide (i < s.sent.length) <;> rw [hb] at hst
  · exact .inl hst.1
  · exact .inr hst.1

/-! ## What a later loop keeps -/

/-- Every gathering of the first list is in the second, with the tasks it gathered. -/
def DrainsKept (ds ds' : List DrainCall) : Prop :=
  ∀ (d : Nat) (g : DrainCall), ds[d]? = some g →
    ∃ g' : DrainCall, ds'[d]? = some g' ∧ g'.gathered = g.gathered

theorem DrainsKept.refl (ds : List DrainCall) : DrainsKept ds ds := fun _ g hg => ⟨g, hg, rfl⟩

theorem DrainsKept.trans {ds ds' ds'' : List DrainCall} (h : DrainsKept ds ds')
    (h' : DrainsKept ds' ds'') : DrainsKept ds ds'' := by
  intro d g hg
  obtain ⟨g', hg', hgg⟩ := h d g hg
  obtain ⟨g'', hg'', hgg'⟩ := h' d g' hg'
  exact ⟨g'', hg'', hgg'.trans hgg⟩

theorem DrainsKept.append (ds : List DrainCall) (g : DrainCall) : DrainsKept ds (ds ++ [g]) :=
  fun _ g' hg' => ⟨g', getElem?_append_of_eq_some hg', rfl⟩

theorem DrainsKept.set {ds : List DrainCall} {d : Nat} {g g' : DrainCall} (hd : ds[d]? = some g)
    (hg : g'.gathered = g.gathered) : DrainsKept ds (ds.set d g') := by
  intro d₀ g₀ hg₀
  by_cases hdd : d = d₀
  · subst hdd
    rw [hd] at hg₀
    cases hg₀
    exact ⟨g', List.getElem?_set_self (List.getElem?_eq_some_iff.1 hd).1, hg⟩
  · exact ⟨g₀, by rw [List.getElem?_set_ne hdd]; exact hg₀, rfl⟩

/-- What a later loop keeps from an earlier one: its tasks and notices sent, the tasks that left
the pending set, and the gatherings with what they gathered. -/
structure Keeps (s s' : Loop) : Prop where
  tasks_le : s.tasks.length ≤ s'.tasks.length
  sent_le : s.sent.length ≤ s'.sent.length
  left : ∀ t < s.tasks.length, t ∉ s.pending → t ∉ s'.pending
  drains : DrainsKept s.drains s'.drains

theorem Keeps.refl (s : Loop) : Keeps s s := ⟨le_rfl, le_rfl, fun _ _ hp => hp, .refl _⟩

/-- Taking jobs off the queue keeps everything. -/
theorem keeps_ready (ready : List Job) : Keeps s { s with ready } :=
  ⟨le_rfl, le_rfl, fun _ _ hp => hp, .refl _⟩

theorem Keeps.trans {s₁ s₂ s₃ : Loop} (h : Keeps s₁ s₂) (h' : Keeps s₂ s₃) : Keeps s₁ s₃ where
  tasks_le := h.tasks_le.trans h'.tasks_le
  sent_le := h.sent_le.trans h'.sent_le
  left t ht hp := h'.left t (lt_of_lt_of_le ht h.tasks_le) (h.left t ht hp)
  drains := h.drains.trans h'.drains

/-- A gathering's callback changes nothing but the gatherings, keeping what each gathered, and
the queue. -/
theorem settle_frame (d t : Nat) :
    (s.settle d t).tasks = s.tasks ∧ (s.settle d t).sent = s.sent ∧
      (s.settle d t).pending = s.pending ∧ DrainsKept s.drains (s.settle d t).drains := by
  unfold settle
  split
  · rename_i g task hd _
    split
    · exact ⟨rfl, rfl, rfl, .refl _⟩
    · split
      · exact ⟨rfl, rfl, rfl, .set hd rfl⟩
      · dsimp only
        split
        · exact ⟨rfl, rfl, rfl, .set hd rfl⟩
        · exact ⟨rfl, rfl, rfl, .set hd rfl⟩
  · exact ⟨rfl, rfl, rfl, .refl _⟩

theorem wake_frame (d : Nat) :
    (s.wake d).tasks = s.tasks ∧ (s.wake d).sent = s.sent ∧ (s.wake d).pending = s.pending ∧
      DrainsKept s.drains (s.wake d).drains := by
  cases hd : s.drains[d]? with
  | none =>
    have hwake : s.wake d = s := by simp [wake, hd]
    rw [hwake]
    exact ⟨rfl, rfl, rfl, .refl _⟩
  | some g =>
    rw [wake_of_getElem? hd]
    exact ⟨rfl, rfl, rfl, .set hd rfl⟩

/-- What no callback added changes, adding the callbacks of a gathering does not change. -/
theorem foldl_settle_eq {α : Type} (f : Loop → α) (d : Nat)
    (hf : ∀ s t, f (s.addDoneCallback t (.settle d t)) = f s) :
    ∀ (s : Loop) (ts : List Nat), f (ts.foldl (fun s t => s.addDoneCallback t (.settle d t)) s) = f s
  | _, [] => rfl
  | s, t :: ts => by rw [List.foldl_cons, foldl_settle_eq f d hf _ ts, hf]

theorem recipes_drain (order : List Nat) :
    (s.drain order).tasks.map (·.recipe) = s.tasks.map (·.recipe) := by
  unfold Loop.drain
  split
  · rfl
  · exact foldl_settle_eq (fun s => s.tasks.map (·.recipe)) _ (fun _ _ => recipes_addDoneCallback _ _) _ _

theorem sent_drain (order : List Nat) : (s.drain order).sent = s.sent := by
  unfold Loop.drain
  split
  · rfl
  · exact foldl_settle_eq Loop.sent _ (fun _ _ => sent_addDoneCallback _ _) _ _

theorem pending_drain (order : List Nat) : (s.drain order).pending = s.pending := by
  unfold Loop.drain
  split
  · rfl
  · exact foldl_settle_eq Loop.pending _ (fun _ _ => pending_addDoneCallback _ _) _ _

/-- A call of `drain` adds its gathering after the others. -/
theorem drains_drain (order : List Nat) :
    ∃ g, (s.drain order).drains = s.drains ++ [g] ∧ ∀ t ∈ s.pending, t ∈ g.gathered := by
  unfold Loop.drain
  split
  · rename_i hempty
    refine ⟨_, rfl, fun t ht => ?_⟩
    simp [List.isEmpty_iff.1 hempty] at ht
  · dsimp only
    rw [foldl_settle_eq Loop.drains _ (fun _ _ => drains_addDoneCallback _ _)]
    exact ⟨_, rfl, fun t ht => (mem_snapshot order).2 ht⟩

theorem keeps_drain (order : List Nat) : Keeps s (s.drain order) where
  tasks_le := by
    have hlen := congrArg List.length (recipes_drain (s := s) order)
    simp only [List.length_map] at hlen
    exact hlen.ge
  sent_le := by rw [sent_drain]
  left _ _ hp := by rwa [pending_drain]
  drains := by
    obtain ⟨g, hg, -⟩ := drains_drain (s := s) order
    rw [hg]
    exact .append _ _

theorem recipes_deliver (t : Nat) (sent : Except Fault Unit) :
    (s.deliver t sent).tasks.map (·.recipe) = s.tasks.map (·.recipe) := by
  cases htask : s.tasks[t]? with
  | none => simp [deliver, htask]
  | some task =>
    rw [deliver_of_getElem? htask]
    exact recipes_set htask rfl

theorem keeps_deliver (t : Nat) (sent : Except Fault Unit) : Keeps s (s.deliver t sent) := by
  cases htask : s.tasks[t]? with
  | none =>
    have hdeliver : s.deliver t sent = s := by simp [deliver, htask]
    rw [hdeliver]
    exact .refl s
  | some task =>
    rw [deliver_of_getElem? htask]
    refine ⟨by simp, by simp, fun _ _ hp => by simpa using hp, by simpa using .refl _⟩

/-- **What every event changes in the tasks**: a creation that returns an id adds one, for its
recipe, and nothing else adds or replaces one. -/
theorem recipes_step (e : Event) :
    (s.step e).tasks.map (·.recipe) = s.tasks.map (·.recipe) ++ created [e] := by
  match e with
  | .answer (.ok r) => simp [Loop.step, Loop.dispatch, created]
  | .answer (.error _) => simp [Loop.step, created]
  | .drain order => simpa [Loop.step, created] using recipes_drain order
  | .next sent =>
    simp only [created, List.filterMap_cons, List.filterMap_nil, List.append_nil]
    cases hr : s.ready with
    | nil => simp [Loop.step, hr]
    | cons j rest =>
      simp only [Loop.step, hr]
      cases j with
      | deliver t => exact recipes_deliver t sent
      | discard t => rfl
      | settle d t =>
        exact congrArg (List.map (·.recipe)) (settle_frame (s := { s with ready := rest }) d t).1
      | wake d =>
        exact congrArg (List.map (·.recipe)) (wake_frame (s := { s with ready := rest }) d).1

theorem keeps_step (e : Event) : Keeps s (s.step e) := by
  match e with
  | .answer (.ok r) =>
    refine ⟨by simp [Loop.step, Loop.dispatch], le_rfl, fun t ht hp => ?_, .refl _⟩
    simp only [Loop.step, Loop.dispatch, List.mem_append, List.mem_singleton, not_or]
    exact ⟨hp, by omega⟩
  | .answer (.error _) => exact .refl s
  | .drain order => exact keeps_drain order
  | .next sent =>
    cases hr : s.ready with
    | nil =>
      simp only [Loop.step, hr]
      exact .refl s
    | cons j rest =>
      simp only [Loop.step, hr]
      cases j with
      | deliver t => exact (keeps_ready rest).trans (keeps_deliver t sent)
      | discard t =>
        exact ⟨le_rfl, le_rfl, fun _ _ hp hm => hp (List.mem_of_mem_erase hm), .refl _⟩
      | settle d t =>
        obtain ⟨htasks, hsent, hpending, hdrains⟩ := settle_frame (s := { s with ready := rest }) d t
        refine ⟨?_, ?_, ?_, hdrains⟩
        · simp only [Loop.runJob, htasks, le_refl]
        · simp only [Loop.runJob, hsent, le_refl]
        · simp only [Loop.runJob, hpending]
          exact fun _ _ hp => hp
      | wake d =>
        obtain ⟨htasks, hsent, hpending, hdrains⟩ := wake_frame (s := { s with ready := rest }) d
        refine ⟨?_, ?_, ?_, hdrains⟩
        · simp only [Loop.runJob, htasks, le_refl]
        · simp only [Loop.runJob, hsent, le_refl]
        · simp only [Loop.runJob, hpending]
          exact fun _ _ hp => hp

theorem recipes_run (es : List Event) :
    (s.run es).tasks.map (·.recipe) = s.tasks.map (·.recipe) ++ created es := by
  induction es generalizing s with
  | nil => simp [Loop.run, created]
  | cons e es ih =>
    have hcreated : created (e :: es) = created [e] ++ created es := by
      unfold created
      rw [← List.filterMap_append]
      rfl
    rw [hcreated, ← List.append_assoc, ← recipes_step e]
    exact ih

theorem keeps_run (es : List Event) : Keeps s (s.run es) := by
  induction es generalizing s with
  | nil => exact .refl s
  | cons e es ih => exact (keeps_step e).trans ih

/-! ## Once a drain returns -/

/-- **Once a call of `drain` has returned, every notice due was sent.** Whatever the creations
returned before the call and after it, the order in which the pending set was iterated, the jobs
the loop ran and the notices that raised: a notice was sent for each creation that returned an
id before the call, in the order they returned, and for none that failed; no notice was sent
twice or out of order; the call returned without raising, and no task ended by raising; and no
task dispatched before the call is pending. A creation's outcome is its event's own, and
dispatching only makes a task ready, so a notice's exception can reach only a task's end and the
gatherings of `drain`. -/
theorem drain_returns_after_notices {before after : List Event} {order : List Nat} {s : Loop}
    {g : DrainCall} (hs : idle.run (before ++ .drain order :: after) = s)
    (hg : s.drains[(idle.run before).drains.length]? = some g) (hres : g.resumed = true) :
    created before <+: s.sent ∧ s.sent <+: created (before ++ .drain order :: after) ∧
      g.outcome = some (.ok ()) ∧ (∀ task ∈ s.tasks, task.result ≠ none → task.result = some (.ok ())) ∧
      ∀ t < (created before).length, t ∉ s.pending := by
  set s₀ := idle.run before
  have h₀ : s₀.Sound := sound_run before
  have h : s.Sound := hs ▸ sound_run _
  have hrun : s = (s₀.drain order).run after := by
    rw [← hs, Loop.run, List.foldl_append]
    rfl
  have hkeeps : Keeps (s₀.drain order) s := hrun ▸ keeps_run after
  have hrecipes : s.tasks.map (·.recipe) = created (before ++ .drain order :: after) := by
    rw [← hs, recipes_run]
    rfl
  have hn₀ : s₀.tasks.length = (created before).length := by
    simpa using congrArg List.length (recipes_run (s := idle) before)
  obtain ⟨g₁, hdrains, hgathered⟩ := drains_drain (s := s₀) order
  obtain ⟨g', hg', hsame⟩ := hkeeps.drains _ g₁ (by rw [hdrains]; exact List.getElem?_concat_length)
  rw [hg] at hg'
  cases hg'
  have hsound := h.drains_sound _ g hg
  obtain ⟨hok, hempty⟩ : g.outcome = some (.ok ()) ∧ g.outstanding = [] := by
    rcases hsound.outcome with hnone | hdone
    · simpa [hnone] using hsound.resumed hres
    · exact hdone
  have hdone : ∀ t < s₀.tasks.length, t < s.sent.length ∧ t ∉ s.pending := by
    intro t ht
    by_cases hp : t ∈ s₀.pending
    · exact hsound.seen t (hsame ▸ hgathered t hp) (by simp [hempty])
    · have hkeeps₀ := (keeps_drain (s := s₀) order).trans hkeeps
      exact ⟨lt_of_lt_of_le (h₀.ran_of_not_pending t ht hp) hkeeps₀.sent_le,
        hkeeps₀.left t ht hp⟩
  have hk : (created before).length ≤ s.sent.length := by
    by_contra hlt
    exact lt_irrefl _ (hdone s.sent.length (by omega)).1
  have hsent : s.sent = (created before ++ created (.drain order :: after)).take s.sent.length := by
    have hcreated : created (before ++ .drain order :: after) =
        created before ++ created (.drain order :: after) := List.filterMap_append
    rw [← hcreated, ← hrecipes]
    exact h.sent_eq
  refine ⟨?_, ?_, hok, fun task htask hsome => (h.result_ok htask).resolve_left hsome,
    fun t ht => (hdone t (hn₀ ▸ ht)).2⟩
  · rw [hsent]
    exact List.prefix_take_iff.2 ⟨List.prefix_append _ _, hk⟩
  · rw [h.sent_eq, hrecipes]
    exact List.take_prefix _ _

/-- The sample recipes created in turn, and then a creation that fails for a name they have. -/
def sampleCreations : List Event :=
  Seed.recipes.map (fun r => .answer (.ok r)) ++
    [.answer (.error (.nameExists "Alpha" "00000000-0000-0000-0000-000000000001"))]

/-- The loop runs sixteen jobs, and the first notice raises. -/
def sixteenJobs : List Event :=
  .next (.error .floatOverflow) :: List.replicate 15 (.next (.ok ()))

theorem drain_returns_after_sample_notices :
    idle.run (sampleCreations ++ .drain [4, 3, 2, 1, 0] :: sixteenJobs) =
        idle.run (sampleCreations ++ .drain [4, 3, 2, 1, 0] :: sixteenJobs) ∧
      (idle.run (sampleCreations ++ .drain [4, 3, 2, 1, 0] :: sixteenJobs)).drains[
          (idle.run sampleCreations).drains.length]? = some ⟨[4, 3, 2, 1, 0], [], some (.ok ()), true⟩ ∧
      (⟨[4, 3, 2, 1, 0], [], some (.ok ()), true⟩ : DrainCall).resumed = true ∧
      (created sampleCreations <+:
          (idle.run (sampleCreations ++ .drain [4, 3, 2, 1, 0] :: sixteenJobs)).sent ∧
        (idle.run (sampleCreations ++ .drain [4, 3, 2, 1, 0] :: sixteenJobs)).sent <+:
          created (sampleCreations ++ .drain [4, 3, 2, 1, 0] :: sixteenJobs) ∧
        (⟨[4, 3, 2, 1, 0], [], some (.ok ()), true⟩ : DrainCall).outcome = some (.ok ()) ∧
        (∀ task ∈ (idle.run (sampleCreations ++ .drain [4, 3, 2, 1, 0] :: sixteenJobs)).tasks,
          task.result ≠ none → task.result = some (.ok ())) ∧
        ∀ t < (created sampleCreations).length,
          t ∉ (idle.run (sampleCreations ++ .drain [4, 3, 2, 1, 0] :: sixteenJobs)).pending) :=
  ⟨rfl, rfl, rfl, drain_returns_after_notices rfl rfl rfl⟩

end Loop

end Notice

end RecipeCatalog
