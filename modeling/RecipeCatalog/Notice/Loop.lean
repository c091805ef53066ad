import RecipeCatalog.Catalog.Recipe
import RecipeCatalog.Catalog.Failure
import RecipeCatalog.Fault

/-!
# Creation notices on an event loop

A recipe that is created is announced by a task of its own: creating it dispatches the task and
returns at once, without waiting for the notice. The notifier keeps the tasks in flight in a
pending set, from which each task takes itself out when it ends, and `drain` waits for the tasks
pending when it is called. A notice that cannot be sent is logged, and goes no further.

All of it runs on one event loop, which runs the jobs made ready one at a time, in the order in
which they were made ready: a task's first step when the task is made, and the callbacks added to
a task, in the order they were added, when it ends (at once, if it has ended). A delivery sends its
notice without waiting for anything, so it runs in one job. Between two jobs the world outside
the notifier may act: a creation returns (its last step is a job of its own, ready when its
storage call completes), or a caller calls `drain`. `Notice.Loop.step` takes one such event, with
what the world decides in it: the outcome of the creation that returns, and whether a notice
goes through.

A call of `drain` gathers the tasks pending when it is called. The gathering ends when each of
them has been seen to end, or at once when one of them ended by raising, and the caller then
resumes, returning or raising as the gathering ended.

Main definitions: `Notice.Loop`, `Notice.Loop.step`, `Notice.Loop.run`.
-/

namespace RecipeCatalog

namespace Notice

/-- A unit of work in the loop's ready queue. -/
inductive Job where
  /-- the delivery task with this number runs: it sends its notice and ends -/
  | deliver (task : Nat)
  /-- the callback by which a task that ended leaves the pending set -/
  | discard (task : Nat)
  /-- the callback by which the gathering of a drain learns that one of its tasks ended -/
  | settle (drain task : Nat)
  /-- the caller of a drain resumes, its gathering over -/
  | wake (drain : Nat)
  deriving DecidableEq, Repr

/-- A delivery task: the recipe it announces, how it ended once it has, and the callbacks to run
when it ends, in the order they were added. -/
structure Delivery where
  recipe : Recipe
  result : Option (Except Fault Unit)
  callbacks : List Job

/-- A call of `drain`: the tasks it gathered, those not yet seen to end, how the gathering ended
once it has, and whether the caller has resumed. -/
structure DrainCall where
  gathered : List Nat
  outstanding : List Nat
  outcome : Option (Except Fault Unit)
  resumed : Bool

/-- The event loop with the notifier's tasks. -/
structure Loop where
  /-- the jobs ready to run, first to run first -/
  ready : List Job
  /-- the delivery tasks, numbered in the order they were dispatched -/
  tasks : List Delivery
  /-- the notifier's pending set: the tasks in flight -/
  pending : List Nat
  /-- the calls of `drain`, in the order they were made -/
  drains : List DrainCall
  /-- the recipes whose notice was sent, in the order sent -/
  sent : List Recipe
  /-- the ids of the recipes whose notice failed, as logged -/
  failed : List String

/-- What can happen next. -/
inductive Event where
  /-- a creation returns: the id of the recipe it stored, or a failure -/
  | answer (outcome : Except Failure Recipe)
  /-- a caller calls `drain`, which finds the pending set iterated in the order `order` -/
  | drain (order : List Nat)
  /-- the loop runs the first ready job; a notice sent in it goes through or raises as `sent` says -/
  | next (sent : Except Fault Unit)

namespace Loop

/-- The loop before anything was created. -/
def idle : Loop := ⟨[], [], [], [], [], []⟩

/-- Makes a job ready: it runs after every job ready before it. -/
def callSoon (s : Loop) (j : Job) : Loop := { s with ready := s.ready ++ [j] }

/-- Dispatches the notice of a recipe: a new task, ready to run, pending, and set to leave the
pending set when it ends. -/
def dispatch (s : Loop) (r : Recipe) : Loop :=
  let n := s.tasks.length
  { s with
    ready := s.ready ++ [.deliver n]
    tasks := s.tasks ++ [⟨r, none, [.discard n]⟩]
    pending := s.pending ++ [n] }

/-- A task ends with a result: its callbacks are made ready, in the order they were added. -/
def finish (s : Loop) (t : Nat) (result : Except Fault Unit) : Loop :=
  match s.tasks[t]? with
  | none => s
  | some task =>
    { s with
      ready := s.ready ++ task.callbacks
      tasks := s.tasks.set t { task with result := some result, callbacks := [] } }

/-- Adds a callback to a task: made ready at once if the task has ended, else when it ends. -/
def addDoneCallback (s : Loop) (t : Nat) (j : Job) : Loop :=
  match s.tasks[t]? with
  | none => s
  | some task =>
    if task.result.isSome then s.callSoon j
    else { s with tasks := s.tasks.set t { task with callbacks := task.callbacks ++ [j] } }

/-- The notice of a recipe is sent; one that raises is logged with the recipe's id. -/
def send (s : Loop) (r : Recipe) : Except Fault Unit → Loop
  | .ok () => { s with sent := s.sent ++ [r] }
  | .error _ => { s with sent := s.sent ++ [r], failed := s.failed ++ [r.id] }

/-- Runs a delivery task: its notice is sent, and the task ends without raising whether or not
the notice went through, a notice that raised being caught and logged. -/
def deliver (s : Loop) (t : Nat) (sent : Except Fault Unit) : Loop :=
  match s.tasks[t]? with
  | none => s
  | some task => (s.send task.recipe sent).finish t (.ok ())

/-- The pending tasks in the order in which the pending set is iterated, which nothing fixes: the
world gives the order, and a list that is not an order of the pending tasks is taken as the order
of dispatch. -/
def snapshot (s : Loop) (order : List Nat) : List Nat :=
  if order.isPerm s.pending then order else s.pending

/-- Calls `drain`: it returns at once when nothing is pending, and otherwise gathers the pending
tasks and waits for the gathering. -/
def drain (s : Loop) (order : List Nat) : Loop :=
  if s.pending.isEmpty then { s with drains := s.drains ++ [⟨[], [], some (.ok ()), true⟩] }
  else
    let d := s.drains.length
    let gathered := s.snapshot order
    gathered.foldl (fun s t => s.addDoneCallback t (.settle d t))
      { s with drains := s.drains ++ [⟨gathered, gathered, none, false⟩] }

/-- Ends the gathering of a drain, and makes its caller ready to resume. -/
def conclude (s : Loop) (d : Nat) (g : DrainCall) (outcome : Except Fault Unit) : Loop :=
  { s with drains := s.drains.set d { g with outcome := some outcome } }.callSoon (.wake d)

/-- The gathering of a drain learns that task `t` ended: a task that raised ends the gathering
with its error, and the last of the tasks to end ends it well. -/
def settle (s : Loop) (d t : Nat) : Loop :=
  match s.drains[d]?, s.tasks[t]? with
  | some g, some task =>
    if g.outcome.isSome then s
    else
      match task.result with
      | some (.error f) => s.conclude d g (.error f)
      | _ =>
        let g := { g with outstanding := g.outstanding.erase t }
        if g.outstanding.isEmpty then s.conclude d g (.ok ())
        else { s with drains := s.drains.set d g }
  | _, _ => s

/-- The caller of a drain resumes. -/
def wake (s : Loop) (d : Nat) : Loop :=
  match s.drains[d]? with
  | none => s
  | some g => { s with drains := s.drains.set d { g with resumed := true } }

/-- Runs a job taken from the ready queue. -/
def runJob (s : Loop) (sent : Except Fault Unit) : Job → Loop
  | .deliver t => s.deliver t sent
  | .discard t => { s with pending := s.pending.erase t }
  | .settle d t => s.settle d t
  | .wake d => s.wake d

/-- One event. A creation that returns a recipe's id has dispatched its notice just before; one
that fails dispatches nothing. -/
def step (s : Loop) : Event → Loop
  | .answer (.ok r) => s.dispatch r
  | .answer (.error _) => s
  | .drain order => s.drain order
  | .next sent =>
    match s.ready with
    | [] => s
    | j :: rest => { s with ready := rest }.runJob sent j

/-- Events one after another. -/
def run (s : Loop) (events : List Event) : Loop := events.foldl step s

end Loop

/-- The recipes whose creations returned an id, in the order they returned. -/
def created (events : List Event) : List Recipe :=
  events.filterMap fun
    | .answer (.ok r) => some r
    | _ => none

end Notice

end RecipeCatalog
