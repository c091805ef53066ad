import RecipeCatalog.Catalog.Search

/-!
# A session of the recipe table

A session sees the rows of the recipe table as its transaction has left them, remembers the rows
of the last commit, and keeps an identity map: at most one object for each id, holding the
values it was read or created with. The database library documents its rules:

* reading a row gives the object the identity map holds for the row's id, with the values that
  object holds; only a row with no object gets a new one. A look-up by id that asks for its row
  to be populated again writes the row's values into the object;
* a bulk update that does not synchronise the session writes rows and leaves every object as it
  was;
* the identity map references its objects weakly: an object that nothing else references, with
  no change left to write, leaves it;
* a rollback returns the rows to those of the last commit and expires every object, so that its
  next read loads the row again; a commit keeps the objects as they are.

The repository on a session (`Session.getById`, `Session.find`, `Session.idOfName?`,
`Session.idOfCode?`, `Session.create`, `Session.replace`, `Session.delete`) writes each change at
once and answers recipes made from the objects it reads, never the objects. On a session that
only the repository uses, nothing references an object once one of its calls returns
(`Session.release`). The ids and criteria a caller gives are written as UTF-8 before they are
bound, so one holding a lone surrogate faults.

Main definitions: `Session`, `Session.Step`, `Session.perform`, `Session.run`.
-/

namespace RecipeCatalog

/-- A session of the recipe table. -/
structure Session where
  /-- the rows as the session's transaction sees them -/
  rows : List Recipe
  /-- the rows of the last commit -/
  committed : List Recipe
  /-- the identity map: the objects of the session, with the values each holds -/
  objects : List Recipe

namespace Criteria

/-- Whether a row meets what the database tests of criteria: the name part, the category and
the preparer. -/
def selects (q : Criteria) (r : Recipe) : Bool :=
  (match q.fragment with
    | some f => nameMatches f r.name
    | none => true) &&
  q.category.admits r.category &&
  q.preparer.admits (some r.preparer)

/-- Whether a recipe lists every ingredient the criteria ask for. -/
def lists (q : Criteria) (r : Recipe) : Bool :=
  q.ingredients.all fun i => r.ingredients.contains (Text.ofString i)

end Criteria

namespace Recipe

/-- A recipe as its row keeps it: numbers as the doubles storage gives back. -/
def stored (r : Recipe) : Recipe :=
  { r with price := Column.real r.price, intensity := r.intensity.map Column.real }

end Recipe

namespace Session

/-- The unique column a write found taken by another row. -/
inductive Duplicate where
  | name
  | referenceCode
  deriving DecidableEq, Repr

/-- A new session on a table. -/
def ofRows (rows : List Recipe) : Session := ⟨rows, rows, []⟩

/-- The row with an id. -/
def row? (σ : Session) (id : String) : Option Recipe := σ.rows.find? (·.id == id)

/-- The object held for an id. -/
def object? (σ : Session) (id : String) : Option Recipe := σ.objects.find? (·.id == id)

/-- Holds an object in place of any held for its id. -/
def hold (σ : Session) (o : Recipe) : Session :=
  { σ with objects := o :: σ.objects.filter (·.id != o.id) }

/-- Reads a row: the object held for its id, or a new object with the row's values. -/
def load (σ : Session) (r : Recipe) : Recipe × Session :=
  match σ.object? r.id with
  | some o => (o, σ)
  | none => (r, σ.hold r)

/-- Reads rows in order. -/
def loadAll (σ : Session) : List Recipe → List Recipe × Session
  | [] => ([], σ)
  | r :: rs =>
    let (o, σ) := σ.load r
    let (os, σ) := σ.loadAll rs
    (o :: os, σ)

/-- Lets go of the objects nothing references. -/
def release (σ : Session) : Session := { σ with objects := [] }

/-- Undoes the transaction: the rows of the last commit, every object expired. -/
def rollback (σ : Session) : Session := { σ with rows := σ.committed, objects := [] }

/-- Ends the transaction, keeping its rows and its objects. -/
def commit (σ : Session) : Session := { σ with committed := σ.rows }

/-- The recipe with an id, its row read again. -/
def getById (σ : Session) (id : Text) : Except Fault (Option Recipe × Session) := do
  let key ← id.utf8?
  match σ.row? key with
  | some r => pure (some r, σ.hold r)
  | none => pure (none, σ)

/-- The recipes that meet criteria: the rows the database selects, ordered by name and read,
of which those that list every ingredient asked for. -/
def find (σ : Session) (q : Criteria) : Except Fault (List Recipe × Session) := do
  q.encode
  let (read, σ) := σ.loadAll ((σ.rows.filter q.selects).mergeSort fun a b => a.name ≤ b.name)
  pure (read.filter q.lists, σ)

/-- The id of the row with a name. -/
def idOfName? (σ : Session) (name : String) : Option String :=
  (σ.rows.find? (·.name == name)).map (·.id)

/-- The id of the row with a reference code. -/
def idOfCode? (σ : Session) (code : String) : Option String :=
  (σ.rows.find? (·.referenceCode == code)).map (·.id)

/-- Adds a recipe at version 0: its row, and an object holding the values given, which are
also the answer. A reference code, name or id that another row has undoes the transaction
instead; the database names the reference code first, and a taken id as a taken name. -/
def create (σ : Session) (r : Recipe) : Except Duplicate Recipe × Session :=
  let o := { r with version := 0 }
  if σ.rows.any (·.referenceCode == o.referenceCode) then (.error .referenceCode, σ.rollback)
  else if σ.rows.any (fun x => x.name == o.name || x.id == o.id) then (.error .name, σ.rollback)
  else (.ok o, { σ.hold o with rows := σ.rows ++ [o.stored] })

/-- Writes a recipe over the row with its id, keeping the row's reference code and counting its
version up by one, and answers the new version, or none when there is no such row. No object is
touched. A name that another row has undoes the transaction instead. -/
def replace (σ : Session) (r : Recipe) : Except Duplicate (Option Nat) × Session :=
  match σ.row? r.id with
  | none => (.ok none, σ)
  | some old =>
    if σ.rows.any (fun x => x.id != r.id && x.name == r.name) then (.error .name, σ.rollback)
    else
      let new := old.overwrite r.stored
      (.ok (some new.version),
        { σ with rows := σ.rows.map fun x => if x.id == r.id then new else x })

/-- Removes the row with an id, found through the identity map, and its object; answers whether
there was one. -/
def delete (σ : Session) (id : Text) : Except Fault (Bool × Session) := do
  let key ← id.utf8?
  let found := match σ.object? key with
    | some o => some o
    | none => σ.row? key
  match found with
  | some o =>
    pure (true, { σ with rows := σ.rows.filter (·.id != o.id),
                         objects := σ.objects.filter (·.id != o.id) })
  | none => pure (false, σ)

/-- What the holder of a session does with it: a call of the repository, or the end of the
transaction. -/
inductive Step where
  | getById (id : Text)
  | find (q : Criteria)
  | idOfName (name : String)
  | idOfCode (code : String)
  | create (r : Recipe)
  | replace (r : Recipe)
  | delete (id : Text)
  | commit
  | rollback

/-- The session a call leaves; a fault leaves it as it was. -/
def after {α : Type} (σ : Session) : Except Fault (α × Session) → Session
  | .ok (_, τ) => τ
  | .error _ => σ

/-- The session after a step. A call of the repository ends with its objects released. -/
def perform (σ : Session) : Step → Session
  | .getById id => (σ.after (σ.getById id)).release
  | .find q => (σ.after (σ.find q)).release
  | .idOfName _ | .idOfCode _ => σ.release
  | .create r => (σ.create r).2.release
  | .replace r => (σ.replace r).2.release
  | .delete id => (σ.after (σ.delete id)).release
  | .commit => σ.commit
  | .rollback => σ.rollback

/-- The session after steps, in order. -/
def run (σ : Session) (steps : List Step) : Session := steps.foldl perform σ

end Session

end RecipeCatalog
