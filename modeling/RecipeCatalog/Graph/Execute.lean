import RecipeCatalog.Graph.Input
import RecipeCatalog.Graph.Introspection
import RecipeCatalog.Catalog.Store

/-!
# Running GraphQL operations

An operation runs against the store. Its selection set is collected into fields by response
key (fragments spread once, `@skip` and `@include` obeyed, type conditions matched), and each
field is resolved: queries read the store or describe the schema, mutations change the store
one after the other and need an authenticated caller. What a field resolves to is completed by
its type: a leaf is checked, a list item by item, an object (a recipe or a part of the schema)
by its own selection of fields.

A field that fails is `null` in the response and adds an error with the places of its uses in
the document and its path in the response. A failure of a non-null field or list item makes its
parent `null` in its place, up to the data as a whole. A fault of the store is reported as
`Unexpected error.`, hiding what went wrong; a rejected create or update is no error at all but
a `null`.

Main definitions: `Graph.collectFields`, `Graph.Resolved`, `Graph.Runner.complete`,
`Graph.Runner.operation`.
-/

namespace RecipeCatalog

namespace Graph

/-- A field as execution sees it. -/
structure FieldUse where
  name : String
  args : List Argument
  sub : List Selection
  start : Nat

/-- Fields by response key, keys in order of first appearance. -/
abbrev Grouped := List (String × List FieldUse)

namespace Grouped

/-- Adds a field under a response key. -/
def add (g : Grouped) (key : String) (u : FieldUse) : Grouped :=
  if g.any (·.1 == key) then g.map fun (k, us) => if k == key then (k, us ++ [u]) else (k, us)
  else g ++ [(key, [u])]

end Grouped

/-- What a request runs with: the document's code points and fragments, the coerced
variables, and whether the caller is authenticated. -/
structure Setting where
  body : Array Nat
  fragments : List Fragment
  vars : Variables
  authenticated : Bool

namespace Setting

/-- The fragment with a name; of two with one name, the later. -/
def fragment? (st : Setting) (n : String) : Option Fragment :=
  st.fragments.reverse.find? (·.name == n)

/-- The `if` of the first directive with a name among directives, if there is one. -/
def condition? (st : Setting) (ds : List Directive) (name : String) :
    Except Error (Option Bool) :=
  match ds.find? (·.name == name) with
  | none => .ok none
  | some d =>
    match argumentValues st.body [Schema.required "if" .boolean] d.args st.vars d.start with
    | .ok vs =>
      match vs.lookup "if" with
      | some (.bool b) => .ok (some b)
      | _ => .ok none
    | .error e => .error e

/-- Whether a selection with directives is included: not skipped, and not left out. -/
def includes (st : Setting) (ds : List Directive) : Except Error Bool := do
  if (← st.condition? ds "skip") == some true then return false
  if (← st.condition? ds "include") == some false then return false
  return true

end Setting

/-- Whether a type condition applies to an object type. -/
def conditionHolds (cond : Option (String × Nat)) (typeName : String) : Bool :=
  match cond with
  | none => true
  | some (n, _) => n == typeName

/-- Collects the fields of selections on an object type, adding to what was collected;
`visited` holds the fragments spread so far, each spread once. -/
def collectFields (st : Setting) (typeName : String) : Nat → List Selection → List String →
    Grouped → Except Error (Grouped × List String)
  | _, [], visited, acc => .ok (acc, visited)
  | fuel, .field aliasName name args ds sub _ start :: rest, visited, acc => do
    let acc := if ← st.includes ds then acc.add (aliasName.getD name) ⟨name, args, sub, start⟩ else acc
    collectFields st typeName fuel rest visited acc
  | fuel, .inline cond ds inner _ :: rest, visited, acc => do
    let (acc, visited) ← if (← st.includes ds) && conditionHolds cond typeName then
        collectFields st typeName fuel inner visited acc
      else pure (acc, visited)
    collectFields st typeName fuel rest visited acc
  | 0, .spread _ _ _ _ :: rest, visited, acc => collectFields st typeName 0 rest visited acc
  | fuel + 1, .spread n _ ds _ :: rest, visited, acc => do
    let included ← if visited.contains n then pure false else st.includes ds
    if !included then
      collectFields st typeName (fuel + 1) rest visited acc
    else
      let visited := n :: visited
      -- a fragment that is not defined, or whose type condition fails, adds nothing
      match hf : (st.fragment? n).filter fun f => conditionHolds (some f.typeCondition) typeName with
      | some f =>
        let (acc, visited) ← collectFields st typeName fuel f.selections visited acc
        collectFields st typeName (fuel + 1) rest visited acc
      | none => collectFields st typeName (fuel + 1) rest visited acc
-- a spread trades one step of fuel for the selections of a fragment, which are smaller than all
-- the fragments together
termination_by fuel sels => fuel * (sizeOf st.fragments + 1) + sizeOf sels
decreasing_by
  all_goals simp_wf
  all_goals try omega
  have hm := List.mem_reverse.1 (List.mem_of_find?_eq_some (Option.filter_eq_some_iff.1 hf).1)
  have hlt := List.sizeOf_lt_of_mem hm
  have hsel : sizeOf f.selections < sizeOf f := by
    cases f
    simp only [Fragment.mk.sizeOf_spec]
    omega
  rw [Nat.add_mul]
  omega

/-- What completing a field gives: its value, a failure that makes the parent `null`, or
nothing when the schema has no such field. -/
inductive Completion where
  | value (v : Value)
  | bubble
  | omitted

/-- What a field resolves to before it is completed: a leaf value (`null` and lists of leaves
included), a recipe, a part of the schema, or a list of these. -/
inductive Resolved where
  | leaf (v : Value)
  | recipe (r : Recipe)
  | described (d : Described)
  | list (items : List Resolved)

namespace Resolved

/-- The resolved form of what a field of a described part answers. -/
def ofAnswer : Answer → Resolved
  | .leaf v => leaf v
  | .part d => described d
  | .parts ds => list (ds.map described)

/-- The items of a resolved list; a list of leaves is a list of leaf items. -/
def items : Resolved → List Resolved
  | list rs => rs
  | leaf (.array vs) => vs.map leaf
  | _ => []

/-- Whether a resolved value is `null`. -/
def isNull : Resolved → Bool
  | leaf .null => true
  | _ => false

end Resolved

/-- The value of a field of a recipe. -/
def recipeField (r : Recipe) (name : String) : Value := (r.document.lookup name).getD .null

/-- The state of a run: the store and the errors so far. -/
structure Progress where
  store : Store
  errors : Array Error

/-- A run of an operation. -/
abbrev Runner := StateM Progress

namespace Runner

/-- Adds an error. -/
def fail (e : Error) : Runner Unit := modify fun p => { p with errors := p.errors.push e }

/-- A field that failed: `null`, or a failure of its parent when it is non-null. -/
def failed (t : GType) : Completion := if t.isNonNull then .bubble else .value .null

/-- Completes a scalar value; a double that is not finite or an integer beyond 32 bits cannot
be sent. A failure is reported at the places of the field and the path given. -/
def leaf (st : Setting) (v : Value) (places : List Nat) (path : List PathKey) :
    Runner (Except Unit Value) := do
  let at_ := places.map (locate st.body)
  match v with
  | .float x =>
    if x.isFinite then pure (.ok v)
    else do
      fail ⟨"Float cannot represent non numeric value: " ++ shownNumber.render x, at_, path⟩
      pure (.error ())
  | .int n =>
    if fits32 n then pure (.ok v)
    else do
      fail ⟨"Int cannot represent non 32-bit signed integer value: " ++ toString n, at_, path⟩
      pure (.error ())
  | _ => pure (.ok v)

mutual
/-- Completes a resolved value as a type, for the uses of a field at a path. A failure that the
type cannot absorb is `.error ()`, already reported: a non-null type passes it on, a list item
of nullable type absorbs it as `null`, and so does a field of nullable type (in `object`). -/
def complete (st : Setting) : Nat → GType → Resolved → List FieldUse → List PathKey →
    Runner (Except Unit Value)
  | 0, _, _, _, _ => pure (.ok .null)
  | fuel + 1, t, r, uses, path =>
    match t with
    | .nonNull inner => do
      match ← complete st fuel inner r uses path with
      | .ok .null =>
        fail ⟨faultMessage, uses.map fun u => locate st.body u.start, path⟩
        pure (.error ())
      | c => pure c
    | t =>
      if r.isNull then pure (.ok .null)
      else
        match t, r with
        | .list inner, r => do
          let mut out : List Value := []
          for (item, i) in r.items.zipIdx do
            match ← complete st fuel inner item uses (path ++ [.index i]) with
            | .ok v => out := out ++ [v]
            | .error () =>
              if inner.isNonNull then return .error ()
              else out := out ++ [.null]
          pure (.ok (.array out))
        | .scalar _, .leaf v => leaf st v (uses.map (·.start)) path
        | .enum _, .leaf v => pure (.ok v)
        | .object n, .recipe rec =>
          object st fuel n (fun name _ => .leaf (recipeField rec name)) uses path
        | .object n, .described d =>
          object st fuel n (fun name _ => .ofAnswer (d.field? name)) uses path
        | _, _ => pure (.ok .null)

/-- Completes an object of a type whose fields `resolve` gives, by the fields its uses select;
a failure of a non-null field fails the object. -/
def object (st : Setting) : Nat → String → (String → List (String × Value) → Resolved) →
    List FieldUse → List PathKey → Runner (Except Unit Value)
  | 0, _, _, _, _ => pure (.ok .null)
  | fuel + 1, typeName, resolve, uses, path => do
    let collected := uses.foldlM (fun (acc : Grouped × List String) u =>
      collectFields st typeName (st.body.size + 2) u.sub acc.2 acc.1) ([], [])
    match collected with
    | .error e => do
      fail { e with path := path }
      return .error ()
    | .ok (grouped, _) =>
      let mut out : List (String × Value) := []
      for (key, fus) in grouped do
        let some u := fus.head? | continue
        let some fd := Schema.field? typeName u.name | continue
        let fieldPath := path ++ [.key key]
        let c ← if u.name == "__typename" then pure (.ok (.ofString typeName))
          else
            match argumentValues st.body fd.args u.args st.vars u.start with
            | .error e => do
              fail { e with path := fieldPath }
              pure (.error ())
            | .ok args => complete st fuel fd.type (resolve u.name args) fus fieldPath
        match c with
        | .ok v => out := out ++ [(key, v)]
        | .error () =>
          if fd.type.isNonNull then return .error ()
          else out := out ++ [(key, .null)]
      return .ok (Value.obj out)
end

/-- A mutation's candidate: the arguments given, without `null`s and those named. -/
def candidate (args : List (String × Value)) (leaveOut : List String) : Fields :=
  (args.filter fun (k, v) => !leaveOut.contains k && !v.isNull).map fun (k, v) => (Text.ofString k, v)

/-- The text of an argument holding text. -/
def textArg (args : List (String × Value)) (name : String) : Text :=
  match args.lookup name with
  | some (.str t) => t
  | _ => Text.ofString ""

/-- The version an update names: its `version` argument, or 0. -/
def versionArg (args : List (String × Value)) : Int :=
  match args.lookup "version" with
  | some (.int v) => v
  | _ => 0

/-- An update's candidate: its arguments, with the id as text and without the version. -/
def updateCandidate (args : List (String × Value)) : Fields :=
  candidate (("id", .str (textArg args "id")) :: args.filter (·.1 != "id")) ["version"]

/-- The type a `__type` query names, as a part of the schema, or `null` when the schema has no
type of that name. -/
def namedType (args : List (String × Value)) : Resolved :=
  let name := match args.lookup "name" with
    | some (.str t) => (t.toString?).getD ""
    | _ => ""
  match Schema.named? name with
  | some t => .described (.type t)
  | none => .leaf .null

/-- Resolves a field of a root type with its coerced arguments, changing the store as a
mutation does; `none` when the store fails. -/
def resolve (root name : String) (args : List (String × Value)) : Runner (Option Resolved) := do
  let s := (← get).store
  let stored (s' : Store) (r : Resolved) : Runner (Option Resolved) := do
    modify fun p => { p with store := s' }
    pure (some r)
  match root, name with
  | "Query", "rezepte" =>
    let criteria := match args.lookup "name" with
      | some (.str t) => Criteria.ofFields [(Text.ofString "name", .str t)]
      | _ => Criteria.ofFields []
    match s.find criteria with
    | .error _ => pure none
    | .ok rs => pure (some (.list (rs.map .recipe)))
  | "Query", "rezept" =>
    match s.findById (textArg args "id") with
    | .error _ => pure none
    | .ok r => pure (some ((r.map .recipe).getD (.leaf .null)))
  | "Query", "__schema" => pure (some (.described .schema))
  | "Query", "__type" => pure (some (namedType args))
  | "Mutation", "createRezept" =>
    match s.create (candidate args []) with
    | .error _ => pure none
    | .ok (.error _, s') => stored s' (.leaf .null)
    | .ok (.ok id, s') => stored s' (.leaf (.ofString id))
  | "Mutation", "updateRezept" =>
    match s.update (updateCandidate args) (some (Text.ofString (toString (versionArg args)))) with
    | .error _ => pure none
    | .ok (.error _, s') => stored s' (.leaf .null)
    | .ok (.ok v, s') => stored s' (.leaf (.int v))
  | "Mutation", "deleteRezept" =>
    match s.delete (textArg args "id") with
    | .error _ => pure none
    | .ok (b, s') => stored s' (.leaf (.bool b))
  | _, _ => pure (some (.leaf .null))

/-- Runs a field of a root type: coerces its arguments, checks that a mutation's caller is
authenticated, resolves and completes it. `__typename` needs neither arguments nor a caller.
A failure is reported at every use of the field. -/
def rootField (st : Setting) (root : String) (key : String) (uses : List FieldUse) :
    Runner Completion := do
  let some u := uses.head? | return .omitted
  let some fd := Schema.field? root u.name | return .omitted
  if u.name == "__typename" then return .value (.ofString root)
  let path := [PathKey.key key]
  let places := uses.map fun v => locate st.body v.start
  match argumentValues st.body fd.args u.args st.vars u.start with
  | .error e => do
    fail { e with path := path }
    return failed fd.type
  | .ok args =>
    if root == "Mutation" && !st.authenticated then
      fail ⟨"Unauthenticated", places, path⟩
      return failed fd.type
    match ← resolve root u.name args with
    | none =>
      fail ⟨faultMessage, places, path⟩
      return failed fd.type
    | some r =>
      match ← complete st (8 * (st.body.size + 2)) fd.type r uses path with
      | .ok v => return .value v
      | .error () => return failed fd.type

/-- One root field of an operation, given the data so far and whether a field bubbled: a
mutation stops once a field bubbled; otherwise the field runs, and its value joins the data or it
bubbles. -/
def rootStep (st : Setting) (root : String) (kind : OperationKind) (g : String × List FieldUse)
    (b : List (String × Value) × Bool) : Runner (ForInStep (List (String × Value) × Bool)) := do
  if b.2 && kind == .mutation then return .done b
  match ← rootField st root g.1 g.2 with
  | .value v => return .yield (b.1 ++ [(g.1, v)], b.2)
  | .bubble => return .yield (b.1, true)
  | .omitted => return .yield b

/-- Runs an operation; the data, or none when it is `null`. Mutations run one after the other
and stop at a failure that makes the data `null`. -/
def operation (st : Setting) (o : Operation) : Runner (Option Value) := do
  let some root := Schema.root? o.kind
    | do
      fail ⟨"Schema is not configured to execute subscription operation.", [locate st.body o.start], []⟩
      return none
  match collectFields st root (st.body.size + 2) o.selections [] [] with
  | .error e => do
    fail e
    return none
  | .ok (grouped, _) =>
    let (out, bubbled) ← forIn grouped ([], false) (rootStep st root o.kind)
    return if bubbled then none else some (Value.obj out)

end Runner

end Graph

end RecipeCatalog
