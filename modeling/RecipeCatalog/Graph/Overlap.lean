import RecipeCatalog.Graph.Schema
import RecipeCatalog.Graph.Printer

/-!
# Fields that cannot be merged

Two fields of a selection set with the same response key are merged into one entry of the
response, so they must ask for the same thing: the same field with the same arguments (unless
they are selected on two different object types, which never apply together), types that do not
conflict, and sub-selections that merge in turn. Fragments spread into a selection set take part
with their fields.

A conflict names the response key and the reason, and the places of the fields on each side; a
conflict of sub-selections names the conflicting subfields. Pairs of fragments already compared
are remembered across the whole document, so that a pair is reported once.

Main definitions: `Graph.Entry`, `Graph.gather`, `Graph.Conflict`, `Graph.Merge.conflicts`.
-/

namespace RecipeCatalog

namespace Graph

/-- A field as the merge check sees it: the object type it is selected on, its name,
arguments, sub-selection, where it starts, and its definition. -/
structure Entry where
  parent : Option String
  name : String
  args : List Argument
  sub : List Selection
  hasSub : Bool
  start : Nat
  defn : Option FieldDef

/-- Fields by response key, keys in order of first appearance. -/
abbrev FieldMap := List (String × List Entry)

namespace FieldMap

/-- Adds a field under a response key. -/
def add (m : FieldMap) (key : String) (e : Entry) : FieldMap :=
  if m.any (·.1 == key) then m.map fun (k, es) => if k == key then (k, es ++ [e]) else (k, es)
  else m ++ [(key, [e])]

/-- The fields under a response key. -/
def get (m : FieldMap) (key : String) : List Entry := ((m.find? (·.1 == key)).map (·.2)).getD []

end FieldMap

/-- The fields of a selection set by response key, and the names of the fragments it spreads,
in order; inline fragments are looked into, on their own type when they name one. -/
def gather (parent : Option String) : List Selection → FieldMap × List String →
    FieldMap × List String
  | [], acc => acc
  | .field aliasName name args _ sub subStart start :: rest, (m, fs) =>
    let defn := parent.bind fun p => (Schema.fields? p).bind fun l => l.find? (·.name == name)
    gather parent rest (m.add (aliasName.getD name) ⟨parent, name, args, sub, subStart.isSome, start, defn⟩, fs)
  | .spread n _ _ _ :: rest, (m, fs) => gather parent rest (m, if fs.contains n then fs else fs ++ [n])
  | .inline cond _ sels _ :: rest, acc =>
    let p := match cond with
      | some (n, _) => (Schema.named? n).bind GType.objectName?
      | none => parent
    gather parent rest (gather p sels acc)
termination_by sels => sizeOf sels

/-- Whether two lists of arguments are the same: the same names with the same values, input
object fields in any order. -/
def sameArguments (a b : List Argument) : Bool :=
  if a.isEmpty then b.isEmpty
  else if b.isEmpty then false
  else if a.length != b.length then false
  else a.all fun x =>
    match b.reverse.find? (·.name == x.name) with
    | some y => x.value.sorted.render == y.value.sorted.render
    | none => false

/-- Whether two types cannot be merged: lists against non-lists, non-null against nullable, or
two different scalars. -/
def typesConflict : GType → GType → Bool
  | .list a, .list b => typesConflict a b
  | .list _, _ => true
  | _, .list _ => true
  | .nonNull a, .nonNull b => typesConflict a b
  | .nonNull _, _ => true
  | _, .nonNull _ => true
  | a, b => if a.isLeaf || b.isLeaf then a != b else false

/-- Why two fields conflict: a reason in words, or conflicts of their subfields. -/
inductive Reason where
  | words (text : String)
  | within (items : List (String × Reason))

mutual
/-- The words of a reason. -/
def Reason.message : Reason → String
  | .words t => t
  | .within items => messages items
/-- The reasons of subfield conflicts, joined by `and`. -/
def messages : List (String × Reason) → String
  | [] => ""
  | (k, r) :: rest =>
    "subfields '" ++ k ++ "' conflict because " ++ r.message ++
      (if rest.isEmpty then "" else " and ") ++ messages rest
end

/-- A conflict: the response key, the reason, and the places of the fields on each side. -/
structure Conflict where
  key : String
  reason : Reason
  left : List Nat
  right : List Nat

/-- The pairs of fragments compared so far, each with whether it was compared as exclusive. -/
abbrev Compared := List (String × String × Bool)

/-- The merge check over a document: its fragments, and the compared pairs as state. -/
abbrev Merge := StateM Compared

namespace Merge

/-- Whether a pair of fragments was compared; a pair compared as exclusive does not count for
a comparison that is not. -/
def seen (a b : String) (exclusive : Bool) : Merge Bool := do
  let (x, y) := if a < b then (a, b) else (b, a)
  match (← get).find? (fun (p, q, _) => p == x && q == y) with
  | some (_, _, e) => pure (if exclusive then true else e == exclusive)
  | none => pure false

/-- Records a pair of fragments as compared. -/
def mark (a b : String) (exclusive : Bool) : Merge Unit := do
  let (x, y) := if a < b then (a, b) else (b, a)
  modify fun ps => (x, y, exclusive) :: ps.filter fun (p, q, _) => !(p == x && q == y)

/-- The fields of a fragment and the fragments it spreads. -/
def ofFragment (frags : List Fragment) (n : String) : Option (FieldMap × List String) :=
  (frags.reverse.find? (·.name == n)).map fun f =>
    gather ((Schema.named? f.typeCondition.1).bind GType.objectName?) f.selections ([], [])

mutual
/-- The conflict of two fields with a response key, if any. -/
def pair (frags : List Fragment) : Nat → Bool → String → Entry → Entry → Merge (Option Conflict)
  | 0, _, _, _, _ => pure none
  | fuel + 1, exclusive, key, e1, e2 => do
    let exclusive := exclusive || (e1.parent != e2.parent && e1.parent.isSome && e2.parent.isSome)
    let t1 := e1.defn.map (·.type)
    let t2 := e2.defn.map (·.type)
    if !exclusive && e1.name != e2.name then
      return some ⟨key, .words ("'" ++ e1.name ++ "' and '" ++ e2.name ++ "' are different fields"),
        [e1.start], [e2.start]⟩
    if !exclusive && !sameArguments e1.args e2.args then
      return some ⟨key, .words "they have differing arguments", [e1.start], [e2.start]⟩
    if let (some a, some b) := (t1, t2) then
      if typesConflict a b then
        return some ⟨key, .words ("they return conflicting types '" ++ a.render ++ "' and '" ++
          b.render ++ "'"), [e1.start], [e2.start]⟩
    if e1.hasSub && e2.hasSub then
      let cs ← subSelections frags fuel exclusive (t1.bind GType.objectName?) e1.sub
        (t2.bind GType.objectName?) e2.sub
      if cs.isEmpty then return none
      return some ⟨key, .within (cs.map fun c => (c.key, c.reason)),
        e1.start :: cs.flatMap (·.left), e2.start :: cs.flatMap (·.right)⟩
    return none

/-- The conflicts between two sub-selections. -/
def subSelections (frags : List Fragment) : Nat → Bool → Option String → List Selection →
    Option String → List Selection → Merge (List Conflict)
  | 0, _, _, _, _, _ => pure []
  | fuel + 1, exclusive, p1, s1, p2, s2 => do
    let (m1, f1) := gather p1 s1 ([], [])
    let (m2, f2) := gather p2 s2 ([], [])
    let mut cs ← between frags fuel exclusive m1 m2
    for n in f2 do
      cs := cs ++ (← withFragment frags fuel exclusive m1 none n)
    for n in f1 do
      cs := cs ++ (← withFragment frags fuel exclusive m2 none n)
    for a in f1 do
      for b in f2 do
        cs := cs ++ (← fragments frags fuel exclusive a b)
    return cs

/-- The conflicts between the fields of two maps under the same response keys. -/
def between (frags : List Fragment) : Nat → Bool → FieldMap → FieldMap → Merge (List Conflict)
  | 0, _, _, _ => pure []
  | fuel + 1, exclusive, m1, m2 => do
    let mut cs := []
    for (key, es1) in m1 do
      for e1 in es1 do
        for e2 in m2.get key do
          if let some c ← pair frags fuel exclusive key e1 e2 then cs := cs ++ [c]
    return cs

/-- The conflicts between a map of fields and the fields of a fragment and the fragments it
spreads; a map taken from the fragment itself is not compared with it. -/
def withFragment (frags : List Fragment) : Nat → Bool → FieldMap → Option String → String →
    Merge (List Conflict)
  | 0, _, _, _, _ => pure []
  | fuel + 1, exclusive, m, origin, n =>
    if origin == some n then pure []
    else
      match ofFragment frags n with
      | none => pure []
      | some (m2, refs) => do
        let mut cs ← between frags fuel exclusive m m2
        for r in refs do
          cs := cs ++ (← withFragment frags fuel exclusive m origin r)
        return cs

/-- The conflicts between two fragments and the fragments they spread. -/
def fragments (frags : List Fragment) : Nat → Bool → String → String → Merge (List Conflict)
  | 0, _, _, _ => pure []
  | fuel + 1, exclusive, a, b => do
    if a == b then return []
    if ← seen a b exclusive then return []
    mark a b exclusive
    match ofFragment frags a, ofFragment frags b with
    | some (m1, r1), some (m2, r2) =>
      let mut cs ← between frags fuel exclusive m1 m2
      for r in r2 do
        cs := cs ++ (← fragments frags fuel exclusive a r)
      for r in r1 do
        cs := cs ++ (← fragments frags fuel exclusive r b)
      return cs
    | _, _ => return []
end

/-- Every pair of a list with a later element, in order. -/
def laterPairs {α : Type} : List α → List (α × α)
  | [] => []
  | x :: rest => rest.map (x, ·) ++ laterPairs rest

/-- The conflicts within a selection set on a type; `origin` names the fragment whose own
selection set it is. -/
def conflicts (frags : List Fragment) (fuel : Nat) (origin : Option String)
    (parent : Option String) (sels : List Selection) : Merge (List Conflict) := do
  let (m, names) := gather parent sels ([], [])
  let mut cs := []
  for (key, es) in m do
    for (e1, e2) in laterPairs es do
      if let some c ← pair frags fuel false key e1 e2 then cs := cs ++ [c]
  for (n, i) in names.zipIdx do
    cs := cs ++ (← withFragment frags fuel false m origin n)
    for n2 in names.drop (i + 1) do
      cs := cs ++ (← fragments frags fuel false n n2)
  return cs

end Merge

/-- The message of a conflict. -/
def Conflict.message (c : Conflict) : String :=
  "Fields '" ++ c.key ++ "' conflict because " ++ c.reason.message ++
    ". Use different aliases on the fields to fetch both if this was intentional."

end Graph

end RecipeCatalog
