/-!
# GraphQL documents

The syntax of executable GraphQL documents: operations and fragments, selections, arguments,
directives, literals and type references. Every node records the offset of the token it starts
with, from which errors about it are located.

Main definitions: `Graph.Literal`, `Graph.TypeRef`, `Graph.Selection`, `Graph.Operation`,
`Graph.Fragment`, `Graph.Document`.
-/

namespace RecipeCatalog

namespace Graph

/-- A value written in a document. -/
inductive Literal where
  | var (name : String) (start : Nat)
  | int (text : String) (start : Nat)
  | float (text : String) (start : Nat)
  | string (value : String) (block : Bool) (start : Nat)
  | bool (b : Bool) (start : Nat)
  | null (start : Nat)
  | enum (name : String) (start : Nat)
  | list (items : List Literal) (start : Nat)
  /-- an input object: each field's name, where the name starts, and its value -/
  | object (fields : List (String × Nat × Literal)) (start : Nat)
  deriving Repr, Inhabited

namespace Literal

/-- Where a literal starts. -/
def start : Literal → Nat
  | var _ s | int _ s | float _ s | string _ _ s | bool _ s | null s | enum _ s | list _ s
  | object _ s => s

end Literal

/-- A type written in a document. -/
inductive TypeRef where
  | named (name : String) (start : Nat)
  | list (inner : TypeRef) (start : Nat)
  | nonNull (inner : TypeRef) (start : Nat)
  deriving DecidableEq, Repr, Inhabited

namespace TypeRef

/-- The type as written. -/
def render : TypeRef → String
  | named n _ => n
  | list t _ => "[" ++ t.render ++ "]"
  | nonNull t _ => t.render ++ "!"

/-- Where a type reference starts. -/
def start : TypeRef → Nat
  | named _ s | list _ s | nonNull _ s => s

/-- The name of the type inside all lists and non-null marks. -/
def base : TypeRef → String × Nat
  | named n s => (n, s)
  | list t _ => t.base
  | nonNull t _ => t.base

end TypeRef

/-- An argument: its name, value and where it starts. -/
structure Argument where
  name : String
  value : Literal
  start : Nat
  deriving Repr, Inhabited

/-- A directive: its name, arguments and where it starts. -/
structure Directive where
  name : String
  args : List Argument
  start : Nat
  deriving Repr, Inhabited

/-- A selection of a selection set. -/
inductive Selection where
  /-- a field, with its alias, arguments and directives, and the selection set of its value
  with where that set starts (no start when there is no set) -/
  | field (aliasName : Option String) (name : String) (args : List Argument)
      (directives : List Directive) (sub : List Selection) (subStart : Option Nat) (start : Nat)
  /-- a spread of a named fragment, with where its name starts -/
  | spread (name : String) (nameStart : Nat) (directives : List Directive) (start : Nat)
  /-- an inline fragment, with its type condition -/
  | inline (typeCondition : Option (String × Nat)) (directives : List Directive)
      (selections : List Selection) (start : Nat)
  deriving Repr, Inhabited

namespace Selection

/-- Where a selection starts. -/
def start : Selection → Nat
  | field _ _ _ _ _ _ s | spread _ _ _ s | inline _ _ _ s => s

end Selection

/-- The kinds of operations. -/
inductive OperationKind where
  | query | mutation | subscription
  deriving DecidableEq, Repr, Inhabited

/-- A variable of an operation: its name and where the name starts, its type, default value
and directives, and where the definition starts. -/
structure VariableDef where
  name : String
  nameStart : Nat
  type : TypeRef
  default : Option Literal
  directives : List Directive
  start : Nat
  deriving Repr, Inhabited

/-- An operation. -/
structure Operation where
  kind : OperationKind
  /-- the name and where it starts -/
  name : Option (String × Nat)
  variableDefs : List VariableDef
  directives : List Directive
  selections : List Selection
  start : Nat
  deriving Repr, Inhabited

/-- A named fragment. -/
structure Fragment where
  name : String
  nameStart : Nat
  typeCondition : String × Nat
  directives : List Directive
  selections : List Selection
  start : Nat
  deriving Repr, Inhabited

/-- A definition of a document. -/
inductive Definition where
  | operation (o : Operation)
  | fragment (f : Fragment)
  deriving Repr, Inhabited

/-- A document: its definitions in order. -/
structure Document where
  definitions : List Definition
  deriving Repr, Inhabited

namespace Document

/-- The operations of a document. -/
def operations (d : Document) : List Operation :=
  d.definitions.filterMap fun | .operation o => some o | .fragment _ => none

/-- The fragments of a document. -/
def fragments (d : Document) : List Fragment :=
  d.definitions.filterMap fun | .fragment f => some f | .operation _ => none

end Document

end Graph

end RecipeCatalog
