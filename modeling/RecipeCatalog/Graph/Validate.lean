import RecipeCatalog.Graph.Overlap
import RecipeCatalog.Graph.Token

/-!
# Validating GraphQL documents

A document is checked against the schema before it runs. The checks walk the document once, in
order, and every check looks at each node as it is entered (and some as it is left), in a fixed
order of checks; the errors come out in that order. What a check knows at a node is what the
schema says there: the object type whose fields are being selected, the field and its type, the
argument and the type its value must have.

The checks: operation names are unique and an anonymous operation stands alone; variables are
unique, of input types, defined where used and used where defined, and used where their type
fits; named types exist; fields exist on their type, leaves have no selections and objects have
one; fragments exist, are unique, used, acyclic, on composite types and spread where they can
apply; directives exist, stand where they may and at most once; arguments exist, are unique,
hold values of their type, and the required ones are given; fields with one response key can be
merged; input object fields are unique.

Main definitions: `Graph.Usage`, `Graph.Context`, `Graph.Document.validate`.
-/

namespace RecipeCatalog

namespace Graph

/-- A use of a variable: its name, where it stands, the type expected there, and whether that
place has a default. -/
structure Usage where
  name : String
  start : Nat
  expected : Option GType
  hasDefault : Bool

/-- What the checks gather: the errors, the uses of variables, the fragment pairs compared for
merging, and the fragments the cycle check has entered. -/
structure Findings where
  errors : Array Error
  usages : Array Usage
  compared : Compared
  entered : List String

namespace Findings

/-- Nothing found yet. -/
def empty : Findings := ⟨#[], #[], [], []⟩

end Findings

/-- The checks' computation. -/
abbrev Check := StateM Findings

/-- What every check may consult: the document's code points (to locate errors), the
document, and a bound on the depth of any walk through it. -/
structure Context where
  body : Array Nat
  doc : Document
  fuel : Nat

namespace Context

/-- The context of a document. -/
def ofDocument (body : Array Nat) (doc : Document) : Context := ⟨body, doc, 2 * body.size + 4⟩

/-- The fragment with a name; of two with one name, the later. -/
def fragment? (cx : Context) (n : String) : Option Fragment :=
  cx.doc.fragments.reverse.find? (·.name == n)

/-- Reports an error at places of the document. -/
def report (cx : Context) (message : String) (offsets : List Nat) : Check Unit :=
  modify fun f => { f with errors := f.errors.push ⟨message, offsets.map (locate cx.body), []⟩ }

/-- Records a use of a variable. -/
def note (u : Usage) : Check Unit := modify fun f => { f with usages := f.usages.push u }

end Context

/-- The value of the digits of an integer literal. -/
def intValue (t : String) : Int :=
  let digits (cs : List Char) : Nat := cs.foldl (fun n c => 10 * n + (c.toNat - 48)) 0
  match t.toList with
  | '-' :: cs => -(digits cs : Int)
  | cs => digits cs

/-- The error of a literal that a scalar type does not accept, if it does not. -/
def Scalar.literalError? (s : Scalar) (v : Literal) : Option String :=
  let shown := v.render
  match s, v with
  | .int, .int t _ =>
    let n := intValue t
    if -2147483648 ≤ n && n ≤ 2147483647 then none
    else some ("Int cannot represent non 32-bit signed integer value: " ++ shown)
  | .int, _ => some ("Int cannot represent non-integer value: " ++ shown)
  | .float, .int _ _ | .float, .float _ _ => none
  | .float, _ => some ("Float cannot represent non numeric value: " ++ shown)
  | .string, .string _ _ _ => none
  | .string, _ => some ("String cannot represent a non string value: " ++ shown)
  | .boolean, .bool _ _ => none
  | .boolean, _ => some ("Boolean cannot represent a non boolean value: " ++ shown)
  | .id, .string _ _ _ | .id, .int _ _ => none
  | .id, _ => some ("ID cannot represent a non-string and non-integer value: " ++ shown)

/-- The error of a literal that an enum type does not accept, if it does not: only a bare name
that is one of its values fits. -/
def enumLiteralError? (n : String) (v : Literal) : Option String :=
  let values := (Schema.enumValues? n).getD []
  let hint (s : String) : String := didYouMean (suggestions s values) "the enum value"
  match v with
  | .enum name _ =>
    if values.contains name then none
    else some ("Value '" ++ name ++ "' does not exist in '" ++ n ++ "' enum." ++ hint name)
  | _ => some ("Enum '" ++ n ++ "' cannot represent non-enum value: " ++ v.render ++ "." ++
      hint v.render)

/-- Whether a type is a leaf, and so cannot be the condition of a fragment. -/
def nonComposite : Option GType → Bool
  | some (.scalar _) | some (.enum _) => true
  | _ => false

/-- Checks a literal at a place expecting a type. -/
def checkLeaf (cx : Context) (expected : Option GType) (v : Literal) : Check Unit :=
  match expected with
  | none => pure ()
  | some t =>
    match t.named with
    | .scalar s =>
      match s.literalError? v with
      | some m => cx.report m [v.start]
      | none => pure ()
    | .enum n =>
      match enumLiteralError? n v with
      | some m => cx.report m [v.start]
      | none => pure ()
    | _ => cx.report ("Expected value of type '" ++ t.render ++ "', found " ++ v.render ++ ".") [v.start]

mutual
/-- Walks a value at a place expecting a type; `checking` is off below a value already reported
as a whole. -/
def visitValue (cx : Context) (expected : Option GType) (hasDefault checking : Bool) :
    Literal → Check Unit
  | .var n s => Context.note ⟨n, s, expected, hasDefault⟩
  | .list items s => do
    let (isList, item) := match expected.map GType.nullable with
      | some (.list t) => (true, some t)
      | other => (false, other)
    if checking && !isList then checkLeaf cx item (.list items s)
    visitItems cx item (checking && isList) items
  | .object fs s => do
    if checking then checkLeaf cx expected (.object fs s)
    visitFields cx fs []
  | .null s =>
    match expected with
    | some t =>
      if checking && t.isNonNull then
        cx.report ("Expected value of type '" ++ t.render ++ "', found null.") [s]
      else pure ()
    | none => pure ()
  | v => if checking then checkLeaf cx expected v else pure ()

/-- Walks the items of a list. -/
def visitItems (cx : Context) (item : Option GType) (checking : Bool) :
    List Literal → Check Unit
  | [] => pure ()
  | v :: rest => do
    visitValue cx item false checking v
    visitItems cx item checking rest

/-- Walks the fields of an input object, each name given at most once. -/
def visitFields (cx : Context) : List (String × Nat × Literal) → List (String × Nat) → Check Unit
  | [], _ => pure ()
  | (n, p, v) :: rest, known => do
    match known.lookup n with
    | some first => cx.report ("There can be only one input field named '" ++ n ++ "'.") [first, p]
    | none => pure ()
    visitValue cx none false false v
    visitFields cx rest (if (known.lookup n).isSome then known else (n, p) :: known)
end

/-- Reports arguments given more than once. -/
def uniqueArguments (cx : Context) (args : List Argument) : Check Unit :=
  (args.map (·.name)).eraseDups.forM fun n => do
    let same := args.filter (·.name == n)
    if same.length > 1 then
      cx.report ("There can be only one argument named '" ++ n ++ "'.") (same.map (·.start))

/-- Reports known directives given more than once at one place. -/
def uniqueDirectives (cx : Context) (ds : List Directive) : Check Unit := do
  let _ ← ds.foldlM (fun (seen : List (String × Nat)) d => do
    if (Schema.directive? d.name).isNone then return seen
    match seen.lookup d.name with
    | some first =>
      cx.report ("The directive '@" ++ d.name ++ "' can only be used once at this location.")
        [first, d.start]
      return seen
    | none => return (d.name, d.start) :: seen) []

/-- Reports a named type the schema does not have. -/
def knownType (cx : Context) (n : String) (at_ : Nat) : Check Unit :=
  if (Schema.named? n).isNone then
    cx.report ("Unknown type '" ++ n ++ "'." ++ didYouMean (suggestions n Schema.typeNames) "") [at_]
  else pure ()

/-- Walks arguments. Each is looked up among the arguments of `owner`; one that is not there is
reported against the field being visited, under the name of what it was given to. -/
def visitArguments (cx : Context) (parent : Option String) (field : Option FieldDef)
    (owner : Option (List ArgDef)) (ownerName : String) : List Argument → Check Unit
  | [] => pure ()
  | a :: rest => do
    let argDef := owner.bind fun as => as.find? (·.name == a.name)
    if argDef.isNone then
      match field, parent with
      | some f, some p =>
        cx.report ("Unknown argument '" ++ a.name ++ "' on field '" ++ p ++ "." ++ ownerName ++ "'." ++
          didYouMean (suggestions a.name (f.args.map (·.name))) "") [a.start]
      | _, _ => pure ()
    visitValue cx (argDef.map (·.type)) (argDef.any (·.default.isSome)) true a.value
    visitArguments cx parent field owner ownerName rest

/-- Walks directives standing at a place. -/
def visitDirectives (cx : Context) (place : Place) (parent : Option String)
    (field : Option FieldDef) : List Directive → Check Unit
  | [] => pure ()
  | d :: rest => do
    let dd := Schema.directive? d.name
    match dd with
    | none => cx.report ("Unknown directive '@" ++ d.name ++ "'.") [d.start]
    | some def_ =>
      if !def_.places.contains place then
        cx.report ("Directive '@" ++ d.name ++ "' may not be used on " ++ place.name ++ ".") [d.start]
      d.args.forM fun a =>
        if def_.args.any (·.name == a.name) then pure ()
        else cx.report ("Unknown argument '" ++ a.name ++ "' on directive '@" ++ d.name ++ "'." ++
          didYouMean (suggestions a.name (def_.args.map (·.name))) "") [a.start]
    uniqueArguments cx d.args
    visitArguments cx parent field ((dd.map (·.args)).orElse fun _ => field.map (·.args)) d.name d.args
    if let some def_ := dd then
      def_.args.forM fun a =>
        if a.isRequired && !(d.args.any (·.name == a.name)) then
          cx.report ("Argument '@" ++ d.name ++ "(" ++ a.name ++ ":)' of type '" ++ a.type.render ++
            "' is required, but it was not provided.") [d.start]
        else pure ()
    visitDirectives cx place parent field rest

/-- Reports the conflicts of fields within a selection set. -/
def mergeable (cx : Context) (origin : Option String) (parent : Option String)
    (sels : List Selection) : Check Unit := do
  let st ← get
  let (cs, compared) := (Merge.conflicts cx.doc.fragments cx.fuel origin parent sels).run st.compared
  set { st with compared := compared }
  cs.forM fun c => cx.report c.message (c.left ++ c.right)

/-- Reports a spread fragment that can never apply where it is spread. -/
def possibleSpread (cx : Context) (fragType parent : Option String) (what : String)
    (at_ : Nat) : Check Unit :=
  match fragType, parent with
  | some ft, some p =>
    if ft != p then
      cx.report (what ++ " cannot be spread here as objects of type '" ++ p ++
        "' can never be of type '" ++ ft ++ "'.") [at_]
    else pure ()
  | _, _ => pure ()

mutual
/-- Walks the selections of a selection set on a type. -/
def visitSelections (cx : Context) (parent : Option String) (type : Option GType)
    (field : Option FieldDef) : List Selection → Check Unit
  | [] => pure ()
  | s :: rest => do
    visitSelection cx parent type field s
    visitSelections cx parent type field rest

/-- Walks a selection; `parent` is the object type whose fields are selected, `type` the type of
the enclosing field, `field` its definition. -/
def visitSelection (cx : Context) (parent : Option String) (type : Option GType)
    (field : Option FieldDef) : Selection → Check Unit
  | .field _ name args ds sub subStart start => do
    let fd := parent.bind fun p => Schema.field? p name
    match fd with
    | some f =>
      if f.type.isLeaf then
        if let some ss := subStart then
          cx.report ("Field '" ++ name ++ "' must not have a selection since type '" ++
            f.type.render ++ "' has no subfields.") [ss]
      else if subStart.isNone then
        cx.report ("Field '" ++ name ++ "' of type '" ++ f.type.render ++
          "' must have a selection of subfields. Did you mean '" ++ name ++ " \x7b ... \x7d'?") [start]
    | none => pure ()
    if let some p := parent then
      if fd.isNone then
        let known := ((Schema.fields? p).getD []).map (·.name)
        cx.report ("Cannot query field '" ++ name ++ "' on type '" ++ p ++ "'." ++
          didYouMean (suggestions name known) "") [start]
    uniqueDirectives cx ds
    uniqueArguments cx args
    visitArguments cx parent fd (fd.map (·.args)) name args
    visitDirectives cx .field parent fd ds
    if subStart.isSome then
      let inner := fd.map (·.type)
      let innerParent := inner.bind GType.objectName?
      mergeable cx none innerParent sub
      visitSelections cx innerParent inner fd sub
    match fd, parent with
    | some f, some p =>
      f.args.forM fun a =>
        if a.isRequired && !(args.any (·.name == a.name)) then
          cx.report ("Argument '" ++ p ++ "." ++ name ++ "(" ++ a.name ++ ":)' of type '" ++
            a.type.render ++ "' is required, but it was not provided.") [start]
        else pure ()
    | _, _ => pure ()
  | .spread n nameStart ds start => do
    let frag := cx.fragment? n
    if frag.isNone then cx.report ("Unknown fragment '" ++ n ++ "'.") [nameStart]
    let fragType := frag.bind fun f => (Schema.named? f.typeCondition.1).bind GType.objectName?
    possibleSpread cx fragType parent ("Fragment '" ++ n ++ "'") start
    uniqueDirectives cx ds
    visitDirectives cx .fragmentSpread parent field ds
  | .inline cond ds sels start => do
    let t := match cond with
      | some (n, _) => Schema.named? n
      | none => type.map GType.named
    if let some (n, ns) := cond then
      if nonComposite (Schema.named? n) then
        cx.report ("Fragment cannot condition on non composite type '" ++ n ++ "'.") [ns]
    possibleSpread cx (t.bind GType.objectName?) parent "Fragment" start
    uniqueDirectives cx ds
    if let some (n, ns) := cond then knownType cx n ns
    visitDirectives cx .inlineFragment parent field ds
    mergeable cx none (t.bind GType.objectName?) sels
    visitSelections cx (t.bind GType.objectName?) t field sels
end

/-- The spreads directly in a selection set: name, where the name starts, where the spread
starts. -/
def directSpreads (sels : List Selection) : List (String × Nat × Nat) :=
  sels.filterMap fun
    | .spread n ns _ s => some (n, ns, s)
    | _ => none

mutual
/-- The spreads below a list of selections, the last selection's first. -/
def nestedSpreads : List Selection → List (String × Nat × Nat)
  | [] => []
  | s :: rest => nestedSpreads rest ++ spreadsBelow s
/-- The spreads of the selection set of a selection, its own first. -/
def spreadsBelow : Selection → List (String × Nat × Nat)
  | .field _ _ _ _ sub (some _) _ => directSpreads sub ++ nestedSpreads sub
  | .field _ _ _ _ _ none _ => []
  | .inline _ _ sels _ => directSpreads sels ++ nestedSpreads sels
  | .spread _ _ _ _ => []
end

/-- The spreads of a selection set: its own, then those of its selections' sets, the last
selection's first. -/
def spreadsOf (sels : List Selection) : List (String × Nat × Nat) :=
  directSpreads sels ++ nestedSpreads sels

/-- The fragments an operation spreads, directly or through other fragments, each once. -/
def referencedFragments (cx : Context) (sels : List Selection) : List Fragment :=
  go [sels] [] [] (cx.doc.fragments.length + 2)
where
  /-- Takes the next selection set to look into from the top of the stack. -/
  go (stack : List (List Selection)) (collected : List String) (acc : List Fragment) :
      Nat → List Fragment
    | 0 => acc.reverse
    | fuel + 1 =>
      match stack with
      | [] => acc.reverse
      | set :: rest =>
        let (collected, acc, pushed) := (spreadsOf set).foldl
          (fun (c, a, p) (n, _, _) =>
            if c.contains n then (c, a, p)
            else
              match cx.fragment? n with
              | some f => (n :: c, f :: a, f.selections :: p)
              | none => (n :: c, a, p))
          (collected, acc, [])
        go (pushed ++ rest) collected acc fuel

/-- Reports the cycles of spreads through a fragment that the check has not entered yet;
`path` holds the spreads that led here and `index` where each fragment on it was entered. -/
def fragmentCycles (cx : Context) : Nat → Fragment → List (String × Nat × Nat) →
    List (String × Nat) → Check Unit
  | 0, _, _, _ => pure ()
  | fuel + 1, frag, path, index => do
    if (← get).entered.contains frag.name then return
    modify fun f => { f with entered := frag.name :: f.entered }
    let spreads := spreadsOf frag.selections
    if spreads.isEmpty then return
    let index := (frag.name, path.length) :: index
    spreads.forM fun sp => do
      let (n, _, _) := sp
      let path := path ++ [sp]
      match index.lookup n with
      | none =>
        match cx.fragment? n with
        | some f => fragmentCycles cx fuel f path index
        | none => pure ()
      | some i =>
        let cycle := path.drop i
        let via := ", ".intercalate ((cycle.dropLast).map fun (m, _, _) => "'" ++ m ++ "'")
        cx.report ("Cannot spread fragment '" ++ n ++ "' within itself" ++
          (if via.isEmpty then "." else " via " ++ via ++ ".")) (cycle.map fun (_, _, s) => s)

/-- Reports variables defined more than once in an operation. -/
def uniqueVariables (cx : Context) (vs : List VariableDef) : Check Unit :=
  (vs.map (·.name)).eraseDups.forM fun n => do
    let same := vs.filter (·.name == n)
    if same.length > 1 then
      cx.report ("There can be only one variable named '$" ++ n ++ "'.") (same.map (·.nameStart))

/-- Walks a variable definition. -/
def visitVariable (cx : Context) (v : VariableDef) : Check Unit := do
  let t := Schema.resolve? v.type
  if let some t := t then
    if !t.isInput then
      cx.report ("Variable '$" ++ v.name ++ "' cannot be non-input type '" ++ v.type.render ++ "'.")
        [v.type.start]
  uniqueDirectives cx v.directives
  let (bn, bs) := v.type.base
  knownType cx bn bs
  if let some d := v.default then visitValue cx (t.filter GType.isInput) false true d
  visitDirectives cx .variableDefinition none none v.directives

/-- The uses of variables in the directives and selections of an operation or fragment. -/
def usagesIn (cx : Context) (d : Definition) : List Usage :=
  let walk : Check Unit := match d with
    | .operation o => do
      visitDirectives cx (Place.ofOperation o.kind) none none o.directives
      let root := Schema.root? o.kind
      visitSelections cx root (root.map GType.object) none o.selections
    | .fragment f => do
      visitDirectives cx .fragmentDefinition none none f.directives
      let t := Schema.named? f.typeCondition.1
      visitSelections cx (t.bind GType.objectName?) t none f.selections
  (walk.run Findings.empty).2.usages.toList

/-- Whether a type may stand where another is expected: the same, or non-null where nullable
is expected, also inside lists. -/
def GType.fitsIn : GType → GType → Bool
  | .nonNull a, .nonNull b => a.fitsIn b
  | _, .nonNull _ => false
  | .nonNull a, b => a.fitsIn b
  | .list a, .list b => a.fitsIn b
  | _, .list _ => false
  | .list _, _ => false
  | a, b => a == b

/-- Whether a variable of a type, with a default, may be used where a type is expected, with a
default or not. -/
def allowedUse (varType : GType) (varDefault : Option Literal) (expected : GType)
    (hasDefault : Bool) : Bool :=
  match expected, varType with
  | .nonNull inner, .scalar _ | .nonNull inner, .enum _ | .nonNull inner, .object _
  | .nonNull inner, .list _ =>
    let nonNullDefault := match varDefault with
      | some (.null _) => false
      | some _ => true
      | none => false
    if !nonNullDefault && !hasDefault then false else varType.fitsIn inner
  | _, _ => varType.fitsIn expected

/-- The checks made on leaving an operation: variables used but not defined, defined but not
used, and used where their type does not fit. -/
def leaveOperation (cx : Context) (o : Operation) : Check Unit := do
  let usages := usagesIn cx (.operation o) ++
    (referencedFragments cx o.selections).flatMap fun f => usagesIn cx (.fragment f)
  let defined := o.variableDefs.map (·.name)
  usages.forM fun u =>
    if defined.contains u.name then pure ()
    else
      cx.report (match o.name with
        | some (n, _) => "Variable '$" ++ u.name ++ "' is not defined by operation '" ++ n ++ "'."
        | none => "Variable '$" ++ u.name ++ "' is not defined.") [u.start, o.start]
  let used := usages.map (·.name)
  o.variableDefs.forM fun v =>
    if used.contains v.name then pure ()
    else
      cx.report (match o.name with
        | some (n, _) => "Variable '$" ++ v.name ++ "' is never used in operation '" ++ n ++ "'."
        | none => "Variable '$" ++ v.name ++ "' is never used.") [v.start]
  usages.forM fun u =>
    match o.variableDefs.reverse.find? (·.name == u.name), u.expected with
    | some v, some expected =>
      match Schema.resolve? v.type with
      | some vt =>
        if allowedUse vt v.default expected u.hasDefault then pure ()
        else
          cx.report ("Variable '$" ++ u.name ++ "' of type '" ++ vt.render ++
            "' used in position expecting type '" ++ expected.render ++ "'.") [v.start, u.start]
      | none => pure ()
    | _, _ => pure ()

/-- Walks an operation; `opCount` is the number of operations in the document and `earlier`
the names of the operations before it with where they start. -/
def visitOperation (cx : Context) (opCount : Nat) (earlier : List (String × Nat))
    (o : Operation) : Check Unit := do
  if let some (n, p) := o.name then
    if let some first := earlier.lookup n then
      cx.report ("There can be only one operation named '" ++ n ++ "'.") [first, p]
  if o.name.isNone && opCount > 1 then
    cx.report "This anonymous operation must be the only defined operation." [o.start]
  uniqueVariables cx o.variableDefs
  uniqueDirectives cx o.directives
  o.variableDefs.forM (visitVariable cx)
  visitDirectives cx (Place.ofOperation o.kind) none none o.directives
  let root := Schema.root? o.kind
  mergeable cx none root o.selections
  visitSelections cx root (root.map GType.object) none o.selections
  leaveOperation cx o

/-- Walks a fragment definition; `earlier` holds the names of the fragments before it with
where the names start. -/
def visitFragment (cx : Context) (earlier : List (String × Nat)) (f : Fragment) : Check Unit := do
  let (cn, cs) := f.typeCondition
  let t := Schema.named? cn
  if nonComposite t then
    cx.report ("Fragment '" ++ f.name ++ "' cannot condition on non composite type '" ++ cn ++ "'.")
      [cs]
  if let some first := earlier.lookup f.name then
    cx.report ("There can be only one fragment named '" ++ f.name ++ "'.") [first, f.nameStart]
  fragmentCycles cx (cx.doc.fragments.length + 2) f [] []
  uniqueDirectives cx f.directives
  knownType cx cn cs
  visitDirectives cx .fragmentDefinition none none f.directives
  let p := t.bind GType.objectName?
  mergeable cx (some f.name) p f.selections
  visitSelections cx p t none f.selections

/-- Walks the definitions of a document in order. -/
def visitDefinitions (cx : Context) (opCount : Nat) : List Definition → List (String × Nat) →
    List (String × Nat) → Check Unit
  | [], _, _ => pure ()
  | .operation o :: rest, ops, frags => do
    visitOperation cx opCount ops o
    let ops := match o.name with
      | some (n, p) => if (ops.lookup n).isSome then ops else (n, p) :: ops
      | none => ops
    visitDefinitions cx opCount rest ops frags
  | .fragment f :: rest, ops, frags => do
    visitFragment cx frags f
    let frags := if (frags.lookup f.name).isSome then frags else (f.name, f.nameStart) :: frags
    visitDefinitions cx opCount rest ops frags

/-- Reports the fragments no operation spreads. -/
def unusedFragments (cx : Context) : Check Unit := do
  let used := cx.doc.operations.flatMap fun o =>
    (referencedFragments cx o.selections).map (·.name)
  cx.doc.fragments.forM fun f =>
    if used.contains f.name then pure ()
    else cx.report ("Fragment '" ++ f.name ++ "' is never used.") [f.start]

/-- The most errors validation reports before it stops. -/
def maxValidationErrors : Nat := 100

namespace Document

/-- The errors of a document against the schema, in the order the checks meet them; past the
limit, validation stops with an error saying so. -/
def validate (body : Array Nat) (d : Document) : List Error :=
  let cx := Context.ofDocument body d
  let walk : Check Unit := do
    visitDefinitions cx d.operations.length d.definitions [] []
    unusedFragments cx
  let errors := (walk.run Findings.empty).2.errors.toList
  if errors.length > maxValidationErrors then
    errors.take maxValidationErrors ++
      [⟨"Too many validation errors, error limit reached. Validation aborted.", [], []⟩]
  else errors

end Document

end Graph

end RecipeCatalog
