import RecipeCatalog.Graph.Token
import RecipeCatalog.Graph.Syntax

/-!
# Reading GraphQL documents

A document is read from its tokens by recursive descent. Tokens are taken one at a time, so a
malformed token is reported only when the reader steps onto it: a document whose grammar fails
before that point reports the grammar error.

The reader expects a token of a kind and otherwise reports `Expected <kind>, found <token>.`;
where no kind is expected it reports `Unexpected <token>.`. Both are located at the start of the
token found.

Main definitions: `Graph.Source`, `Graph.Document.parse`.
-/

namespace RecipeCatalog

namespace Graph

/-- A document being read: its code points, its tokens, and the error met after the last
token, if any. -/
structure Source where
  body : Array Nat
  tokens : Array Token
  failure : Option Error

namespace Source

/-- The source of a body. -/
def ofBody (body : Array Nat) : Source :=
  let (ts, e) := lex body
  ⟨body, ts.toArray, e⟩

/-- The token at a position; past the last one, the end token. -/
def token (s : Source) (i : Nat) : Token :=
  s.tokens.getD i ⟨.eof, s.body.size, s.body.size, ""⟩

/-- The position after a token; stepping onto a malformed token reports its error, and the
end token is never left. -/
def advance (s : Source) (i : Nat) : Except Error Nat :=
  if i + 1 < s.tokens.size then .ok (i + 1)
  else
    match s.failure with
    | some e => .error e
    | none => .ok i

/-- Whether the token at a position is of a kind. -/
def peek (s : Source) (i : Nat) (k : Kind) : Bool := (s.token i).kind == k

/-- The error for an unexpected token. -/
def unexpected (s : Source) (t : Token) : Error :=
  syntaxError s.body t.start ("Unexpected " ++ t.describe ++ ".")

/-- Steps over a token of a kind, which must be there. -/
def expect (s : Source) (i : Nat) (k : Kind) : Except Error Nat :=
  let t := s.token i
  if t.kind == k then s.advance i
  else .error (syntaxError s.body t.start ("Expected " ++ k.describe ++ ", found " ++ t.describe ++ "."))

/-- Steps over a token of a kind if it is there; answers whether it was. -/
def skip (s : Source) (i : Nat) (k : Kind) : Except Error (Bool × Nat) :=
  if s.peek i k then do
    let j ← s.advance i
    pure (true, j)
  else .ok (false, i)

/-- Whether the token at a position is a given name. -/
def isKeyword (s : Source) (i : Nat) (w : String) : Bool :=
  let t := s.token i
  t.kind == .name && t.value == w

/-- Steps over a given name, which must be there. -/
def expectKeyword (s : Source) (i : Nat) (w : String) : Except Error Nat :=
  if s.isKeyword i w then s.advance i
  else
    let t := s.token i
    .error (syntaxError s.body t.start ("Expected '" ++ w ++ "', found " ++ t.describe ++ "."))

/-- Steps over a given name if it is there; answers whether it was. -/
def skipKeyword (s : Source) (i : Nat) (w : String) : Except Error (Bool × Nat) :=
  if s.isKeyword i w then do
    let j ← s.advance i
    pure (true, j)
  else .ok (false, i)

/-- Reads a name: its value and where it starts. -/
def name (s : Source) (i : Nat) : Except Error ((String × Nat) × Nat) := do
  let t := s.token i
  let j ← s.expect i .name
  pure ((t.value, t.start), j)

/-- Reads the name of a fragment, which must not be `on`. -/
def fragmentName (s : Source) (i : Nat) : Except Error ((String × Nat) × Nat) :=
  if (s.token i).value == "on" then .error (s.unexpected (s.token i)) else s.name i

/-- The value a name stands for as a literal. -/
def namedValue (t : Token) : Literal :=
  if t.value == "true" then .bool true t.start
  else if t.value == "false" then .bool false t.start
  else if t.value == "null" then .null t.start
  else .enum t.value t.start

/-- The error for running out of steps, which a document never causes: every step takes a
token. -/
def exhausted (s : Source) (i : Nat) : Error := s.unexpected (s.token i)

/-- Reads a value; in a constant value no variable may stand. Each step takes a token, so
`fuel` steps suffice for a document of fewer tokens. -/
def value (s : Source) (isConst : Bool) : Nat → Nat → Except Error (Literal × Nat)
  | 0, i => .error (s.exhausted i)
  | fuel + 1, i =>
    let t := s.token i
    match t.kind with
    | .bracketL => do
      let j ← s.advance i
      let (items, k) ← values s isConst fuel j []
      pure (.list items t.start, k)
    | .braceL => do
      let j ← s.advance i
      let (fs, k) ← fields s isConst fuel j []
      pure (.object fs t.start, k)
    | .int => do
      let j ← s.advance i
      pure (.int t.value t.start, j)
    | .float => do
      let j ← s.advance i
      pure (.float t.value t.start, j)
    | .string => do
      let j ← s.advance i
      pure (.string t.value false t.start, j)
    | .blockString => do
      let j ← s.advance i
      pure (.string t.value true t.start, j)
    | .name => do
      let j ← s.advance i
      pure (namedValue t, j)
    | .dollar =>
      if isConst then do
        let j ← s.advance i
        let u := s.token j
        if u.kind == .name then
          .error (syntaxError s.body t.start
            ("Unexpected variable '$" ++ u.value ++ "' in constant value."))
        else .error (s.unexpected t)
      else do
        let j ← s.advance i
        let ((n, _), k) ← s.name j
        pure (.var n t.start, k)
    | _ => .error (s.unexpected t)
where
  /-- The items of a list after its opening bracket. -/
  values (s : Source) (isConst : Bool) : Nat → Nat → List Literal →
      Except Error (List Literal × Nat)
    | 0, i, _ => .error (s.exhausted i)
    | fuel + 1, i, acc => do
      let (closed, j) ← s.skip i .bracketR
      if closed then pure (acc.reverse, j)
      else
        let (v, k) ← value s isConst fuel i
        values s isConst fuel k (v :: acc)
  /-- The fields of an input object after its opening brace. -/
  fields (s : Source) (isConst : Bool) : Nat → Nat → List (String × Nat × Literal) →
      Except Error (List (String × Nat × Literal) × Nat)
    | 0, i, _ => .error (s.exhausted i)
    | fuel + 1, i, acc => do
      let (closed, j) ← s.skip i .braceR
      if closed then pure (acc.reverse, j)
      else
        let ((n, here), k) ← s.name i
        let k ← s.expect k .colon
        let (v, l) ← value s isConst fuel k
        fields s isConst fuel l ((n, here, v) :: acc)

/-- Reads an argument: a name, a colon and a value. -/
def argument (s : Source) (isConst : Bool) (fuel i : Nat) : Except Error (Argument × Nat) := do
  let ((n, here), j) ← s.name i
  let j ← s.expect j .colon
  let (v, k) ← s.value isConst fuel j
  pure (⟨n, v, here⟩, k)

/-- Reads the rest of a list of arguments up to its closing parenthesis. -/
def argumentsRest (s : Source) (isConst : Bool) : Nat → Nat → List Argument →
    Except Error (List Argument × Nat)
  | 0, i, _ => .error (s.exhausted i)
  | fuel + 1, i, acc => do
    let (closed, j) ← s.skip i .parenR
    if closed then pure (acc.reverse, j)
    else
      let (a, k) ← s.argument isConst fuel i
      argumentsRest s isConst fuel k (a :: acc)

/-- Reads arguments in parentheses, if there are any; the parentheses must hold one. -/
def arguments (s : Source) (isConst : Bool) (fuel i : Nat) : Except Error (List Argument × Nat) := do
  let (opened, j) ← s.skip i .parenL
  if opened then
    let (a, k) ← s.argument isConst fuel j
    s.argumentsRest isConst fuel k [a]
  else pure ([], i)

/-- Reads the directives at a position. -/
def directives (s : Source) (isConst : Bool) : Nat → Nat → List Directive →
    Except Error (List Directive × Nat)
  | 0, i, _ => .error (s.exhausted i)
  | fuel + 1, i, acc =>
    if s.peek i .atSign then do
      let here := (s.token i).start
      let j ← s.advance i
      let ((n, _), k) ← s.name j
      let (args, l) ← s.arguments isConst fuel k
      directives s isConst fuel l (⟨n, args, here⟩ :: acc)
    else pure (acc.reverse, i)

/-- Reads a type reference. -/
def typeRef (s : Source) : Nat → Nat → Except Error (TypeRef × Nat)
  | 0, i => .error (s.exhausted i)
  | fuel + 1, i => do
    let here := (s.token i).start
    let (isList, j) ← s.skip i .bracketL
    let (t, k) ← if isList then do
        let (inner, k) ← typeRef s fuel j
        let k ← s.expect k .bracketR
        pure (TypeRef.list inner here, k)
      else do
        let ((n, _), k) ← s.name i
        pure (TypeRef.named n here, k)
    let (bang, l) ← s.skip k .bang
    pure (if bang then .nonNull t here else t, l)

/-- Reads a named type: its name and where it starts. -/
def namedType (s : Source) (i : Nat) : Except Error ((String × Nat) × Nat) := s.name i

/-- Reads a selection set from its opening brace; answers where it starts. -/
def selectionSet (s : Source) : Nat → Nat → Except Error ((Nat × List Selection) × Nat)
  | 0, i => .error (s.exhausted i)
  | fuel + 1, i => do
    let here := (s.token i).start
    let j ← s.expect i .braceL
    let (first, k) ← selection s fuel j
    let (rest, l) ← selections s fuel k [first]
    pure ((here, rest), l)
where
  /-- The selections after the first, up to the closing brace. -/
  selections (s : Source) : Nat → Nat → List Selection → Except Error (List Selection × Nat)
    | 0, i, _ => .error (s.exhausted i)
    | fuel + 1, i, acc => do
      let (closed, j) ← s.skip i .braceR
      if closed then pure (acc.reverse, j)
      else
        let (sel, k) ← selection s fuel i
        selections s fuel k (sel :: acc)
  /-- A field or a fragment. -/
  selection (s : Source) : Nat → Nat → Except Error (Selection × Nat)
    | 0, i => .error (s.exhausted i)
    | fuel + 1, i =>
      let here := (s.token i).start
      if s.peek i .spread then do
        let j ← s.advance i
        let (hasCondition, j) ← s.skipKeyword j "on"
        if !hasCondition && s.peek j .name then
          let ((n, nat), k) ← s.fragmentName j
          let (ds, l) ← s.directives false fuel k []
          pure (.spread n nat ds here, l)
        else
          let (cond, k) ← if hasCondition then do
              let (c, k) ← s.namedType j
              pure (some c, k)
            else pure (none, j)
          let (ds, l) ← s.directives false fuel k []
          let ((_, sels), m) ← selectionSet s fuel l
          pure (.inline cond ds sels here, m)
      else do
        let ((first, _), j) ← s.name i
        let (aliased, j) ← s.skip j .colon
        let (aliasName, fieldName, j) ← if aliased then do
            let ((n, _), k) ← s.name j
            pure (some first, n, k)
          else pure (none, first, j)
        let (args, k) ← s.arguments false fuel j
        let (ds, l) ← s.directives false fuel k []
        if s.peek l .braceL then
          let ((subAt, sub), m) ← selectionSet s fuel l
          pure (.field aliasName fieldName args ds sub (some subAt) here, m)
        else pure (.field aliasName fieldName args ds [] none here, l)

/-- Reads the rest of a list of variable definitions up to its closing parenthesis. -/
def variableDefs (s : Source) : Nat → Nat → List VariableDef →
    Except Error (List VariableDef × Nat)
  | 0, i, _ => .error (s.exhausted i)
  | fuel + 1, i, acc => do
    let here := (s.token i).start
    let j ← s.expect i .dollar
    let ((n, nat), j) ← s.name j
    let j ← s.expect j .colon
    let (t, j) ← s.typeRef fuel j
    let (hasDefault, j) ← s.skip j .equals
    let (dflt, j) ← if hasDefault then do
        let (v, k) ← s.value true fuel j
        pure (some v, k)
      else pure (none, j)
    let (ds, j) ← s.directives true fuel j []
    let acc := ⟨n, nat, t, dflt, ds, here⟩ :: acc
    let (closed, k) ← s.skip j .parenR
    if closed then pure (acc.reverse, k) else variableDefs s fuel j acc

/-- Reads an operation. -/
def operation (s : Source) (fuel i : Nat) : Except Error (Operation × Nat) := do
  let here := (s.token i).start
  if s.peek i .braceL then
    let ((_, sels), j) ← s.selectionSet fuel i
    pure (⟨.query, none, [], [], sels, here⟩, j)
  else
    let t := s.token i
    let j ← s.expect i .name
    let kind ← if t.value == "query" then pure OperationKind.query
      else if t.value == "mutation" then pure .mutation
      else if t.value == "subscription" then pure .subscription
      else .error (s.unexpected t)
    let (opName, j) ← if s.peek j .name then do
        let (n, k) ← s.name j
        pure (some n, k)
      else pure (none, j)
    let (opened, j) ← s.skip j .parenL
    let (vars, j) ← if opened then s.variableDefs fuel j [] else pure ([], j)
    let (ds, j) ← s.directives false fuel j []
    let ((_, sels), k) ← s.selectionSet fuel j
    pure (⟨kind, opName, vars, ds, sels, here⟩, k)

/-- Reads a fragment definition. -/
def fragment (s : Source) (fuel i : Nat) : Except Error (Fragment × Nat) := do
  let here := (s.token i).start
  let j ← s.expectKeyword i "fragment"
  let ((n, nat), j) ← s.fragmentName j
  let j ← s.expectKeyword j "on"
  let (cond, j) ← s.namedType j
  let (ds, j) ← s.directives false fuel j []
  let ((_, sels), k) ← s.selectionSet fuel j
  pure (⟨n, nat, cond, ds, sels, here⟩, k)

/-- Reads a definition. A description may only stand before a type definition, and type
definitions are not read: they are reported at their keyword. -/
def definition (s : Source) (fuel i : Nat) : Except Error (Definition × Nat) :=
  if s.peek i .braceL then do
    let (o, j) ← s.operation fuel i
    pure (.operation o, j)
  else do
    let t := s.token i
    let described := t.kind == .string || t.kind == .blockString
    let keyword ← if described then do
        let j ← s.advance i
        pure (s.token j)
      else pure t
    if keyword.kind == .name then
      if described then
        .error (syntaxError s.body t.start
          "Unexpected description, descriptions are supported only on type definitions.")
      else if keyword.value == "query" || keyword.value == "mutation" ||
          keyword.value == "subscription" then do
        let (o, j) ← s.operation fuel i
        pure (.operation o, j)
      else if keyword.value == "fragment" then do
        let (f, j) ← s.fragment fuel i
        pure (.fragment f, j)
      else .error (s.unexpected keyword)
    else .error (s.unexpected keyword)

/-- Reads definitions up to the end of the document. -/
def definitions (s : Source) : Nat → Nat → List Definition →
    Except Error (List Definition × Nat)
  | 0, i, _ => .error (s.exhausted i)
  | fuel + 1, i, acc => do
    let (d, j) ← s.definition fuel i
    let (atEnd, k) ← s.skip j .eof
    if atEnd then pure ((d :: acc).reverse, k) else definitions s fuel j (d :: acc)

end Source

namespace Document

/-- Reads a document from its code points. -/
def parse (body : Array Nat) : Except Error Document := do
  let s := Source.ofBody body
  if s.tokens.size = 0 then
    match s.failure with
    | some e => .error e
    | none => pure ⟨[]⟩
  else
    let fuel := 2 * s.tokens.size + 2
    let (ds, _) ← s.definitions fuel 0 []
    pure ⟨ds⟩

end Document

end Graph

end RecipeCatalog
