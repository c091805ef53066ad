import RecipeCatalog.Graph.Execute
import RecipeCatalog.Graph.Parser
import RecipeCatalog.Http.Rest
import RecipeCatalog.Http.Target
import RecipeCatalog.Text.Blank

/-!
# The GraphQL endpoint

`/graphql` takes a request as a JSON object in a `POST` body, declared as JSON, or as query
parameters of a `GET` (where `variables` is JSON text). The object names the document
(`query`), the `variables` and the `operationName`. The answer is `200` with a JSON object
holding the `data`, and the `errors` when there are any: a document that does not parse, does
not validate or whose variables do not fit gives `null` data and its errors.

A malformed request is refused with `400` and a line of text: a body that is not JSON or not
declared as JSON, a document that is not text, variables that are not an object, no document at
all, or a mutation sent with `GET`. A bearer token, if given and in the token table,
authenticates the caller; a missing or unknown one does not refuse the request, but mutations
then fail.

Main definitions: `Graph.Outcome`, `Graph.Request`, `Graph.Request.prepare`, `Graph.Request.run`,
`Graph.serve`.
-/

namespace RecipeCatalog

namespace Graph

/-- The answer to a GraphQL request: the data, `null` when none, and the errors. -/
structure Outcome where
  data : Option Value
  errors : List Error

namespace PathKey

/-- A path step as JSON. -/
def toValue : PathKey → Value
  | key k => .ofString k
  | index i => .int i

end PathKey

namespace Error

/-- An error as JSON: its message, its places if it has any, and its path if it has one. -/
def toValue (e : Error) : Value :=
  Value.obj ([("message", .ofString e.message)] ++
    (if e.locations.isEmpty then []
     else [("locations", .array (e.locations.map fun p =>
       Value.obj [("line", .int p.line), ("column", .int p.column)]))]) ++
    (if e.path.isEmpty then [] else [("path", .array (e.path.map PathKey.toValue))]))

end Error

namespace Outcome

/-- An answer as JSON. -/
def toValue (o : Outcome) : Value :=
  Value.obj ([("data", o.data.getD .null)] ++
    (if o.errors.isEmpty then [] else [("errors", .array (o.errors.map Error.toValue))]))

/-- An answer with no data. -/
def failing (es : List Error) : Outcome := ⟨none, es⟩

end Outcome

/-- A GraphQL request: the document, the variables and the name of the operation to run. -/
structure Request where
  document : Option Text
  variableValues : Option Fields
  operationName : Option Value

namespace Request

/-- The operation a request names: the first one when it names none. -/
def chosen? (q : Request) (d : Document) : Option Operation :=
  match q.operationName with
  | none => d.operations.head?
  | some (.str n) => d.operations.find? fun o => (o.name.map fun (m, _) => Text.ofString m) == some n
  | some _ => none

/-- The operation to run, as the runner picks it: the only one, or the one named. -/
def toRun (q : Request) (d : Document) : Except Error Operation :=
  match q.operationName with
  | some (.str n) =>
    match d.operations.reverse.find? fun o => (o.name.map fun (m, _) => Text.ofString m) == some n with
    | some o => .ok o
    | none => .error ⟨"Unknown operation named '" ++ ((n.toString?).getD "") ++ "'.", [], []⟩
  | _ =>
    match d.operations with
    | [o] => .ok o
    | [] => .error ⟨"Must provide an operation.", [], []⟩
    | _ => .error ⟨"Must provide operation name if query contains multiple operations.", [], []⟩

/-- What a request runs, decided before the store is read: the setting and the operation, or
the answer with no data when there is nothing to run; `viaGet` forbids mutations. A refusal is
the line of text answered with `400`. -/
def prepare (q : Request) (authenticated viaGet : Bool) :
    Except String (Except Outcome (Setting × Operation)) :=
  match q.document with
  | none => .error "No GraphQL query found in the request"
  | some t =>
    if t.points.isEmpty then .error "No GraphQL query found in the request"
    else
      let body := t.codes.toArray
      match Document.parse body with
      | .error e => .ok (.error (.failing [e]))
      | .ok d =>
        match q.chosen? d with
        | none => .ok (.error (.failing [⟨"Can't get GraphQL operation type", [], []⟩]))
        | some op =>
          if viaGet && op.kind == .mutation then .error "mutations are not allowed when using GET"
          else
            match d.validate body with
            | e :: es => .ok (.error (.failing (e :: es)))
            | [] =>
              match q.toRun d with
              | .error e => .ok (.error (.failing [e]))
              | .ok o =>
                match coerceVariables body o.variableDefs (q.variableValues.getD []) with
                | .error es => .ok (.error (.failing es))
                | .ok vars => .ok (.ok (⟨body, d.fragments, vars, authenticated⟩, o))

/-- Runs a request against the store. -/
def run (q : Request) (s : Store) (authenticated viaGet : Bool) :
    Except String (Outcome × Store) :=
  match q.prepare authenticated viaGet with
  | .error m => .error m
  | .ok (.error o) => .ok (o, s)
  | .ok (.ok (st, o)) =>
    let (data, p) := (Runner.operation st o).run ⟨s, #[]⟩
    .ok (⟨data, p.errors.toList⟩, p.store)

/-- A request from the fields of a JSON object, or the line of text refusing it. -/
def ofFields (fs : Fields) : Except String Request := do
  let document ← match fs.lookup "query" with
    | none | some .null => pure none
    | some (.str t) => pure (some t)
    | some _ => throw "The GraphQL operation's `query` must be a string or null, if provided."
  let variableValues ← match fs.lookup "variables" with
    | none | some .null => pure none
    | some (.object v) => pure (some v)
    | some _ => throw "The GraphQL operation's `variables` must be an object or null, if provided."
  match fs.lookup "extensions" with
  | none | some .null | some (.object _) => pure ()
  | some _ => throw "The GraphQL operation's `extensions` must be an object or null, if provided."
  let operationName := match fs.lookup "operationName" with
    | none | some .null => none
    | some v => some v
  pure ⟨document, variableValues, operationName⟩

end Request

/-- The media type a request declares: the part of its `Content-Type` before the first `;`
outside quotes, without surrounding blanks; a parameter-like part has its name in lowercase. -/
def declaredType (r : Http.Request) : String :=
  let value := ((r.header? "content-type").getD "").toList
  let rec cut (before : List Char) (quotes : Nat) : List Char → List Char
    | [] => before.reverse
    | ';' :: rest => if quotes % 2 == 0 then before.reverse else cut (';' :: before) quotes rest
    | '\\' :: '"' :: rest => cut ('"' :: '\\' :: before) quotes rest
    | '"' :: rest => cut ('"' :: before) (quotes + 1) rest
    | c :: rest => cut (c :: before) quotes rest
  let part := cut [] 0 value
  let strip (cs : List Char) : String := ((Text.strip (Text.ofString (String.ofList cs))).toString?).getD ""
  let part := match part.findIdx? (· == '=') with
    | some i => (strip (part.take i)).toLower ++ "=" ++ strip (part.drop (i + 1))
    | none => String.ofList part
  strip part.toList

/-- Whether a string contains another. -/
def containsPart (whole part : String) : Bool := (whole.splitOn part).length > 1

/-- The request a `POST` carries, or the response refusing it. -/
def ofPost (r : Http.Request) : Except Http.Response Request :=
  if !containsPart (declaredType r) "application/json" then
    .error (Http.Response.plain 400 "Unsupported content type")
  else
    match Json.decodeBytes r.body with
    | none => .error Http.Response.serverError
    | some t =>
      match Json.parse t.points with
      | .error .malformed => .error (Http.Response.plain 400 "Unable to parse request body as JSON")
      | .error (.tooManyDigits _) => .error Http.Response.serverError
      | .ok (.object fs) =>
        match Request.ofFields fs with
        | .ok q => .ok q
        | .error m => .error (Http.Response.plain 400 m)
      | .ok _ => .error Http.Response.serverError

/-- The request the query parameters of a `GET` carry, or the response refusing it. -/
def ofGet (r : Http.Request) : Except Http.Response Request :=
  let params := Http.Target.fields r.query
  let asJson (key : String) : Except Http.Response (List (Text × Value)) :=
    match params.lookup key with
    | some (.str t) =>
      if t.points.isEmpty then .ok [(Text.ofString key, .str t)]
      else
        match Json.parse t.points with
        | .ok v => .ok [(Text.ofString key, v)]
        | .error .malformed => .error (Http.Response.plain 400 "Unable to parse request body as JSON")
        | .error (.tooManyDigits _) => .error Http.Response.serverError
    | some v => .ok [(Text.ofString key, v)]
    | none => .ok []
  match asJson "variables", asJson "extensions" with
  | .error resp, _ => .error resp
  | _, .error resp => .error resp
  | .ok vs, .ok es =>
    let fs := (params.filter fun (k, _) => !(k.is "variables" || k.is "extensions")) ++ vs ++ es
    match Request.ofFields fs with
    | .ok q => .ok q
    | .error m => .error (Http.Response.plain 400 m)

/-- Whether the caller is authenticated by a bearer token of the token table, or the response
when the token cannot be checked. -/
def authenticated (T : TokenTable) (r : Http.Request) : Except Http.Response Bool :=
  match Http.Rest.bearer? r with
  | none => .ok false
  | some token =>
    match T.verify (Text.ofString token) with
    | .ok (some _) => .ok true
    | .ok none => .ok false
    | .error _ => .error Http.Response.serverError

/-- Answers a request to the GraphQL endpoint. -/
def serve (T : TokenTable) (s : Store) (r : Http.Request) : Http.Response × Store :=
  match authenticated T r with
  | .error resp => (resp, s)
  | .ok user =>
    let viaGet := r.method == "GET"
    match (if viaGet then ofGet r else ofPost r) with
    | .error resp => (resp, s)
    | .ok q =>
      match q.run s user viaGet with
      | .error m => (Http.Response.plain 400 m, s)
      | .ok (o, s') => (⟨200, [("content-type", "application/json")], .json o.toValue, none⟩, s')

end Graph

end RecipeCatalog
