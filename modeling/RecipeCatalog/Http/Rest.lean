import RecipeCatalog.Http.Target
import RecipeCatalog.Catalog.Store
import RecipeCatalog.Auth.Token
import RecipeCatalog.Json.Reader

/-!
# The REST interface

The recipes are served under `/api/v1/recipes` as HAL documents: a recipe's document without
its id and version, with links to itself and to the collection. A recipe's version is its
entity tag. Writing needs a bearer token of the token table the service is configured with,
checked before anything else; a body must then be declared as JSON and be a JSON object.

* `Rest.list` — the recipes a query selects, or a plain `Not Found` when there are none.
* `Rest.fetch` — one recipe; `304` when `If-None-Match` names its current version.
* `Rest.create`, `Rest.replace`, `Rest.remove` — the store's operations, with their failures
  turned into `400` (the candidate) and `412` (the version and the recipe's existence).
* `Rest.upload`, `Rest.download` — a recipe's file.

Main definitions: `Rest.authorize`, `Rest.mediaType`, `Rest.candidate`, and the handlers.
-/

namespace RecipeCatalog

namespace Http

namespace Rest

/-- The origin links point to: the host the request names, or `test`. -/
def origin (r : Request) : String := "http://" ++ (r.header? "host").getD "test"

/-- The address of the collection. -/
def collection (r : Request) : String := origin r ++ "/api/v1/recipes"

/-- The credentials of an `Authorization` header whose scheme is `bearer` in any case: what
follows the first space, which must not be empty. -/
def bearer? (r : Request) : Option String :=
  match r.header? "authorization" with
  | none => none
  | some v =>
    let scheme := v.toList.takeWhile (· != ' ')
    let rest := (v.toList.drop scheme.length).drop 1
    if scheme.isEmpty || rest.isEmpty || (String.ofList scheme).toLower != "bearer" then none
    else some (String.ofList rest)

/-- The answer to a request without a known bearer token. -/
def unauthorized (message : String) : Response :=
  Response.detail 401 message [("www-authenticate", "Bearer")]

/-- The user a request acts for, or the response refusing it. -/
def authorize (table : TokenTable) (r : Request) : Except Response Value :=
  match bearer? r with
  | none => .error (unauthorized "Missing token")
  | some token =>
    match table.verify (Text.ofString token) with
    | .ok (some user) => .ok user
    | .ok none => .error (unauthorized "Invalid token")
    | .error _ => .error Response.serverError

/-- The media type of a request's body: its `Content-Type` before any `;`, without surrounding
white space, in lowercase. -/
def mediaType (r : Request) : String :=
  let given := ((r.header? "content-type").getD "").toList.takeWhile (· != ';')
  match (Text.strip (Text.ofString (String.ofList given))).toString? with
  | some s => s.toLower
  | none => ""

/-- The media type of JSON. -/
def jsonType : String := "application/json"

/-- The candidate a request's body holds, or the response refusing it. -/
def candidate (r : Request) : Except Response Fields :=
  match Json.parseBytes r.body with
  | .ok (.object fs) => .ok fs
  | .ok _ => .error (Response.detail 400 "A recipe must be a JSON object" [])
  | .error .malformed => .error (Response.detail 400 "Malformed JSON" [])
  | .error (.tooManyDigits _) => .error Response.serverError

/-- A recipe's document without its id and version. -/
def withoutIdentity (rec : Recipe) : Fields :=
  rec.document.filter fun (k, _) => !(k.is "id" || k.is "version")

/-- A link. -/
def link (href : String) : Value := Value.obj [("href", .ofString href)]

/-- The entity tag of a version. -/
def etag (v : Nat) : String := "\"" ++ toString v ++ "\""

/-- The recipes a query selects. -/
def list (s : Store) (r : Request) : Response :=
  match s.find (Criteria.ofFields (Target.fields r.query)) with
  | .error _ => Response.serverError
  | .ok [] => Response.plain 404 "Not Found"
  | .ok recipes =>
    Response.json 200 (.array (recipes.map fun rec =>
      .object (withoutIdentity rec ++
        [(Text.ofString "_links", Value.obj [("self", link (collection r ++ "/" ++ rec.id))])]))) []

/-- The links of the HAL document of the recipe with an id. -/
def recipeLinks (r : Request) (id : String) : Value :=
  let me := collection r ++ "/" ++ id
  Value.obj [("self", link me), ("list", link (collection r)), ("add", link (collection r)),
    ("update", link me), ("remove", link me)]

/-- One recipe as a HAL document. -/
def fetch (s : Store) (r : Request) (id : String) : Response :=
  match s.findById (Text.ofString id) with
  | .error _ => Response.serverError
  | .ok none => Response.detail 404 "Not Found" []
  | .ok (some rec) =>
    let tag := etag rec.version
    if r.header? "if-none-match" == some tag then Response.empty 304 []
    else
      Response.json 200
        (.object (withoutIdentity rec ++ [(Text.ofString "_links", recipeLinks r rec.id)]))
        [("etag", tag)]

/-- The response to a failure of a create or an update. -/
def failure : Failure → Response
  | .invalid report => Response.json 400 report.toValue []
  | .nameExists name owner =>
    Response.plain 400 ("The name \"" ++ name ++ "\" already exists at " ++ owner ++ ".")
  | .referenceCodeExists code owner =>
    Response.plain 400 ("The reference code \"" ++ code ++ "\" already exists at " ++ owner ++ ".")
  | .recipeNotExists id =>
    Response.plain 412 ("There is no recipe with the id \"" ++
      ((id.bind Text.toString?).getD "None") ++ "\".")
  | .versionInvalid token =>
    Response.plain 412 ("The version number \"" ++ ((token.bind Text.toString?).getD "None") ++
      "\" is invalid.")
  | .versionOutdated _ v => Response.plain 412 ("The version number \"" ++ toString v ++ "\" is outdated.")
  | .fileNotFound _ => Response.detail 404 "Not Found" []
  | .multipleFiles _ => Response.detail 500 "Internal Server Error" []

/-- Creates a recipe from the body of a request. -/
def create (T : TokenTable) (s : Store) (r : Request) : Response × Store :=
  match authorize T r with
  | .error resp => (resp, s)
  | .ok _ =>
    if mediaType r != jsonType then (Response.detail 406 "Not Acceptable" [], s)
    else
      match candidate r with
      | .error resp => (resp, s)
      | .ok c =>
        match s.create c with
        | .error _ => (Response.serverError, s)
        | .ok (.error f, s') => (failure f, s')
        | .ok (.ok id, s') => (Response.empty 201 [("location", collection r ++ "/" ++ id)], s')

/-- Replaces a recipe by the body of a request; `If-Match` carries the version, in quotes. -/
def replace (T : TokenTable) (s : Store) (r : Request) (id : String) : Response × Store :=
  match authorize T r with
  | .error resp => (resp, s)
  | .ok _ =>
    if mediaType r != jsonType then (Response.detail 406 "Not Acceptable" [], s)
    else
      match r.header? "if-match" with
      | none => (Response.plain 428 "version number missing", s)
      | some h =>
        if h.length < 3 then (Response.plain 412 ("invalid version number: " ++ h), s)
        else
          match candidate r with
          | .error resp => (resp, s)
          | .ok c =>
            let c := c.set (Text.ofString "id") (.ofString id)
            let token := String.ofList ((h.toList.drop 1).dropLast)
            match s.update c (some (Text.ofString token)) with
            | .error _ => (Response.serverError, s)
            | .ok (.error f, s') => (failure f, s')
            | .ok (.ok v, s') => (Response.empty 204 [("etag", etag v)], s')

/-- Deletes a recipe, whether or not it exists. -/
def remove (T : TokenTable) (s : Store) (r : Request) (id : String) : Response × Store :=
  match authorize T r with
  | .error resp => (resp, s)
  | .ok _ =>
    match s.delete (Text.ofString id) with
    | .error _ => (Response.serverError, s)
    | .ok (_, s') => (Response.empty 204 [], s')

/-- Keeps the body of a request as a recipe's file. -/
def upload (T : TokenTable) (s : Store) (r : Request) (id : String) : Response × Store :=
  match authorize T r with
  | .error resp => (resp, s)
  | .ok _ =>
    let media := mediaType r
    if media.isEmpty then (Response.detail 406 "Not Acceptable" [], s)
    else
      match s.saveFile (Text.ofString id) r.body (some (Text.ofString media)) with
      | .error _ => (Response.serverError, s)
      | .ok (false, s') => (Response.detail 404 "Not Found" [], s')
      | .ok (true, s') => (Response.empty 204 [], s')

/-- The media type a file is sent with: text types name their character set. -/
def sentType (media : String) : String :=
  if media.startsWith "text/" && !((media.splitOn "charset=").length > 1) then
    media ++ "; charset=utf-8"
  else media

/-- Sends a recipe's file. -/
def download (s : Store) (id : String) : Response :=
  match s.findFile (Text.ofString id) with
  | .error _ => Response.serverError
  | .ok (.error (.multipleFiles _)) => Response.detail 500 "Internal Server Error" []
  | .ok (.error _) => Response.detail 404 "Not Found" []
  | .ok (.ok f) =>
    ⟨200, [("content-type", sentType f.mediaType)], .bytes f.content, some f.extension⟩

/-- The state of the service. -/
def health : Response :=
  Response.json 200 (Value.obj [("status", .ofString "healthy"), ("version", .ofString "0.1.0"),
    ("environment", .ofString "development"), ("database", .ofString "up")]) []

end Rest

end Http

end RecipeCatalog
