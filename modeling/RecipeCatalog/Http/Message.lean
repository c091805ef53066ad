import RecipeCatalog.Json.Value
import RecipeCatalog.Text.Encoding

/-!
# HTTP messages

A request as the server sees it: the method, the percent-decoded path, the raw query string, the
headers (names in lowercase, values one character per byte) and the body. A response: the
status, the headers that matter to a client of the catalogue, and a body that is empty, JSON,
plain text or bytes.

A JSON body is written with the values it holds; a value that has no JSON text (a double that
is not finite, a string with a lone surrogate) cannot be sent, and the server answers 500 in its
place.

Main definitions: `Request`, `Request.header?`, `Response`, `Response.json`, `Response.plain`.
-/

namespace RecipeCatalog

namespace Http

/-- A request. -/
structure Request where
  method : String
  /-- the path, percent-decoded -/
  path : String
  /-- the query string, as sent -/
  query : String
  /-- header names in lowercase, with their values, in the order sent -/
  headers : List (String × String)
  body : List UInt8

namespace Request

/-- The value of the first header with a name (given in lowercase). -/
def header? (r : Request) (name : String) : Option String :=
  (r.headers.find? (·.1 == name)).map (·.2)

end Request

/-- The body of a response. -/
inductive Body where
  | empty
  | json (v : Value)
  | text (s : String)
  | bytes (bs : List UInt8)

/-- A response. -/
structure Response where
  status : Nat
  /-- header names in lowercase, with their values -/
  headers : List (String × String)
  body : Body
  /-- for a file sent as an attachment, the extension of its name -/
  attachment : Option String

namespace Value

/-- Whether a value has JSON text: no double in it is infinite or not a number, and no string
or key in it holds a lone surrogate. -/
def isWritable : Value → Bool
  | .float x => x.isFinite
  | .str t => !t.hasLone
  | .array items => items.attach.all fun ⟨v, _⟩ => isWritable v
  | .object fields => fields.attach.all fun ⟨(k, v), _⟩ => !k.hasLone && isWritable v
  | _ => true
termination_by v => sizeOf v
decreasing_by
  all_goals simp_wf
  · have := List.sizeOf_lt_of_mem ‹_ ∈ items›
    omega
  · have := List.sizeOf_lt_of_mem ‹_ ∈ fields›
    simp at this
    omega

end Value

namespace Response

/-- The media type of plain text. -/
def plainType : String := "text/plain; charset=utf-8"

/-- A plain text response. -/
def plain (status : Nat) (text : String) : Response :=
  ⟨status, [("content-type", plainType)], .text text, none⟩

/-- The answer to a request whose handling broke down. -/
def serverError : Response := plain 500 "Internal Server Error"

/-- A JSON response, or the server error when the value has no JSON text. -/
def json (status : Nat) (v : Value) (headers : List (String × String)) : Response :=
  if Value.isWritable v then ⟨status, ("content-type", "application/json") :: headers, .json v, none⟩
  else serverError

/-- A JSON response whose body names what went wrong. -/
def detail (status : Nat) (message : String) (headers : List (String × String)) : Response :=
  json status (Value.obj [("detail", .ofString message)]) headers

/-- A response without a body. -/
def empty (status : Nat) (headers : List (String × String)) : Response :=
  ⟨status, headers, .empty, none⟩

end Response

end Http

end RecipeCatalog
