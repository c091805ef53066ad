import RecipeCatalog.Http.Message
import RecipeCatalog.Url.Host

/-!
# Request targets

The target of a request is a path, optionally followed by `?` and a query, and optionally by a
`#` fragment, which is never sent. The path is percent-decoded as UTF-8, an invalid sequence
becoming U+FFFD. The query is a list of `&`-separated pairs: empty pairs are skipped, a pair
without `=` has an empty value, `+` stands for a space, and names and values are
percent-decoded like the path. As a mapping, a query keeps the last value of a repeated name at
the place of its first.

Header values are sent as UTF-8 and read one character per byte.

Main definitions: `Target.split`, `Target.unquote`, `Target.pairs`, `Request.make`.
-/

namespace RecipeCatalog

namespace Http

namespace Target

/-- Splits a target into its path and its query, dropping any fragment. -/
def split (target : String) : String × String :=
  let cs := target.toList.takeWhile (· != '#')
  let path := cs.takeWhile (· != '?')
  (String.ofList path, String.ofList ((cs.drop path.length).drop 1))

/-- Percent-decodes text as UTF-8; an invalid sequence becomes U+FFFD. -/
def unquote (s : String) : String := Utf8.decodeLossy (Url.percentDecode (Utf8.encode s))

/-- Splits text at every occurrence of a character. -/
def cut (sep : Char) (s : String) : List String := (Url.pieces sep s.toList).map String.ofList

/-- The name-value pairs of a query. -/
def pairs (query : String) : List (String × String) :=
  (cut '&' query).filterMap fun item =>
    if item.isEmpty then none
    else
      let cs := item.toList
      let name := cs.takeWhile (· != '=')
      let value := (cs.drop name.length).drop 1
      let decode (part : List Char) : String :=
        unquote (String.ofList (part.map fun c => if c == '+' then ' ' else c))
      some (decode name, decode value)

/-- A query as a mapping of names to text values. -/
def fields (query : String) : Fields :=
  Fields.ofPairs ((pairs query).map fun (k, v) => (Text.ofString k, Value.ofString v))

end Target

/-- The characters of a header value read one per byte of its UTF-8 form. -/
def latin1 (t : Text) : String := String.ofList ((Utf8.encodePassing t).map fun b => Char.ofNat b.toNat)

/-- A request from its method, target, headers and body. -/
def Request.make (method target : String) (headers : List (Text × Text)) (body : List UInt8) :
    Request :=
  let (path, query) := Target.split target
  { method := method, path := Target.unquote path, query := query,
    headers := headers.map fun (k, v) => ((latin1 k).toLower, latin1 v), body := body }

end Http

end RecipeCatalog
