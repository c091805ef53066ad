import RecipeCatalog.Catalog.Seed
import RecipeCatalog.Catalog.Failure
import RecipeCatalog.Catalog.Search
import RecipeCatalog.Catalog.Ids
import RecipeCatalog.Recipe.Check
import RecipeCatalog.Version
import RecipeCatalog.Media.Type
import RecipeCatalog.Text.Blank

/-!
# The recipe store

The store holds the recipes in the order they were added, the file of each recipe that has one,
how many ids have been drawn, and the names of the recipes created, in order, for announcement.

* `Store.create` — checks a candidate (without its id and version), draws an id, refuses a name
  or reference code that another recipe has, and adds the recipe at version 0.
* `Store.update` — reads the version token, checks the candidate, refuses a name that a recipe
  with another id has, a missing recipe and an outdated version, then overwrites every field
  but the id and the reference code and counts the version up by one.
* `Store.delete`, `Store.findById`, `Store.find` — remove, look up and search.
* `Store.saveFile`, `Store.findFile` — the one file a recipe may have, kept in a directory named
  after its id (`Store.directory`); a new file replaces every file of the directory, and its
  extension comes from the media type it was sent with.

Ids given by a caller are written as UTF-8 before they are looked up, so one holding a lone
surrogate faults.
-/

namespace RecipeCatalog

/-- A file kept for a recipe. -/
structure StoredFile where
  /-- the extension with its dot, or empty -/
  extension : String
  content : List UInt8
  deriving DecidableEq, Repr

/-- The content of the catalogue. -/
structure Store where
  recipes : List Recipe
  /-- the files kept, each with the directory that holds it -/
  files : List (String × StoredFile)
  /-- how many ids have been drawn -/
  drawn : Nat
  /-- names of the recipes created, in order -/
  notified : List String

namespace Store

/-- The store with no recipes. -/
def empty : Store := ⟨[], [], 0, []⟩

/-- The store with the sample recipes. -/
def seeded : Store := { empty with recipes := Seed.recipes }

/-- The recipe with an id. -/
def get? (s : Store) (id : String) : Option Recipe := s.recipes.find? (·.id == id)

/-- The id of the recipe with a name. -/
def ownerOfName? (s : Store) (name : String) : Option String :=
  (s.recipes.find? (·.name == name)).map (·.id)

/-- The id of the recipe with a reference code. -/
def ownerOfCode? (s : Store) (code : String) : Option String :=
  (s.recipes.find? (·.referenceCode == code)).map (·.id)

/-- Looks up the recipe with the id a caller gives. -/
def lookup (s : Store) (id : Text) : Except Fault (Option Recipe) := do
  let key ← id.utf8?
  pure (s.get? key)

/-- Adds a recipe created from a candidate; answers its id. -/
def create (s : Store) (c : Fields) : Except Fault (Except Failure String × Store) := do
  let d := (c.erase (Text.ofString "id")).erase (Text.ofString "version")
  let report ← Candidate.check d true
  if !report.isEmpty then return (.error (.invalid report), s)
  let s := { s with drawn := s.drawn + 1 }
  let r := Recipe.ofChecked d (Ids.drawn s.drawn) 0
  if let some owner := s.ownerOfName? r.name then
    return (.error (.nameExists r.name owner), s)
  if let some owner := s.ownerOfCode? r.referenceCode then
    return (.error (.referenceCodeExists r.referenceCode owner), s)
  pure (.ok r.id, { s with recipes := s.recipes ++ [r], notified := s.notified ++ [r.name] })

/-- Replaces a recipe by a candidate naming it under `id`, if the caller's version token is not
older than the stored version; answers the new version. -/
def update (s : Store) (c : Fields) (token : Option Text) :
    Except Fault (Except Failure Nat × Store) := do
  let version ← match token with
    | some t => Version.read t
    | none => pure none
  let some v := version | return (.error (.versionInvalid token), s)
  let report ← Candidate.check c false
  if !report.isEmpty then return (.error (.invalid report), s)
  let id := (Recipe.given? c .id).bind Value.string?
  let name := Recipe.string c .name
  if let some owner := s.ownerOfName? name then
    if some owner != id then return (.error (.nameExists name owner), s)
  let some key := id | return (.error (.recipeNotExists none), s)
  let some old := s.get? key | return (.error (.recipeNotExists (some (Text.ofString key))), s)
  if v < old.version then return (.error (.versionOutdated key v), s)
  let r := old.overwrite (Recipe.ofChecked c key 0)
  pure (.ok r.version, { s with recipes := s.recipes.map fun x => if x.id == key then r else x })

/-- Removes the recipe with an id; answers whether there was one. Its file stays behind but can
no longer be reached. -/
def delete (s : Store) (id : Text) : Except Fault (Bool × Store) := do
  match ← s.lookup id with
  | some r => pure (true, { s with recipes := s.recipes.filter (·.id != r.id) })
  | none => pure (false, s)

/-- The recipe with an id. -/
def findById (s : Store) (id : Text) : Except Fault (Option Recipe) := s.lookup id

/-- The recipes that meet criteria, ordered by name. -/
def find (s : Store) (q : Criteria) : Except Fault (List Recipe) := do
  q.encode
  pure ((s.recipes.filter q.admits).mergeSort fun a b => a.name ≤ b.name)

/-- The extension of a file sent with a media type: the preferred extension of the type before
any `;`, without surrounding white space; no type or an empty one counts as
`application/octet-stream`, and an unknown type gives no extension. -/
def extensionFor (mediaType : Option Text) : String :=
  let given := match mediaType with
    | some t => if t.points.isEmpty then Text.ofString Media.octetStream else t
    | none => Text.ofString Media.octetStream
  let essence := Text.strip ⟨given.points.takeWhile (· != .char ';')⟩
  match essence.toString? with
  | some s => (Media.extensionOf? s).getD ""
  | none => ""

/-- Whether a character stays in a directory name: a word character or `-`. Word characters
are the letters, the digits and `_`; every character beyond ASCII is taken for a letter. -/
def keptInDirectory (c : Char) : Bool := c.isAlphanum || c == '_' || c == '-' || 127 < c.toNat

/-- The directory of the files of the recipe with an id: the id with every other character
replaced by `_`, cut to 80 characters, without `_` at either end, or `unnamed` when nothing is
left. -/
def directory (id : String) : String :=
  let cut := (id.toList.map fun c => if keptInDirectory c then c else '_').take 80
  let trimmed := ((cut.dropWhile (· == '_')).reverse.dropWhile (· == '_')).reverse
  if trimmed.isEmpty then "unnamed" else String.ofList trimmed

/-- Keeps a file for a recipe, removing every file of its directory first; answers whether the
recipe exists. -/
def saveFile (s : Store) (id : Text) (content : List UInt8) (mediaType : Option Text) :
    Except Fault (Bool × Store) := do
  match ← s.lookup id with
  | none => pure (false, s)
  | some r =>
    let dir := directory r.id
    let file : StoredFile := ⟨extensionFor mediaType, content⟩
    pure (true, { s with files := (dir, file) :: s.files.filter (·.1 != dir) })

/-- The file of a recipe: the one file of its directory. -/
def findFile (s : Store) (id : Text) : Except Fault (Except Failure StoredFile) := do
  match ← s.lookup id with
  | none => pure (.error (.recipeNotExists (some id)))
  | some r =>
    match s.files.filter (·.1 == directory r.id) with
    | [] => pure (.error (.fileNotFound id))
    | [(_, f)] => pure (.ok f)
    | _ => pure (.error (.multipleFiles id))

end Store

namespace StoredFile

/-- The media type of a stored file, by its extension. -/
def mediaType (f : StoredFile) : String :=
  (Media.typeOf? ("file" ++ f.extension)).getD Media.octetStream

end StoredFile

end RecipeCatalog
