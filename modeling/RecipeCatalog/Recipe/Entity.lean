import RecipeCatalog.Recipe.Field
import RecipeCatalog.Json.Value
import RecipeCatalog.Calendar.Date

/-!
# Recipes built from unchecked candidates

An entity is a recipe built from any candidate, checked or not, with every field holding the
JSON value it was given. Building one reads the date first (a string must be an ISO date), then
requires a name, a preparer and a price key (a null value will do), and turns the ingredients
and extras into lists: an absent or empty value gives the empty list, a string its characters,
an object its keys, and a scalar cannot be listed. A candidate without an id gets a fresh one.

Writing an entity out gives its document: every field under its wire name, in schema order, the
version 0, and the date in ISO form; a date that is no calendar date is written as null when
empty and cannot be written otherwise.

Main definitions: `Entity`, `Entity.ofCandidate`, `Entity.document`.
-/

namespace RecipeCatalog

/-- The date of an entity: a calendar date, or a value that is no string, kept as it is. -/
inductive EntityDate where
  | day (d : Date)
  | other (v : Value)
  deriving Repr

/-- A recipe whose fields hold the values it was built from. -/
structure Entity where
  id : Value
  version : Nat
  name : Value
  difficulty : Value
  category : Value
  preparer : Value
  price : Value
  intensity : Value
  available : Value
  date : EntityDate
  referenceCode : Value
  homepage : Value
  ingredients : List Value
  extras : List Value
  deriving Repr

namespace Entity

/-- The elements a value lists: none for an empty value, the characters of a string, the keys
of an object, the items of an array; a number or `true` cannot be listed. -/
def listed (v : Value) : Except Fault (List Value) :=
  if !v.truthy then .ok []
  else
    match v with
    | .str t => .ok (t.points.map fun p => .str ⟨[p]⟩)
    | .array items => .ok items
    | .object fields => .ok (fields.map fun (k, _) => .str k)
    | other => .error (.notIterable other.kindName)

/-- The value of a required key; a null value is kept. -/
def required (c : Fields) (f : Field) : Except Fault Value :=
  match c.lookup f.wireName with
  | some v => .ok v
  | none => .error (.missingKey f.wireName)

/-- The value of an optional key, null when absent. -/
def optional (c : Fields) (f : Field) : Value := (c.lookup f.wireName).getD .null

/-- The date an entity takes from the value a candidate gives: a day read from text, any other
value kept as it is. -/
def dateOf : Value → Except Fault EntityDate
  | .str t => EntityDate.day <$> Date.read t
  | v => pure (EntityDate.other v)

/-- The id an entity takes: the one given unless it is null, else the fresh one. -/
def idOf (given fresh : Value) : Value :=
  match given with
  | .null => fresh
  | v => v

/-- The reference code an entity takes: the one given when it is present, else the empty text. -/
def codeOf (given : Value) : Value := if given.truthy then given else .ofString ""

/-- Builds an entity from a candidate; `fresh` is the id it gets when the candidate names none. -/
def ofCandidate (c : Fields) (fresh : Value) : Except Fault Entity := do
  let date ← dateOf (optional c .date)
  let name ← required c .name
  let preparer ← required c .preparer
  let price ← required c .price
  let ingredients ← listed (optional c .ingredients)
  let extras ← listed (optional c .extras)
  pure {
    id := idOf (optional c .id) fresh, version := 0, name, difficulty := optional c .difficulty,
    category := optional c .category, preparer, price, intensity := optional c .intensity,
    available := optional c .available, date, referenceCode := codeOf (optional c .referenceCode),
    homepage := optional c .homepage, ingredients, extras }

/-- Whether building an entity from a candidate draws a fresh id: when it names none. -/
def drawsId (c : Fields) : Bool := (optional c .id).isNull

/-- The document of a date: its ISO form, null for an empty value, a fault for any other. -/
def dateValue : EntityDate → Except Fault Value
  | .day d => .ok (.ofString d.iso)
  | .other v => if v.truthy then .error (.notADate v.kindName) else .ok .null

/-- The document of an entity: its fields under their wire names, in schema order. -/
def document (e : Entity) : Except Fault Fields := do
  let date ← dateValue e.date
  let values : List Value := [e.id, .int e.version, e.name, e.difficulty, e.category, e.preparer,
    e.price, e.intensity, e.available, date, e.referenceCode, e.homepage, .array e.ingredients,
    .array e.extras]
  pure (List.zip (Field.all.map fun f => Text.ofString f.wireName) values)

end Entity

end RecipeCatalog
