import RecipeCatalog.Text.Point

/-!
# JSON values

The values a client sends and the catalogue answers with. Integers have any size and stay apart
from floats (`2` and `2.0` are different values); floats may be infinite or not a number; text
may hold lone surrogates; object fields keep their order and carry each key once.

Main definitions: `Value`, `Fields.get?`, `Fields.set` (a repeated key keeps its first place and
takes the last value), `Value.truthy` (the emptiness test that optional fields use).
-/

namespace RecipeCatalog

/-- A JSON value. -/
inductive Value where
  | null
  | bool (b : Bool)
  | int (n : Int)
  | float (x : Float)
  | str (t : Text)
  | array (items : List Value)
  | object (fields : List (Text × Value))
  deriving Inhabited, Repr

/-- The fields of a JSON object, in order. -/
abbrev Fields := List (Text × Value)

namespace Fields

/-- The value under a key. -/
def get? (fs : Fields) (key : Text) : Option Value :=
  (fs.find? (fun p => p.1 == key)).map Prod.snd

/-- The value under a plain key. -/
def lookup (fs : Fields) (key : String) : Option Value := fs.get? (Text.ofString key)

/-- Puts a value under a key: a key already present keeps its place and takes the new value. -/
def set (fs : Fields) (key : Text) (v : Value) : Fields :=
  if fs.any (fun p => p.1 == key) then fs.map (fun p => if p.1 == key then (key, v) else p)
  else fs ++ [(key, v)]

/-- Builds fields from pairs in order, a repeated key keeping its first place and last value. -/
def ofPairs (ps : List (Text × Value)) : Fields := ps.foldl (fun acc p => acc.set p.1 p.2) []

/-- Removes a key. -/
def erase (fs : Fields) (key : Text) : Fields := fs.filter (fun p => p.1 != key)

/-- The keys in order. -/
def keys (fs : Fields) : List Text := fs.map Prod.fst

end Fields

namespace Value

/-- Whether a value counts as present where emptiness means absence: null, false, zero, the
empty text, list and object do not; a float that is not a number does. -/
def truthy : Value → Bool
  | null => false
  | bool b => b
  | int n => n != 0
  | float x => x != 0.0
  | str t => !t.points.isEmpty
  | array items => !items.isEmpty
  | object fields => !fields.isEmpty

/-- The text of a string value. -/
def text? : Value → Option Text
  | str t => some t
  | _ => none

/-- The plain text of a string value without lone surrogates. -/
def string? : Value → Option String
  | str t => t.toString?
  | _ => none

/-- Whether the value is null. -/
def isNull : Value → Bool
  | null => true
  | _ => false

/-- Plain text as a value. -/
def ofString (s : String) : Value := str (Text.ofString s)

/-- An object from plain keys. -/
def obj (fs : List (String × Value)) : Value := object (fs.map fun p => (Text.ofString p.1, p.2))

/-- The name of the kind of a value, as the catalogue's messages spell it. -/
def kindName : Value → String
  | null => "NoneType"
  | bool _ => "bool"
  | int _ => "int"
  | float _ => "float"
  | str _ => "str"
  | array _ => "list"
  | object _ => "dict"

end Value

end RecipeCatalog
