import RecipeCatalog.Catalog.Recipe
import RecipeCatalog.Text.Case
import RecipeCatalog.Fault

/-!
# Searching the catalogue

A search is given by criteria, a JSON object of which these keys count:

* `name`, a string of fewer than ten code points: lowered with full Unicode case mapping, it must
  be a part of the recipe's name lowered in ASCII; `%`, `_` and `/` stand for themselves. The
  database reads both texts up to their first NUL: a name is searched before its NUL, and a part
  that holds a NUL, cut there, must end the name;
* `javascript` and `typescript`: `true`, or a string that lowers to `true`, requires the
  ingredient `JAVASCRIPT` or `TYPESCRIPT`;
* `category` and `preparer`, when not null: the recipe's value must be that string; a value that
  is no string matches no recipe.

The texts a search compares are written as UTF-8 before it runs; one holding a lone surrogate
faults, the name part first. Recipes found are ordered by name.

Main definitions: `Criteria`, `Criteria.ofFields`, `Criteria.nameMatches`, `Criteria.admits`,
`Criteria.encode`.
-/

namespace RecipeCatalog

/-- A condition on a text field. -/
inductive Equals where
  /-- every value passes -/
  | any
  /-- only this text passes -/
  | text (t : Text)
  /-- no value passes -/
  | nothing
  deriving DecidableEq, Repr

namespace Equals

/-- The condition a criterion's value sets. -/
def ofValue : Option Value → Equals
  | none | some .null => .any
  | some (.str t) => .text t
  | some _ => .nothing

/-- Whether a stored value passes. -/
def admits (e : Equals) (v : Option String) : Bool :=
  match e with
  | .any => true
  | .text t => match v with
    | some s => t == Text.ofString s
    | none => false
  | .nothing => false

end Equals

/-- What a search asks for. -/
structure Criteria where
  /-- the lowered part the name must contain -/
  fragment : Option Text
  /-- ingredients that must be listed -/
  ingredients : List String
  category : Equals
  preparer : Equals
  deriving DecidableEq, Repr

namespace Criteria

/-- The longest name part (exclusive) that a search uses. -/
def maxFragment : Nat := 10

/-- Whether a criterion's value switches a flag on. -/
def isOn : Option Value → Bool
  | some (.bool true) => true
  | some (.str t) => t.lower.is "true"
  | _ => false

/-- The criteria a JSON object gives. -/
def ofFields (q : Fields) : Criteria where
  fragment := match q.lookup "name" with
    | some (.str t) => if t.length < maxFragment then some t.lower else none
    | _ => none
  ingredients :=
    (if isOn (q.lookup "javascript") then ["JAVASCRIPT"] else []) ++
    (if isOn (q.lookup "typescript") then ["TYPESCRIPT"] else [])
  category := Equals.ofValue (q.lookup "category")
  preparer := Equals.ofValue (q.lookup "preparer")

/-- The criteria that every recipe meets. -/
def all : Criteria := ⟨none, [], .any, .any⟩

/-- Whether a list of points contains another as a contiguous part. -/
def containsPart (whole part : List Point) : Bool :=
  (List.range (whole.length + 1)).any fun i => (whole.drop i).take part.length == part

/-- The points of a text as the database's string functions read them: up to the first NUL. -/
def untilNul (ps : List Point) : List Point := ps.takeWhile (· != .char '\x00')

/-- Whether a name, lowered in ASCII, matches the pattern `%part%` that a lowered name part
makes. Both are read up to their first NUL, so a name is searched before its NUL, and a part
holding a NUL loses the closing `%` with it: what comes before must end the name. -/
def nameMatches (part : Text) (name : String) : Bool :=
  let whole := untilNul (Case.asciiLowerText (Text.ofString name)).points
  if part.points.contains (.char '\x00') then (untilNul part.points).isSuffixOf whole
  else containsPart whole part.points

/-- Whether a recipe meets the criteria. -/
def admits (q : Criteria) (r : Recipe) : Bool :=
  (match q.fragment with
    | some f => nameMatches f r.name
    | none => true) &&
  q.category.admits r.category &&
  q.preparer.admits (some r.preparer) &&
  q.ingredients.all (fun i => r.ingredients.contains (Text.ofString i))

/-- The name part as the search writes it: `/` before each `%`, `_` and `/`. -/
def escaped (t : Text) : Text :=
  ⟨t.points.flatMap fun p =>
    if p == .char '%' || p == .char '_' || p == .char '/' then [.char '/', p] else [p]⟩

/-- Writes the texts of a search as UTF-8: the name part, the category, the preparer. -/
def encode (q : Criteria) : Except Fault Unit := do
  if let some f := q.fragment then
    let _ ← (escaped f).utf8?
  if let .text t := q.category then
    let _ ← t.utf8?
  if let .text t := q.preparer then
    let _ ← t.utf8?
  pure ()

end Criteria

end RecipeCatalog
