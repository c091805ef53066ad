import RecipeCatalog.Text.Point

/-!
# Recipe fields

The fields a recipe has, in their fixed order, with the names they carry on the wire and the
message that reports a value breaking a field's rule.

Main definitions: `Field`, `Field.all`, `Field.wireName`, `Field.message`, `Field.ofName?`.
-/

namespace RecipeCatalog

/-- A field of a recipe. -/
inductive Field where
  | id
  | version
  | name
  | difficulty
  | category
  | preparer
  | price
  | intensity
  | available
  | date
  | referenceCode
  | homepage
  | ingredients
  | extras
  deriving DecidableEq, Repr

namespace Field

/-- Every field, in the order of the recipe schema. -/
def all : List Field :=
  [id, version, name, difficulty, category, preparer, price, intensity, available, date,
   referenceCode, homepage, ingredients, extras]

/-- The name of a field on the wire. -/
def wireName : Field → String
  | id => "id"
  | version => "version"
  | name => "name"
  | difficulty => "difficulty"
  | category => "category"
  | preparer => "preparer"
  | price => "price"
  | intensity => "intensity"
  | available => "available"
  | date => "date"
  | referenceCode => "referenceCode"
  | homepage => "homepage"
  | ingredients => "ingredients"
  | extras => "extras"

/-- The message that reports a value breaking the rule of a field. -/
def message : Field → String
  | id => "the id is not valid."
  | version => "the version must be a non-negative integer."
  | name => "a recipe name must start with a letter, digit, or underscore."
  | difficulty => "a rating must be between 0 and 5."
  | category => "category must be one of the two allowed values (or empty)."
  | preparer => "preparer must be one of the two allowed values."
  | price => "price may not be negative."
  | intensity => "intensity must be a value between 0 and 1."
  | available => "\"available\" must be set to true or false."
  | date => "date must be in the format yyyy-MM-dd."
  | referenceCode => "the reference code is not valid."
  | homepage => "the homepage URL is not valid."
  | ingredients => "ingredients must be a list of strings."
  | extras => "extras must be a list of objects."

/-- The field a wire name names. -/
def ofName? (key : Text) : Option Field := all.find? (fun f => key.is f.wireName)

/-- The highest difficulty a recipe may have. -/
def maxDifficulty : Nat := 5

theorem mem_all (f : Field) : f ∈ all := by cases f <;> decide

theorem wireName_injective {f g : Field} (h : f.wireName = g.wireName) : f = g := by
  cases f <;> cases g <;> first | rfl | (simp [wireName] at h)

end Field

end RecipeCatalog
