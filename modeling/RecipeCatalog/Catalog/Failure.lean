import RecipeCatalog.Recipe.Report

/-!
# Failures

A failure is the answer of an operation on the catalogue that could not be carried out for a
reason the caller can mend; it is returned, not raised.

Main definition: `Failure`.
-/

namespace RecipeCatalog

/-- Why an operation on the catalogue was not carried out. -/
inductive Failure where
  /-- the candidate breaks the rules of the fields reported -/
  | invalid (report : Report)
  /-- another recipe, with the given id, has the name -/
  | nameExists (name : String) (owner : String)
  /-- another recipe, with the given id, has the reference code -/
  | referenceCodeExists (code : String) (owner : String)
  /-- the version token carries no version -/
  | versionInvalid (token : Option Text)
  /-- the version given is older than the stored one -/
  | versionOutdated (id : String) (version : Int)
  /-- no recipe has the id, or no id was given -/
  | recipeNotExists (id : Option Text)
  /-- the recipe has no file -/
  | fileNotFound (id : Text)
  /-- more than one file is kept in the recipe's directory -/
  | multipleFiles (id : Text)
  deriving DecidableEq, Repr

end RecipeCatalog
