import RecipeCatalog.Recipe.Field
import RecipeCatalog.Json.Value

/-!
# Validation reports

A report lists the fields whose values break their rules, each once and in the order they were
first reported, and then the keys that name no field, each once and in the order met. Written
out, every field carries its message and every unknown key the message `unknown field.`; a
report with nothing in it is a pass.

Main definitions: `Report`, `Report.add`, `Report.addUnknown`, `Report.entries`.
-/

namespace RecipeCatalog

/-- The fields and keys a validation found fault with. -/
structure Report where
  fields : List Field
  unknown : List Text
  deriving DecidableEq, Repr

namespace Report

/-- The report with nothing in it. -/
def empty : Report := ⟨[], []⟩

/-- Adds a field; a field already reported keeps its place. -/
def add (r : Report) (f : Field) : Report :=
  if r.fields.contains f then r else { r with fields := r.fields ++ [f] }

/-- Adds a key that names no field; a key already reported keeps its place. -/
def addUnknown (r : Report) (key : Text) : Report :=
  if r.unknown.contains key then r else { r with unknown := r.unknown ++ [key] }

/-- Whether the report is a pass. -/
def isEmpty (r : Report) : Bool := r.fields.isEmpty && r.unknown.isEmpty

/-- The message for a key that names no field. -/
def unknownMessage : String := "unknown field."

/-- The report written out: each field's wire name with its message, then each unknown key. -/
def entries (r : Report) : List (Text × String) :=
  r.fields.map (fun f => (Text.ofString f.wireName, f.message)) ++
  r.unknown.map (fun k => (k, unknownMessage))

/-- The report as a JSON object. -/
def toValue (r : Report) : Value :=
  .object ((r.entries).map fun (k, m) => (k, Value.ofString m))

end Report

end RecipeCatalog
