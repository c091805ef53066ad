import RecipeCatalog.Recipe.Report
import RecipeCatalog.Decimal.Reading
import RecipeCatalog.Calendar.Date
import RecipeCatalog.Isbn
import RecipeCatalog.Url.Parse

/-!
# Checking recipe candidates

A candidate is a JSON object that a client submits as a recipe. Each field has a rule of its
own, and a field that is absent or null passes. Checking a candidate reports, in schema order,
the fields whose values break their rules, then the keys that name no field, in input order; a
candidate holding a key with a lone surrogate is reported by one empty key alone. A field may be
required as well: missing required fields are reported after the broken ones.

Reading a number may fault: an integer too large for a double cannot be compared as one. The
price is read before the intensity, and a fault stops the check.

Main definitions: `Field.accepts`, `Candidate.schemaReport`, `Candidate.missing`,
`Candidate.check`.
-/

namespace RecipeCatalog

namespace Field

/-- Whether a number, read as a double, is finite and satisfies a bound; booleans and other
values are no numbers. -/
def numberWithin (bound : Float → Bool) : Value → Except Fault Bool
  | .int n =>
    match Double.ofInt? n with
    | some x => .ok (bound x)
    | none => .error .floatOverflow
  | .float x => .ok (x.isFinite && bound x)
  | _ => .ok false

/-- Whether text has the shape of a UUID: five groups of 8, 4, 4, 4 and 12 hexadecimal digits
joined by hyphens, and nothing else. -/
def isUuid (t : Text) : Bool :=
  let hex (p : Point) : Bool := match p with
    | .char c => c.isDigit || ('a' ≤ c && c ≤ 'f') || ('A' ≤ c && c ≤ 'F')
    | .lone _ => false
  let ps := t.points
  ps.length == 36 &&
    (List.range 36).all fun i =>
      let p := ps.getD i (.char ' ')
      if i == 8 || i == 13 || i == 18 || i == 23 then p == .char '-' else hex p

/-- Whether a name starts with an ASCII letter, digit or underscore; a name with a lone
surrogate is refused. -/
def isName (t : Text) : Bool :=
  !t.hasLone &&
    match t.points with
    | .char c :: _ => c.toNat < 0x80 && (c.isAlphanum || c == '_')
    | _ => false

/-- Whether text has the shape `dddd-dd-dd` of ASCII digits, allowing one line feed after it. -/
def isDateShaped (t : Text) : Bool :=
  let digit (p : Point) : Bool := match p with
    | .char c => c.isDigit
    | .lone _ => false
  let body := t.points.take 10
  let rest := t.points.drop 10
  body.length == 10 && (rest == [] || rest == [.char '\n']) &&
    (List.range 10).all fun i =>
      let p := body.getD i (.char ' ')
      if i == 4 || i == 7 then p == .char '-' else digit p

/-- Whether a text is a date `yyyy-MM-dd` that exists. -/
def isDate (t : Text) : Bool :=
  isDateShaped t &&
    match Date.read t with
    | .ok _ => true
    | .error _ => false

/-- Whether a reference code is an ISBN; a code that cannot be read counts as none. -/
def isReference (t : Text) : Bool :=
  match Isbn.check t with
  | .ok b => b
  | .error _ => false

/-- The rule of a field for a value that is present and not null. -/
def accepts (f : Field) (v : Value) : Except Fault Bool :=
  match f, v with
  | id, .str t => .ok (isUuid t)
  | version, .int n => .ok (0 ≤ n)
  | name, .str t => .ok (isName t)
  | difficulty, .int n => .ok (0 ≤ n && n ≤ maxDifficulty)
  | category, .str t => .ok (t.is "SNACK" || t.is "HAUPTMAHLZEIT" || t.is "")
  | preparer, .str t => .ok (t.is "STEFFEN_HENSSLER" || t.is "JOHANN_LAFER" || t.is "")
  | price, v => numberWithin (fun x => 0.0 ≤ x) v
  | intensity, v => numberWithin (fun x => 0.0 < x && x < 1.0) v
  | available, .bool _ => .ok true
  | date, .str t => .ok (isDate t)
  | referenceCode, .str t => .ok (isReference t)
  | homepage, .str t => .ok (Url.isAbsolute t)
  | ingredients, .array items => .ok (items.all fun i => match i with | .str _ => true | _ => false)
  | extras, .array items => .ok (items.all fun i => match i with | .object _ => true | _ => false)
  | _, _ => .ok false

end Field

namespace Candidate

/-- The value of a field in a candidate, if present and not null. -/
def given? (c : Fields) (f : Field) : Option Value :=
  match c.lookup f.wireName with
  | some .null => none
  | v => v

/-- The fields whose values break their rules, in schema order. -/
def broken (c : Fields) : Except Fault (List Field) :=
  Field.all.filterM fun f =>
    match given? c f with
    | none => pure false
    | some v => do return !(← f.accepts v)

/-- The keys that name no field, in input order. -/
def unknownKeys (c : Fields) : List Text :=
  (c.keys.filter fun k => (Field.ofName? k).isNone)

/-- The schema's report on a candidate. -/
def schemaReport (c : Fields) : Except Fault Report := do
  let fields ← broken c
  if c.keys.any Text.hasLone then pure (Report.empty.addUnknown (Text.ofString ""))
  else pure ((unknownKeys c).foldl Report.addUnknown (fields.foldl Report.add Report.empty))

/-- The required fields that a candidate lacks: a name, a preparer that is not empty, a price,
and on creation a reference code. -/
def missing (c : Fields) (onCreate : Bool) : List Field :=
  let absent (f : Field) : Bool := (given? c f).isNone
  let preparerGiven := match given? c .preparer with
    | some v => v.truthy
    | none => false
  (if absent .name then [Field.name] else []) ++
  (if preparerGiven then [] else [Field.preparer]) ++
  (if absent .price then [Field.price] else []) ++
  (if onCreate && absent .referenceCode then [Field.referenceCode] else [])

/-- The report on a candidate with the required fields it lacks added. -/
def check (c : Fields) (onCreate : Bool) : Except Fault Report := do
  let r ← schemaReport c
  pure ((missing c onCreate).foldl Report.add r)

end Candidate

end RecipeCatalog
