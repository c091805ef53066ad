import RecipeCatalog.Graph.Schema
import RecipeCatalog.Graph.Printer
import RecipeCatalog.Graph.Validate
import RecipeCatalog.Decimal.Reading
import RecipeCatalog.Json.Writer
import RecipeCatalog.Text.Quoted

/-!
# Input values

The values a request gives an operation: the variables, sent as JSON beside the document, and
the arguments of fields and directives, written in the document. Both are coerced to the types
the schema expects. A scalar accepts only its own kind of value (an `Int` also an integral
double, an `ID` also an integer, a `Float` any number); a list type accepts a list, or a single
value as a list of one; `null` fits every nullable type.

A variable that does not fit is reported with the value it got, shown as messages show values:
`None`, `True`, numbers, quoted text, lists and objects in brackets and braces, cut short when
long or deep. A value whose conversion fails rather than being refused, an integer too large
for a double, is a fault, reported with the fault message only.

Main definitions: `Graph.Variables`, `Graph.inspect`, `Graph.coerceVariables`,
`Graph.literalValue`, `Graph.argumentValues`.
-/

namespace RecipeCatalog

namespace Graph

/-- Coerced variables by name. -/
abbrev Variables := List (String × Value)

/-- Doubles in messages: as JSON writes them, with `nan` and `inf` for the values that are not
finite numbers. -/
def shownNumber : Notation := { Json.number with nanText := "nan", infText := "inf" }

/-- The longest text a message shows of a value; longer text keeps its start and end. -/
def maxShown : Nat := 240

/-- Text cut to the longest shown, its middle replaced by an ellipsis. -/
def cutText (s : String) : String :=
  if s.length > maxShown then
    let i := (maxShown - 3) / 2
    let j := maxShown - 3 - i
    String.ofList (s.toList.take i) ++ "..." ++ String.ofList (s.toList.drop (s.length - j))
  else s

/-- A list cut to ten items: the first five, an ellipsis, and the last four. -/
def cutItems (items : List String) : List String :=
  if items.length > 10 then items.take 5 ++ ["..."] ++ items.drop (items.length - 4) else items

/-- A value as messages show it; lists and objects are shown two levels deep. -/
def inspect (depth : Nat) : Value → String
  | .null => "None"
  | .bool b => if b then "True" else "False"
  | .int n => cutText (toString n)
  | .float x => shownNumber.render x
  | .str t => cutText (Text.quoted t)
  | .array items =>
    if items.isEmpty then "[]"
    else if depth < 2 then
      "[" ++ ", ".intercalate (cutItems (items.attach.map fun ⟨v, _⟩ => inspect (depth + 1) v)) ++ "]"
    else "[...]"
  | .object fields =>
    if fields.isEmpty then "\x7b\x7d"
    else if depth < 2 then
      "\x7b" ++ ", ".intercalate (cutItems (fields.attach.map fun ⟨(k, v), _⟩ =>
        cutText (Text.quoted k) ++ ": " ++ inspect (depth + 1) v)) ++ "\x7d"
    else "\x7b...\x7d"
termination_by v => sizeOf v
decreasing_by
  all_goals simp_wf
  · have := List.sizeOf_lt_of_mem ‹_ ∈ items›
    omega
  · have := List.sizeOf_lt_of_mem ‹_ ∈ fields›
    simp at this
    omega

/-- Whether a double is an integer. -/
def isIntegral (x : Float) : Bool := x.isFinite && x.floor == x

/-- The integer a double holds, for an integral double. -/
def integralValue (x : Float) : Int :=
  match Double.decode x with
  | .finite neg m q =>
    let n : Int := if q ≥ 0 then (m * Nat.pow 2 q.toNat : Nat) else (m / Nat.pow 2 (-q).toNat : Nat)
    if neg then -n else n
  | _ => 0

/-- Whether an integer fits in 32 bits with a sign. -/
def fits32 (n : Int) : Bool := -2147483648 ≤ n && n ≤ 2147483647

/-- Why a value a variable gives cannot be coerced. -/
inductive InputError where
  /-- the scalar's own message -/
  | scalar (message : String)
  /-- a `null` where a non-null type is expected -/
  | missing (type : String)
  /-- an integer too large for a double -/
  | tooLarge

namespace InputError

/-- The message of an input error. -/
def message : InputError → String
  | scalar m => m
  | missing t => "Expected non-nullable type '" ++ t ++ "' not to be None."
  | tooLarge => "Expected type 'Float'. int too large to convert to float"

/-- Whether the error is a fault of the conversion rather than a refusal by the type: an
integer too large for a double. A fault is reported with the fault message only. -/
def isFault : InputError → Bool
  | tooLarge => true
  | _ => false

end InputError

/-- Coerces a variable's value to a scalar type. -/
def Scalar.ofInput (s : Scalar) (v : Value) : Except InputError Value :=
  let shown := inspect 0 v
  match s, v with
  | .int, .int n =>
    if fits32 n then .ok (.int n)
    else .error (.scalar ("Int cannot represent non 32-bit signed integer value: " ++ shown))
  | .int, .float x =>
    if isIntegral x then
      if fits32 (integralValue x) then .ok (.int (integralValue x))
      else .error (.scalar ("Int cannot represent non 32-bit signed integer value: " ++ shown))
    else .error (.scalar ("Int cannot represent non-integer value: " ++ shown))
  | .int, _ => .error (.scalar ("Int cannot represent non-integer value: " ++ shown))
  | .float, .int n =>
    match Double.ofInt? n with
    | some x => .ok (.float x)
    | none => .error .tooLarge
  | .float, .float x =>
    if x.isFinite then .ok (.float x)
    else .error (.scalar ("Float cannot represent non numeric value: " ++ shown))
  | .float, _ => .error (.scalar ("Float cannot represent non numeric value: " ++ shown))
  | .string, .str t => .ok (.str t)
  | .string, _ => .error (.scalar ("String cannot represent a non string value: " ++ shown))
  | .boolean, .bool b => .ok (.bool b)
  | .boolean, _ => .error (.scalar ("Boolean cannot represent a non boolean value: " ++ shown))
  | .id, .str t => .ok (.str t)
  | .id, .int n => .ok (.ofString (toString n))
  | .id, .float x =>
    if isIntegral x then .ok (.ofString (toString (integralValue x)))
    else .error (.scalar ("ID cannot represent value: " ++ shown))
  | .id, _ => .error (.scalar ("ID cannot represent value: " ++ shown))

/-- Coerces a variable's value to an enum type: only the text of one of its values fits. -/
def enumOfInput (n : String) (v : Value) : Except InputError Value :=
  let values := (Schema.enumValues? n).getD []
  let hint (s : String) : String := didYouMean (suggestions s values) "the enum value"
  match v with
  | .str t =>
    let name := (t.toString?).getD ""
    if values.contains name then .ok v
    else .error (.scalar ("Value '" ++ name ++ "' does not exist in '" ++ n ++ "' enum." ++
      hint name))
  | _ => .error (.scalar ("Enum '" ++ n ++ "' cannot represent non-string value: " ++
      inspect 0 v ++ "." ++ hint (inspect 0 v)))

/-- A problem with a variable's value: where inside the value, the part that does not fit, and
why. -/
structure Misfit where
  path : List Nat
  part : Value
  error : InputError

mutual
/-- Coerces a variable's value to a type, gathering every part that does not fit. -/
def coerceInput : GType → Value → List Nat → Except (List Misfit) Value
  | .nonNull t, v, path =>
    match v with
    | .null => .error [⟨path, v, .missing (GType.nonNull t).render⟩]
    | v => coerceInput t v path
  | _, .null, _ => .ok .null
  | .list t, .array items, path =>
    match coerceItems t items path 0 with
    | (vs, []) => .ok (.array vs)
    | (_, errors) => .error errors
  | .list t, v, path =>
    match coerceInput t v path with
    | .ok x => .ok (.array [x])
    | .error es => .error es
  | .scalar s, v, path =>
    match s.ofInput v with
    | .ok x => .ok x
    | .error e => .error [⟨path, v, e⟩]
  | .enum n, v, path =>
    match enumOfInput n v with
    | .ok x => .ok x
    | .error e => .error [⟨path, v, e⟩]
  | .object _, v, path => .error [⟨path, v, .scalar "Expected an input type."⟩]
termination_by t v => sizeOf t + sizeOf v

/-- Coerces the items of a list from index `i` on: the values, and every part that does not
fit. -/
def coerceItems (t : GType) : List Value → List Nat → Nat → List Value × List Misfit
  | [], _, _ => ([], [])
  | item :: rest, path, i =>
    let (vs, es) := coerceItems t rest path (i + 1)
    match coerceInput t item (path ++ [i]) with
    | .ok x => (x :: vs, es)
    | .error e => (vs, e ++ es)
termination_by items => sizeOf t + sizeOf items
end

/-- The value of a run of decimal digits. -/
def digitsValue (cs : List Char) : Nat := cs.foldl (fun n c => 10 * n + (c.toNat - 48)) 0

/-- The double nearest to the number a float or integer literal writes. -/
def literalDouble (t : String) : Float :=
  let (neg, cs) := match t.toList with
    | '-' :: r => (true, r)
    | cs => (false, cs)
  let whole := cs.takeWhile Char.isDigit
  let cs := cs.drop whole.length
  let (frac, cs) := match cs with
    | '.' :: r => (r.takeWhile Char.isDigit, r.dropWhile Char.isDigit)
    | cs => ([], cs)
  let expo : Int := match cs with
    | e :: r =>
      if e == 'e' || e == 'E' then
        match r with
        | '-' :: d => -(digitsValue d : Int)
        | '+' :: d => digitsValue d
        | d => digitsValue d
      else 0
    | [] => 0
  Double.ofDecimal neg (digitsValue (whole ++ frac)) (expo - frac.length)

/-- The value a literal stands for as a scalar, if the scalar accepts it. -/
def Scalar.ofLiteral (s : Scalar) (v : Literal) : Option Value :=
  match s, v with
  | .int, .int t _ => if fits32 (intValue t) then some (.int (intValue t)) else none
  | .float, .int t _ | .float, .float t _ => some (.float (literalDouble t))
  | .string, .string x _ _ => some (.ofString x)
  | .boolean, .bool b _ => some (.bool b)
  | .id, .string x _ _ => some (.ofString x)
  | .id, .int t _ => some (.ofString t)
  | _, _ => none

/-- Whether a literal is a variable that has no value. -/
def isMissing (vars : Variables) : Literal → Bool
  | .var n _ => (vars.lookup n).isNone
  | _ => false

/-- The value a literal stands for as a type, if it stands for one: a variable stands for its
value, `null` for a nullable type, a list item by item, a single value as a list of one. -/
def literalValue (vars : Variables) : GType → Literal → Option Value
  | t, .var n _ =>
    match vars.lookup n with
    | none => none
    | some .null => if t.isNonNull then none else some .null
    | some x => some x
  | .nonNull t, v =>
    match v with
    | .null _ => none
    | v => literalValue vars t v
  | _, .null _ => some .null
  | .list t, .list items _ =>
    (items.attach.mapM fun (x : {i // i ∈ items}) =>
      if isMissing vars x.1 then (if t.isNonNull then none else some .null)
      else literalValue vars t x.1).map .array
  | .list t, v => (literalValue vars t v).map fun x => .array [x]
  | .scalar s, v => s.ofLiteral v
  | .enum n, .enum name _ =>
    if ((Schema.enumValues? n).getD []).contains name then some (.ofString name) else none
  | .enum _, _ => none
  | .object _, _ => none
termination_by t v => sizeOf v + sizeOf t
decreasing_by
  all_goals simp_wf
  have := List.sizeOf_lt_of_mem x.2
  omega

/-- The most errors coercing variables reports before it stops. -/
def maxVariableErrors : Nat := 50

/-- The error a variable's misfit is reported with. -/
def misfitMessage (name : String) (m : Misfit) : String :=
  let place := if m.path.isEmpty then ""
    else " at '" ++ name ++ String.join (m.path.map fun i => "[" ++ toString i ++ "]") ++ "'"
  "Variable '$" ++ name ++ "' got invalid value " ++ inspect 0 m.part ++ place ++ "; " ++
    m.error.message

/-- Coerces one variable from the value a request gives, if it gives one; adds its value or
its errors. -/
def coerceVariable (body : Array Nat) (given : Fields) (acc : Variables × Array Error)
    (vd : VariableDef) : Variables × Array Error :=
  let (vals, errs) := acc
  let err (m : String) (at_ : Nat) : Error := ⟨m, [locate body at_], []⟩
  let notInput := err ("Variable '$" ++ vd.name ++ "' expected value of type '" ++
    vd.type.render ++ "' which cannot be used as an input type.") vd.type.start
  match Schema.resolve? vd.type with
  | none => (vals, errs.push notInput)
  | some t =>
    if !t.isInput then (vals, errs.push notInput)
    else
      match given.lookup vd.name with
      | none =>
        match vd.default with
        | some d =>
          match literalValue [] t d with
          | some v => ((vd.name, v) :: vals, errs)
          | none => (vals, errs)
        | none =>
          if t.isNonNull then
            (vals, errs.push (err ("Variable '$" ++ vd.name ++ "' of required type '" ++
              t.render ++ "' was not provided.") vd.start))
          else (vals, errs)
      | some .null =>
        if t.isNonNull then
          (vals, errs.push (err ("Variable '$" ++ vd.name ++ "' of non-null type '" ++
            t.render ++ "' must not be null.") vd.start))
        else ((vd.name, .null) :: vals, errs)
      | some v =>
        match coerceInput t v [] with
        | .ok x => ((vd.name, x) :: vals, errs)
        | .error misfits =>
          (vals, misfits.foldl (fun errs m =>
            errs.push (err (if m.error.isFault then faultMessage else misfitMessage vd.name m)
              vd.start)) errs)

/-- The variables of an operation coerced to their types from the values a request gives; a
variable not given takes its default, if it has one. Past the limit of errors, coercion stops
with an error saying so. -/
def coerceVariables (body : Array Nat) (vars : List VariableDef) (given : Fields) :
    Except (List Error) Variables :=
  let (vals, errs) := vars.foldl (coerceVariable body given) ([], #[])
  if errs.isEmpty then .ok vals.reverse
  else if errs.size > maxVariableErrors then
    .error (errs.toList.take maxVariableErrors ++
      [⟨"Too many errors processing variables, error limit reached. Execution aborted.", [], []⟩])
  else .error errs.toList

/-- The arguments of a field or directive coerced to their types. An argument not given, or
given a variable without a value, takes its default; a required one is an error, and so is a
`null` for a non-null type. -/
def argumentValues (body : Array Nat) (defs : List ArgDef) (given : List Argument)
    (vars : Variables) (nodeStart : Nat) : Except Error (List (String × Value)) :=
  let err (m : String) (at_ : Nat) : Error := ⟨m, [locate body at_], []⟩
  defs.foldlM (fun acc a =>
    match given.reverse.find? (·.name == a.name) with
    | none =>
      match a.default with
      | some d => .ok (acc ++ [(a.name, d)])
      | none =>
        if a.type.isNonNull then
          .error (err ("Argument '" ++ a.name ++ "' of required type '" ++ a.type.render ++
            "' was not provided.") nodeStart)
        else .ok acc
    | some arg =>
      let node := arg.value
      let given? : Option Bool := match node with
        | .var v _ => (vars.lookup v).map fun x => match x with
          | .null => true
          | _ => false
        | .null _ => some true
        | _ => some false
      match given?, node with
      | none, .var v s =>
        match a.default with
        | some d => .ok (acc ++ [(a.name, d)])
        | none =>
          if a.type.isNonNull then
            .error (err ("Argument '" ++ a.name ++ "' of required type '" ++ a.type.render ++
              "' was provided the variable '$" ++ v ++ "' which was not provided a runtime value.") s)
          else .ok acc
      | isNull, _ =>
        if isNull == some true && a.type.isNonNull then
          .error (err ("Argument '" ++ a.name ++ "' of non-null type '" ++ a.type.render ++
            "' must not be null.") node.start)
        else
          match literalValue vars a.type node with
          | some v => .ok (acc ++ [(a.name, v)])
          | none =>
            .error (err ("Argument '" ++ a.name ++ "' has invalid value " ++ node.render ++ ".")
              node.start)) []

end Graph

end RecipeCatalog
