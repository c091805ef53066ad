import RecipeCatalog.Graph.Syntax
import RecipeCatalog.Json.Value

/-!
# The recipe schema

The GraphQL schema of the catalogue. Queries read recipes (`rezepte` by a name fragment,
`rezept` by id); mutations create, update and delete them. A recipe (`Rezept`) has the
recipe's fields under their wire names. Every composite type also has `__typename`, and
queries also have `__schema` and `__type`, which answer with the types that describe the schema
itself (`__Schema`, `__Type`, `__Field`, `__InputValue`, `__EnumValue`, `__Directive`).

Types are scalars, enums, object types, lists and non-null types. Scalars and enums are leaves
and input types; an object type is an output type only. The schema's only enums are the kinds
of types and the places of directives, which describe schemas.

Main definitions: `Graph.Scalar`, `Graph.GType`, `Graph.FieldDef`, `Graph.DirectiveDef`,
`Graph.Schema.fields?`, `Graph.Schema.resolve?`.
-/

namespace RecipeCatalog

namespace Graph

/-- The scalar types. -/
inductive Scalar where
  | int | float | string | boolean | id
  deriving DecidableEq, Repr

namespace Scalar

/-- The name of a scalar type. -/
def name : Scalar → String
  | int => "Int"
  | float => "Float"
  | string => "String"
  | boolean => "Boolean"
  | id => "ID"

/-- Every scalar type. -/
def all : List Scalar := [int, float, string, boolean, id]

end Scalar

/-- A type of the schema. -/
inductive GType where
  | scalar (s : Scalar)
  | enum (name : String)
  | object (name : String)
  | list (of : GType)
  | nonNull (of : GType)
  deriving DecidableEq, Repr

namespace GType

/-- The type as GraphQL writes it. -/
def render : GType → String
  | scalar s => s.name
  | enum n => n
  | object n => n
  | list t => "[" ++ t.render ++ "]"
  | nonNull t => t.render ++ "!"

/-- The type without its non-null mark. -/
def nullable : GType → GType
  | nonNull t => t
  | t => t

/-- The named type inside all lists and non-null marks. -/
def named : GType → GType
  | list t => t.named
  | nonNull t => t.named
  | t => t

/-- Whether values of the type are leaves: scalars or enum values. -/
def isLeaf (t : GType) : Bool :=
  match t.named with
  | scalar _ | enum _ => true
  | _ => false

/-- The name of the object type a type holds, if it holds one. -/
def objectName? (t : GType) : Option String :=
  match t.named with
  | object n => some n
  | _ => none

/-- Whether the type is a non-null type. -/
def isNonNull : GType → Bool
  | nonNull _ => true
  | _ => false

/-- Whether the type may be used for input: it holds a leaf. -/
def isInput (t : GType) : Bool := t.isLeaf

/-- The name of the named type inside all lists and non-null marks. -/
def namedName (t : GType) : String :=
  match t.named with
  | scalar s => s.name
  | enum n | object n => n
  | t => t.render

end GType

/-- An argument of a field or directive: its name, type, and default value if it has one. -/
structure ArgDef where
  name : String
  type : GType
  default : Option Value

namespace ArgDef

/-- Whether the argument must be given: it is non-null and has no default. -/
def isRequired (a : ArgDef) : Bool := a.type.isNonNull && a.default.isNone

end ArgDef

/-- A field of an object type: its name, type and arguments. -/
structure FieldDef where
  name : String
  type : GType
  args : List ArgDef

/-- Where a directive may stand. -/
inductive Place where
  | query | mutation | subscription | field | fragmentDefinition | fragmentSpread
  | inlineFragment | variableDefinition
  | fieldDefinition | argumentDefinition | inputFieldDefinition | enumValue | scalar
  | inputObject
  deriving DecidableEq, Repr

namespace Place

/-- How a place is named in messages. -/
def name : Place → String
  | query => "QUERY"
  | mutation => "MUTATION"
  | subscription => "SUBSCRIPTION"
  | field => "FIELD"
  | fragmentDefinition => "FRAGMENT_DEFINITION"
  | fragmentSpread => "FRAGMENT_SPREAD"
  | inlineFragment => "INLINE_FRAGMENT"
  | variableDefinition => "VARIABLE_DEFINITION"
  | fieldDefinition => "FIELD_DEFINITION"
  | argumentDefinition => "ARGUMENT_DEFINITION"
  | inputFieldDefinition => "INPUT_FIELD_DEFINITION"
  | enumValue => "ENUM_VALUE"
  | scalar => "SCALAR"
  | inputObject => "INPUT_OBJECT"

/-- Where the directives of an operation stand. -/
def ofOperation : OperationKind → Place
  | .query => query
  | .mutation => mutation
  | .subscription => subscription

end Place

/-- A directive: its name, arguments and the places it may stand. -/
structure DirectiveDef where
  name : String
  args : List ArgDef
  places : List Place

namespace Schema

/-- A nullable argument of a scalar type. -/
def optional (name : String) (s : Scalar) : ArgDef := ⟨name, .scalar s, some .null⟩

/-- A required argument of a scalar type. -/
def required (name : String) (s : Scalar) : ArgDef := ⟨name, .nonNull (.scalar s), none⟩

/-- The fields of a recipe's candidate as mutation arguments, after its name and preparer. -/
def recipeArgs : List ArgDef :=
  [optional "difficulty" .int, optional "category" .string, optional "price" .float,
   optional "intensity" .float, optional "available" .boolean, optional "date" .string,
   optional "referenceCode" .string, optional "homepage" .string,
   ⟨"ingredients", .list (.nonNull (.scalar .string)), some .null⟩]

/-- The fields of a recipe. -/
def recipeFields : List FieldDef :=
  [⟨"id", .nonNull (.scalar .id), []⟩, ⟨"version", .scalar .int, []⟩,
   ⟨"name", .nonNull (.scalar .string), []⟩, ⟨"difficulty", .scalar .int, []⟩,
   ⟨"category", .scalar .string, []⟩, ⟨"preparer", .nonNull (.scalar .string), []⟩,
   ⟨"price", .scalar .float, []⟩, ⟨"intensity", .scalar .float, []⟩,
   ⟨"available", .scalar .boolean, []⟩, ⟨"date", .scalar .string, []⟩,
   ⟨"referenceCode", .scalar .string, []⟩, ⟨"homepage", .scalar .string, []⟩,
   ⟨"ingredients", .list (.nonNull (.scalar .string)), []⟩]

/-- The fields of queries. -/
def queryFields : List FieldDef :=
  [⟨"rezepte", .nonNull (.list (.nonNull (.object "Rezept"))), [optional "name" .string]⟩,
   ⟨"rezept", .object "Rezept", [required "id" .id]⟩]

/-- The fields of mutations. -/
def mutationFields : List FieldDef :=
  [⟨"createRezept", .scalar .string,
     [required "name" .string, required "preparer" .string] ++ recipeArgs⟩,
   ⟨"updateRezept", .scalar .int,
     [required "id" .id, required "name" .string, required "preparer" .string] ++ recipeArgs ++
       [⟨"version", .nonNull (.scalar .int), some (.int 0)⟩]⟩,
   ⟨"deleteRezept", .nonNull (.scalar .boolean), [required "id" .id]⟩]

/-- The argument that asks for deprecated items too; nothing in this schema is deprecated. -/
def includeDeprecated : ArgDef := ⟨"includeDeprecated", .scalar .boolean, some (.bool false)⟩

/-- A list of a named object type, the list itself non-null or not. -/
def objects (n : String) (nonNullList : Bool) : GType :=
  let l := GType.list (.nonNull (.object n))
  if nonNullList then .nonNull l else l

/-- The fields of `__Schema`. -/
def schemaFields : List FieldDef :=
  [⟨"description", .scalar .string, []⟩, ⟨"types", objects "__Type" true, []⟩,
   ⟨"queryType", .nonNull (.object "__Type"), []⟩, ⟨"mutationType", .object "__Type", []⟩,
   ⟨"subscriptionType", .object "__Type", []⟩, ⟨"directives", objects "__Directive" true, []⟩]

/-- The fields of `__Type`. -/
def typeFields : List FieldDef :=
  [⟨"kind", .nonNull (.enum "__TypeKind"), []⟩, ⟨"name", .scalar .string, []⟩,
   ⟨"description", .scalar .string, []⟩, ⟨"specifiedByURL", .scalar .string, []⟩,
   ⟨"fields", objects "__Field" false, [includeDeprecated]⟩,
   ⟨"interfaces", objects "__Type" false, []⟩, ⟨"possibleTypes", objects "__Type" false, []⟩,
   ⟨"enumValues", objects "__EnumValue" false, [includeDeprecated]⟩,
   ⟨"inputFields", objects "__InputValue" false, [includeDeprecated]⟩,
   ⟨"ofType", .object "__Type", []⟩, ⟨"isOneOf", .scalar .boolean, []⟩]

/-- The fields of `__Field`. -/
def fieldFields : List FieldDef :=
  [⟨"name", .nonNull (.scalar .string), []⟩, ⟨"description", .scalar .string, []⟩,
   ⟨"args", objects "__InputValue" true, [includeDeprecated]⟩,
   ⟨"type", .nonNull (.object "__Type"), []⟩, ⟨"isDeprecated", .nonNull (.scalar .boolean), []⟩,
   ⟨"deprecationReason", .scalar .string, []⟩]

/-- The fields of `__InputValue`. -/
def inputValueFields : List FieldDef :=
  [⟨"name", .nonNull (.scalar .string), []⟩, ⟨"description", .scalar .string, []⟩,
   ⟨"type", .nonNull (.object "__Type"), []⟩, ⟨"defaultValue", .scalar .string, []⟩,
   ⟨"isDeprecated", .nonNull (.scalar .boolean), []⟩, ⟨"deprecationReason", .scalar .string, []⟩]

/-- The fields of `__EnumValue`. -/
def enumValueFields : List FieldDef :=
  [⟨"name", .nonNull (.scalar .string), []⟩, ⟨"description", .scalar .string, []⟩,
   ⟨"isDeprecated", .nonNull (.scalar .boolean), []⟩, ⟨"deprecationReason", .scalar .string, []⟩]

/-- The fields of `__Directive`. -/
def directiveFields : List FieldDef :=
  [⟨"name", .nonNull (.scalar .string), []⟩, ⟨"description", .scalar .string, []⟩,
   ⟨"isRepeatable", .nonNull (.scalar .boolean), []⟩,
   ⟨"locations", .nonNull (.list (.nonNull (.enum "__DirectiveLocation"))), []⟩,
   ⟨"args", objects "__InputValue" true, [includeDeprecated]⟩]

/-- The fields of an object type, without the fields every type or the query type has
besides. -/
def fields? (typeName : String) : Option (List FieldDef) :=
  match typeName with
  | "Query" => some queryFields
  | "Mutation" => some mutationFields
  | "Rezept" => some recipeFields
  | "__Schema" => some schemaFields
  | "__Type" => some typeFields
  | "__Field" => some fieldFields
  | "__InputValue" => some inputValueFields
  | "__EnumValue" => some enumValueFields
  | "__Directive" => some directiveFields
  | _ => none

/-- The field every composite type has: the name of the type. -/
def typenameField : FieldDef := ⟨"__typename", .nonNull (.scalar .string), []⟩

/-- The fields the query type has besides its own: the schema, and a type by name. -/
def queryMetaFields : List FieldDef :=
  [⟨"__schema", .nonNull (.object "__Schema"), []⟩,
   ⟨"__type", .object "__Type", [required "name" .string]⟩]

/-- The field of an object type with a name, `__typename` included, and `__schema` and
`__type` on the query type. -/
def field? (typeName fieldName : String) : Option FieldDef :=
  if fieldName == "__typename" then (fields? typeName).map fun _ => typenameField
  else if typeName == "Query" && (queryMetaFields.any (·.name == fieldName)) then
    queryMetaFields.find? (·.name == fieldName)
  else (fields? typeName).bind fun fs => fs.find? (·.name == fieldName)

/-- The object type at the root of an operation. -/
def root? : OperationKind → Option String
  | .query => some "Query"
  | .mutation => some "Mutation"
  | .subscription => none

/-- The names of the types of the schema, the types that describe schemas included, in the
order they are first reached: from the query type, field by field and each field's type before
its arguments, then from the mutation type, and last from `__Schema`. -/
def typeNames : List String :=
  ["Query", "Rezept", "ID", "Int", "String", "Float", "Boolean", "Mutation", "__Schema",
   "__Type", "__TypeKind", "__Field", "__InputValue", "__EnumValue", "__Directive",
   "__DirectiveLocation"]

/-- The names of the enum types. -/
def enumNames : List String := ["__TypeKind", "__DirectiveLocation"]

/-- The kinds of types. -/
def typeKinds : List String :=
  ["SCALAR", "OBJECT", "INTERFACE", "UNION", "ENUM", "INPUT_OBJECT", "LIST", "NON_NULL"]

/-- The places a directive of any schema may stand. -/
def directiveLocations : List String :=
  ["QUERY", "MUTATION", "SUBSCRIPTION", "FIELD", "FRAGMENT_DEFINITION", "FRAGMENT_SPREAD",
   "INLINE_FRAGMENT", "VARIABLE_DEFINITION", "SCHEMA", "SCALAR", "OBJECT", "FIELD_DEFINITION",
   "ARGUMENT_DEFINITION", "INTERFACE", "UNION", "ENUM", "ENUM_VALUE", "INPUT_OBJECT",
   "INPUT_FIELD_DEFINITION"]

/-- The values of an enum type, in order. -/
def enumValues? (n : String) : Option (List String) :=
  match n with
  | "__TypeKind" => some typeKinds
  | "__DirectiveLocation" => some directiveLocations
  | _ => none

/-- The type a name names, if the schema has it. -/
def named? (n : String) : Option GType :=
  match Scalar.all.find? (·.name == n) with
  | some s => some (.scalar s)
  | none =>
    if enumNames.contains n then some (.enum n)
    else if typeNames.contains n then some (.object n) else none

/-- The type a type reference names, if the schema has its named type. -/
def resolve? : TypeRef → Option GType
  | .named n _ => named? n
  | .list t _ => (resolve? t).map .list
  | .nonNull t _ => (resolve? t).map .nonNull

/-- The directives of the schema. -/
def directives : List DirectiveDef :=
  [⟨"include", [required "if" .boolean], [.field, .fragmentSpread, .inlineFragment]⟩,
   ⟨"skip", [required "if" .boolean], [.field, .fragmentSpread, .inlineFragment]⟩,
   ⟨"deprecated", [⟨"reason", .scalar .string, some (.ofString "No longer supported")⟩],
     [.fieldDefinition, .argumentDefinition, .inputFieldDefinition, .enumValue]⟩,
   ⟨"specifiedBy", [required "url" .string], [.scalar]⟩,
   ⟨"oneOf", [], [.inputObject]⟩]

/-- The directive with a name. -/
def directive? (n : String) : Option DirectiveDef := directives.find? (·.name == n)

end Schema

end Graph

end RecipeCatalog
