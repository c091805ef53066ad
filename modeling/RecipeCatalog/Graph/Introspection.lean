import RecipeCatalog.Graph.Schema
import RecipeCatalog.Graph.Printer
import RecipeCatalog.Json.Writer

/-!
# The schema describing itself

A query may ask for the schema itself: `__schema` answers with the whole schema and
`__type(name:)` with one of its types. The answer is made of parts of the schema, each seen as
an object of one of the types that describe schemas:

* the schema (`__Schema`): its types in the order they are first reached, its query and
  mutation types, and its directives;
* a type (`__Type`): its kind, name and description, and what its kind has: the fields of an
  object type (which has no interfaces), the values of an enum, the type inside a list or a
  non-null type;
* a field (`__Field`), an argument (`__InputValue`), an enum value (`__EnumValue`) and a
  directive (`__Directive`), each with its name, its description and what it holds.

Nothing in the schema is deprecated, so asking for deprecated items too changes nothing. The
recipe type and the two queries carry descriptions of their own; the scalars, the directives
and the types that describe schemas carry the standard ones; the rest carry none.

Main definitions: `Graph.Described`, `Graph.Answer`, `Graph.Described.typeName`,
`Graph.Described.field?`.
-/

namespace RecipeCatalog

namespace Graph

/-- A part of the schema as the types that describe schemas show it. -/
inductive Described where
  /-- the schema as a whole -/
  | schema
  /-- a type: a named type, or a list or non-null type -/
  | type (t : GType)
  /-- a field of an object type -/
  | field (owner : String) (f : FieldDef)
  /-- an argument of a field or directive, with its description -/
  | argument (description : Option String) (a : ArgDef)
  /-- a value of an enum type, with its description -/
  | enumValue (name : String) (description : Option String)
  /-- a directive -/
  | directive (d : DirectiveDef)

/-- What a field of a described part answers: a leaf value (`null` included), one part, or a
list of parts. -/
inductive Answer where
  | leaf (v : Value)
  | part (d : Described)
  | parts (ds : List Described)

namespace Answer

/-- Text, or `null` when there is none. -/
def text? (s : Option String) : Answer := .leaf ((s.map Value.ofString).getD .null)

end Answer

namespace Describe

/-- The standard description of a scalar type. -/
def scalar : Scalar → String
  | .int => "The `Int` scalar type represents non-fractional signed whole numeric values. " ++
      "Int can represent values between -(2^31) and 2^31 - 1."
  | .float => "The `Float` scalar type represents signed double-precision fractional values " ++
      "as specified by [IEEE 754](https://en.wikipedia.org/wiki/IEEE_floating_point)."
  | .string => "The `String` scalar type represents textual data, represented as UTF-8 " ++
      "character sequences. The String type is most often used by GraphQL to represent " ++
      "free-form human-readable text."
  | .boolean => "The `Boolean` scalar type represents `true` or `false`."
  | .id => "The `ID` scalar type represents a unique identifier, often used to refetch an " ++
      "object or as key for a cache. The ID type appears in a JSON response as a String; " ++
      "however, it is not intended to be human-readable. When expected as an input type, " ++
      "any string (such as `\"4\"`) or integer (such as `4`) input value will be accepted " ++
      "as an ID."

/-- The description of a named type, if it has one. -/
def namedType (n : String) : Option String :=
  match n with
  | "Rezept" => some "A recipe as sent to clients"
  | "__Schema" => some ("A GraphQL Schema defines the capabilities of a GraphQL server. It " ++
      "exposes all available types and directives on the server, as well as the entry points " ++
      "for query, mutation, and subscription operations.")
  | "__Type" => some ("The fundamental unit of any GraphQL Schema is the type. There are " ++
      "many kinds of types in GraphQL as represented by the `__TypeKind` enum.\n\nDepending " ++
      "on the kind of a type, certain fields describe information about that type. Scalar " ++
      "types provide no information beyond a name, description and optional " ++
      "`specifiedByURL`, while Enum types provide their values. Object and Interface types " ++
      "provide the fields they describe. Abstract types, Union and Interface, provide the " ++
      "Object types possible at runtime. List and NonNull types compose other types.")
  | "__TypeKind" => some "An enum describing what kind of type a given `__Type` is."
  | "__Field" => some ("Object and Interface types are described by a list of Fields, each " ++
      "of which has a name, potentially a list of arguments, and a return type.")
  | "__InputValue" => some ("Arguments provided to Fields or Directives and the input fields " ++
      "of an InputObject are represented as Input Values which describe their type and " ++
      "optionally a default value.")
  | "__EnumValue" => some ("One possible value for a given Enum. Enum values are unique " ++
      "values, not a placeholder for a string or numeric value. However an Enum value is " ++
      "returned in a JSON response as a string.")
  | "__Directive" => some ("A Directive provides a way to describe alternate runtime " ++
      "execution and type validation behavior in a GraphQL document.\n\nIn some cases, you " ++
      "need to provide options to alter GraphQL's execution behavior in ways field arguments " ++
      "will not suffice, such as conditionally including or skipping a field. Directives " ++
      "provide this by describing additional information to the executor.")
  | "__DirectiveLocation" => some ("A Directive can be adjacent to many parts of the GraphQL " ++
      "language, a __DirectiveLocation describes one such possible adjacencies.")
  | _ => none

/-- The description of a type: a scalar's standard one, a named type's own; list and non-null
types have none. -/
def type : GType → Option String
  | .scalar s => some (scalar s)
  | .enum n | .object n => namedType n
  | _ => none

/-- The description of a field of an object type, if it has one. -/
def field (owner name : String) : Option String :=
  match owner, name with
  | "Query", "rezepte" => some "Recipes whose name contains the given fragment"
  | "Query", "rezept" => some "A single recipe by its id"
  | "__Schema", "types" => some "A list of all types supported by this server."
  | "__Schema", "queryType" => some "The type that query operations will be rooted at."
  | "__Schema", "mutationType" =>
    some "If this server supports mutation, the type that mutation operations will be rooted at."
  | "__Schema", "subscriptionType" => some ("If this server support subscription, the type " ++
      "that subscription operations will be rooted at.")
  | "__Schema", "directives" => some "A list of all directives supported by this server."
  | "__InputValue", "defaultValue" =>
    some "A GraphQL-formatted string representing the default value for this input value."
  | _, _ => none

/-- The description of a directive, if it has one. -/
def directive (name : String) : Option String :=
  match name with
  | "include" => some ("Directs the executor to include this field or fragment only when the " ++
      "`if` argument is true.")
  | "skip" => some "Directs the executor to skip this field or fragment when the `if` argument is true."
  | "deprecated" => some "Marks an element of a GraphQL schema as no longer supported."
  | "specifiedBy" => some "Exposes a URL that specifies the behavior of this scalar."
  | "oneOf" => some "Indicates exactly one field must be supplied and this field must not be `null`."
  | _ => none

/-- The description of an argument of a directive, if it has one. -/
def directiveArgument (directive name : String) : Option String :=
  match directive, name with
  | "include", "if" => some "Included when true."
  | "skip", "if" => some "Skipped when true."
  | "deprecated", "reason" => some ("Explains why this element was deprecated, usually also " ++
      "including a suggestion for how to access supported similar data. Formatted using the " ++
      "Markdown syntax, as specified by [CommonMark](https://commonmark.org/).")
  | "specifiedBy", "url" => some "The URL that specifies the behavior of this scalar."
  | _, _ => none

/-- The description of a kind of type. -/
def typeKind (kind : String) : Option String :=
  match kind with
  | "SCALAR" => some "Indicates this type is a scalar."
  | "OBJECT" => some "Indicates this type is an object. `fields` and `interfaces` are valid fields."
  | "INTERFACE" => some ("Indicates this type is an interface. `fields`, `interfaces`, and " ++
      "`possibleTypes` are valid fields.")
  | "UNION" => some "Indicates this type is a union. `possibleTypes` is a valid field."
  | "ENUM" => some "Indicates this type is an enum. `enumValues` is a valid field."
  | "INPUT_OBJECT" => some "Indicates this type is an input object. `inputFields` is a valid field."
  | "LIST" => some "Indicates this type is a list. `ofType` is a valid field."
  | "NON_NULL" => some "Indicates this type is a non-null. `ofType` is a valid field."
  | _ => none

/-- What a place of directives is adjacent to. -/
def locationTarget (place : String) : Option String :=
  match place with
  | "QUERY" => some "a query operation"
  | "MUTATION" => some "a mutation operation"
  | "SUBSCRIPTION" => some "a subscription operation"
  | "FIELD" => some "a field"
  | "FRAGMENT_DEFINITION" => some "a fragment definition"
  | "FRAGMENT_SPREAD" => some "a fragment spread"
  | "INLINE_FRAGMENT" => some "an inline fragment"
  | "VARIABLE_DEFINITION" => some "a variable definition"
  | "SCHEMA" => some "a schema definition"
  | "SCALAR" => some "a scalar definition"
  | "OBJECT" => some "an object type definition"
  | "FIELD_DEFINITION" => some "a field definition"
  | "ARGUMENT_DEFINITION" => some "an argument definition"
  | "INTERFACE" => some "an interface definition"
  | "UNION" => some "a union definition"
  | "ENUM" => some "an enum definition"
  | "ENUM_VALUE" => some "an enum value definition"
  | "INPUT_OBJECT" => some "an input object type definition"
  | "INPUT_FIELD_DEFINITION" => some "an input object field definition"
  | _ => none

/-- The description of a value of an enum type, if it has one. -/
def enumValue (enum name : String) : Option String :=
  match enum with
  | "__TypeKind" => typeKind name
  | "__DirectiveLocation" => (locationTarget name).map fun t => "Location adjacent to " ++ t ++ "."
  | _ => none

end Describe

/-- The kind of a type. -/
def GType.kind : GType → String
  | .scalar _ => "SCALAR"
  | .enum _ => "ENUM"
  | .object _ => "OBJECT"
  | .list _ => "LIST"
  | .nonNull _ => "NON_NULL"

/-- The name of a type; list and non-null types have none. -/
def GType.name? : GType → Option String
  | .scalar s => some s.name
  | .enum n | .object n => some n
  | _ => none

/-- A default value as a GraphQL literal: `null`, a boolean, an integer or quoted text; the
defaults of this schema are of these kinds only, and any other value is written as JSON. -/
def defaultText : Value → String
  | .null => "null"
  | .bool b => if b then "true" else "false"
  | .int n => toString n
  | .str t => quoteString ((t.toString?).getD "")
  | v => v.render

namespace Described

/-- The type that describes a part. -/
def typeName : Described → String
  | schema => "__Schema"
  | type _ => "__Type"
  | field _ _ => "__Field"
  | argument _ _ => "__InputValue"
  | enumValue _ _ => "__EnumValue"
  | directive _ => "__Directive"

/-- The types of the schema, in the order they are first reached. -/
def types : List Described :=
  Schema.typeNames.filterMap fun n => (Schema.named? n).map type

/-- A field of the schema as a whole. -/
def ofSchema (name : String) : Answer :=
  match name with
  | "types" => .parts types
  | "queryType" => .part (type (.object "Query"))
  | "mutationType" => .part (type (.object "Mutation"))
  | "directives" => .parts (Schema.directives.map directive)
  | _ => .leaf .null

/-- A field of a type. -/
def ofType (t : GType) (name : String) : Answer :=
  match name, t with
  | "kind", t => .leaf (.ofString t.kind)
  | "name", t => .text? t.name?
  | "description", t => .text? (Describe.type t)
  | "fields", .object n => .parts (((Schema.fields? n).getD []).map (field n))
  | "interfaces", .object _ => .parts []
  | "enumValues", .enum n =>
    .parts (((Schema.enumValues? n).getD []).map fun v => enumValue v (Describe.enumValue n v))
  | "ofType", .list u | "ofType", .nonNull u => .part (type u)
  | _, _ => .leaf .null

/-- A field of a field of an object type. -/
def ofField (owner : String) (f : FieldDef) (name : String) : Answer :=
  match name with
  | "name" => .leaf (.ofString f.name)
  | "description" => .text? (Describe.field owner f.name)
  | "args" => .parts (f.args.map (argument none))
  | "type" => .part (type f.type)
  | "isDeprecated" => .leaf (.bool false)
  | _ => .leaf .null

/-- A field of an argument. -/
def ofArgument (description : Option String) (a : ArgDef) (name : String) : Answer :=
  match name with
  | "name" => .leaf (.ofString a.name)
  | "description" => .text? description
  | "type" => .part (type a.type)
  | "defaultValue" => .text? (a.default.map defaultText)
  | "isDeprecated" => .leaf (.bool false)
  | _ => .leaf .null

/-- A field of a value of an enum type. -/
def ofEnumValue (value : String) (description : Option String) (name : String) : Answer :=
  match name with
  | "name" => .leaf (.ofString value)
  | "description" => .text? description
  | "isDeprecated" => .leaf (.bool false)
  | _ => .leaf .null

/-- A field of a directive. -/
def ofDirective (d : DirectiveDef) (name : String) : Answer :=
  match name with
  | "name" => .leaf (.ofString d.name)
  | "description" => .text? (Describe.directive d.name)
  | "isRepeatable" => .leaf (.bool false)
  | "locations" => .leaf (.array (d.places.map fun p => .ofString p.name))
  | "args" => .parts (d.args.map fun a => argument (Describe.directiveArgument d.name a.name) a)
  | _ => .leaf .null

/-- What a field of a described part answers. -/
def field? (d : Described) (name : String) : Answer :=
  match d with
  | schema => ofSchema name
  | type t => ofType t name
  | field owner f => ofField owner f name
  | argument description a => ofArgument description a name
  | enumValue value description => ofEnumValue value description name
  | directive dd => ofDirective dd name

end Described

end Graph

end RecipeCatalog
