import WorldQuery.Schema.Build

/-!
# The schema about itself

A schema can be queried like any other data. The types that describe it are object types and
enumerations with names that begin with two underscores; `MetaNode.part` gives the parts of a
described item.
-/

namespace WorldQuery

structure DirectiveDef where
  name : String
  description : String
  locations : List String
  args : List ArgDef
  deriving DecidableEq, Repr

namespace DirectiveDef

/-- The type of a truth value that has to be given. -/
def condition : TypeExpr := .nonNull (.named Scalar.boolean.name)

/-- Places of a query document where fields and fragments stand. -/
def executableLocations : List String := ["FIELD", "FRAGMENT_SPREAD", "INLINE_FRAGMENT"]

def includeDef : DirectiveDef where
  name := "include"
  description :=
    "Directs the executor to include this field or fragment only when the `if` argument is true."
  locations := executableLocations
  args := [⟨"if", condition, "Included when true.", none⟩]

def skipDef : DirectiveDef where
  name := "skip"
  description :=
    "Directs the executor to skip this field or fragment when the `if` argument is true."
  locations := executableLocations
  args := [⟨"if", condition, "Skipped when true.", none⟩]

def deprecatedDef : DirectiveDef where
  name := "deprecated"
  description := "Marks an element of a GraphQL schema as no longer supported."
  locations :=
    ["FIELD_DEFINITION", "ARGUMENT_DEFINITION", "INPUT_FIELD_DEFINITION", "ENUM_VALUE",
      "DIRECTIVE_DEFINITION"]
  args :=
    [⟨"reason", .named Scalar.string.name,
      "Explains why this element was deprecated, usually also including a suggestion for how to access supported similar data.",
      some "\"No longer supported\""⟩]

def specifiedByDef : DirectiveDef where
  name := "specifiedBy"
  description := "Exposes a URL that specifies the behavior of this scalar."
  locations := ["SCALAR"]
  args :=
    [⟨"url", .nonNull (.named Scalar.string.name),
      "The URL that specifies the behavior of this scalar.", none⟩]

def oneOfDef : DirectiveDef where
  name := "oneOf"
  description :=
    "Indicates exactly one field must be supplied and this field must not be `null`."
  locations := ["INPUT_OBJECT"]
  args := []

def all : List DirectiveDef := [includeDef, skipDef, deprecatedDef, specifiedByDef, oneOfDef]

end DirectiveDef

namespace Meta

def stringType : TypeExpr := .named Scalar.string.name

def booleanType : TypeExpr := .named Scalar.boolean.name

/-- A list of items that are all there. -/
def listOf (name : String) : TypeExpr := .list (.nonNull (.named name))

/-- The argument that asks for deprecated items; there are none. -/
def includeDeprecated : ArgDef := ⟨"includeDeprecated", booleanType, "", some "false"⟩

/-- The same argument where it must not be null. -/
def includeDeprecatedAlways : ArgDef :=
  ⟨"includeDeprecated", .nonNull booleanType, "", some "false"⟩

def partDef (name : String) (type : TypeExpr) (description : String) : FieldDef :=
  ⟨name, type, [], description, .introspection name⟩

/-- A part that can be asked for with its deprecated items. -/
def listDef (name : String) (type : TypeExpr) : FieldDef :=
  ⟨name, type, [includeDeprecated], "", .introspection name⟩

def schemaType : TypeDef :=
  .object "__Schema"
    "A GraphQL Schema defines the capabilities of a GraphQL server. It exposes all available types and directives on the server, as well as the entry points for query, mutation, and subscription operations."
    [partDef "description" stringType "",
      partDef "types" (.nonNull (listOf "__Type")) "A list of all types supported by this server.",
      partDef "queryType" (.nonNull (.named "__Type"))
        "The type that query operations will be rooted at.",
      partDef "mutationType" (.named "__Type")
        "If this server supports mutation, the type that mutation operations will be rooted at.",
      partDef "subscriptionType" (.named "__Type")
        "If this server supports subscription, the type that subscription operations will be rooted at.",
      ⟨"directives", .nonNull (listOf "__Directive"), [includeDeprecatedAlways],
        "A list of all directives supported by this server.", .introspection "directives"⟩]

def typeType : TypeDef :=
  .object "__Type"
    "The fundamental unit of any GraphQL Schema is the type. There are many kinds of types in GraphQL as represented by the `__TypeKind` enum.\n\nDepending on the kind of a type, certain fields describe information about that type. Scalar types provide no information beyond a name, description and optional `specifiedByURL`, while Enum types provide their values. Object and Interface types provide the fields they describe. Abstract types, Union and Interface, provide the Object types possible at runtime. List and NonNull types compose other types."
    [partDef "kind" (.nonNull (.named "__TypeKind")) "",
      partDef "name" stringType "",
      partDef "description" stringType "",
      partDef "specifiedByURL" stringType "",
      listDef "fields" (listOf "__Field"),
      partDef "interfaces" (listOf "__Type") "",
      partDef "possibleTypes" (listOf "__Type") "",
      listDef "enumValues" (listOf "__EnumValue"),
      listDef "inputFields" (listOf "__InputValue"),
      partDef "ofType" (.named "__Type") "",
      partDef "isOneOf" booleanType ""]

def kindType : TypeDef :=
  .enum "__TypeKind" "An enum describing what kind of type a given `__Type` is."
    [("SCALAR", "Indicates this type is a scalar."),
      ("OBJECT", "Indicates this type is an object. `fields` and `interfaces` are valid fields."),
      ("INTERFACE",
        "Indicates this type is an interface. `fields`, `interfaces`, and `possibleTypes` are valid fields."),
      ("UNION", "Indicates this type is a union. `possibleTypes` is a valid field."),
      ("ENUM", "Indicates this type is an enum. `enumValues` is a valid field."),
      ("INPUT_OBJECT",
        "Indicates this type is an input object. `inputFields` is a valid field."),
      ("LIST", "Indicates this type is a list. `ofType` is a valid field."),
      ("NON_NULL", "Indicates this type is a non-null. `ofType` is a valid field.")]

def fieldType : TypeDef :=
  .object "__Field"
    "Object and Interface types are described by a list of Fields, each of which has a name, potentially a list of arguments, and a return type."
    [partDef "name" (.nonNull stringType) "",
      partDef "description" stringType "",
      listDef "args" (.nonNull (listOf "__InputValue")),
      partDef "type" (.nonNull (.named "__Type")) "",
      partDef "isDeprecated" (.nonNull booleanType) "",
      partDef "deprecationReason" stringType ""]

def inputValueType : TypeDef :=
  .object "__InputValue"
    "Arguments provided to Fields or Directives and the input fields of an InputObject are represented as Input Values which describe their type and optionally a default value."
    [partDef "name" (.nonNull stringType) "",
      partDef "description" stringType "",
      partDef "type" (.nonNull (.named "__Type")) "",
      partDef "defaultValue" stringType
        "A GraphQL-formatted string representing the default value for this input value.",
      partDef "isDeprecated" (.nonNull booleanType) "",
      partDef "deprecationReason" stringType ""]

def enumValueType : TypeDef :=
  .object "__EnumValue"
    "One possible value for a given Enum. Enum values are unique values, not a placeholder for a string or numeric value. However an Enum value is returned in a JSON response as a string."
    [partDef "name" (.nonNull stringType) "",
      partDef "description" stringType "",
      partDef "isDeprecated" (.nonNull booleanType) "",
      partDef "deprecationReason" stringType ""]

def directiveType : TypeDef :=
  .object "__Directive"
    "A Directive provides a way to describe alternate runtime execution and type validation behavior in a GraphQL document.\n\nIn some cases, you need to provide options to alter GraphQL's execution behavior in ways field arguments will not suffice, such as conditionally including or skipping a field. Directives provide this by describing additional information to the executor."
    [partDef "name" (.nonNull stringType) "",
      partDef "description" stringType "",
      partDef "isRepeatable" (.nonNull booleanType) "",
      partDef "locations" (.nonNull (listOf "__DirectiveLocation")) "",
      listDef "args" (.nonNull (listOf "__InputValue")),
      partDef "isDeprecated" (.nonNull booleanType) "",
      partDef "deprecationReason" stringType ""]

def locationType : TypeDef :=
  .enum "__DirectiveLocation"
    "A Directive can be adjacent to many parts of the GraphQL language, a __DirectiveLocation describes one such possible adjacencies."
    [("QUERY", "Location adjacent to a query operation."),
      ("MUTATION", "Location adjacent to a mutation operation."),
      ("SUBSCRIPTION", "Location adjacent to a subscription operation."),
      ("FIELD", "Location adjacent to a field."),
      ("FRAGMENT_DEFINITION", "Location adjacent to a fragment definition."),
      ("FRAGMENT_SPREAD", "Location adjacent to a fragment spread."),
      ("INLINE_FRAGMENT", "Location adjacent to an inline fragment."),
      ("VARIABLE_DEFINITION", "Location adjacent to a variable definition."),
      ("SCHEMA", "Location adjacent to a schema definition."),
      ("SCALAR", "Location adjacent to a scalar definition."),
      ("OBJECT", "Location adjacent to an object type definition."),
      ("FIELD_DEFINITION", "Location adjacent to a field definition."),
      ("ARGUMENT_DEFINITION", "Location adjacent to an argument definition."),
      ("INTERFACE", "Location adjacent to an interface definition."),
      ("UNION", "Location adjacent to a union definition."),
      ("ENUM", "Location adjacent to an enum definition."),
      ("ENUM_VALUE", "Location adjacent to an enum value definition."),
      ("INPUT_OBJECT", "Location adjacent to an input object type definition."),
      ("INPUT_FIELD_DEFINITION", "Location adjacent to an input object field definition."),
      ("DIRECTIVE_DEFINITION", "Location adjacent to a directive definition.")]

/-- The types that describe a schema, in the order in which they mention each other. -/
def types : List TypeDef :=
  [schemaType, typeType, kindType, fieldType, inputValueType, enumValueType, directiveType,
    locationType]

/-- The root field for the schema as a whole. -/
def schemaField : FieldDef :=
  ⟨"__schema", .nonNull (.named "__Schema"), [], "Access the current type schema of this server.",
    .introspection "__schema"⟩

/-- The root field for a type by name. -/
def typeField : FieldDef :=
  ⟨"__type", .named "__Type", [⟨"name", .nonNull stringType, "", none⟩],
    "Request the type information of a single type.", .introspection "__type"⟩

/-- The field of every object for the name of its type. -/
def typeNameField : FieldDef :=
  ⟨"__typename", .nonNull stringType, [], "The name of the current Object type at runtime.",
    .introspection "__typename"⟩

end Meta

namespace Schema

def allTypes (s : Schema) : List TypeDef := s.types ++ Meta.types

/-- The type of a name among all types. -/
def lookup (s : Schema) (name : String) : Option TypeDef := s.allTypes.find? (·.name == name)

/-- The field of a name that a type answers, the fields about the schema included. -/
def field? (t : TypeDef) (name : String) : Option FieldDef :=
  if name = Meta.schemaField.name ∧ t.name = queryType then some Meta.schemaField
  else if name = Meta.typeField.name ∧ t.name = queryType then some Meta.typeField
  else if name = Meta.typeNameField.name ∧ t.isComposite then some Meta.typeNameField
  else t.field? name

/-- The object types that a composite type stands for. -/
def possible (t : TypeDef) : List String :=
  match t with
  | .object name _ _ => [name]
  | .union _ members => members
  | _ => []

end Schema

/-- An item that the schema describes. -/
inductive MetaNode where
  | schema
  | type (t : TypeExpr)
  | field (f : FieldDef)
  | input (a : ArgDef)
  | enumValue (name description : String)
  | directive (d : DirectiveDef)
  deriving DecidableEq, Repr

inductive MetaValue where
  | nothing
  | text (s : String)
  | flag (b : Bool)
  | words (ws : List String)
  | node (n : MetaNode)
  | nodes (ns : List MetaNode)
  deriving Repr

namespace MetaNode

/-- A text that is left out when empty. -/
def optional (s : String) : MetaValue := if s = "" then .nothing else .text s

def kindWord : TypeDef → String
  | .scalar _ _ => "SCALAR"
  | .object _ _ _ => "OBJECT"
  | .union _ _ => "UNION"
  | .enum _ _ _ => "ENUM"

def namedNode (name : String) : MetaNode := .type (.named name)

def namedPart (t : TypeDef) (part : String) : MetaValue :=
  match part with
  | "kind" => .text (kindWord t)
  | "name" => .text t.name
  | "description" => optional t.description
  | "fields" => if t.isObject then .nodes (t.fields.map .field) else .nothing
  | "interfaces" => if t.isObject then .nodes [] else .nothing
  | "possibleTypes" =>
    match t with
    | .union _ members => .nodes (members.map namedNode)
    | _ => .nothing
  | "enumValues" =>
    match t with
    | .enum _ _ values => .nodes (values.map fun (name, text) => .enumValue name text)
    | _ => .nothing
  | _ => .nothing

def typePart (s : Schema) (t : TypeExpr) (part : String) : MetaValue :=
  match t with
  | .named name => ((s.lookup name).map (namedPart · part)).getD .nothing
  | .list item =>
    match part with
    | "kind" => .text "LIST"
    | "ofType" => .node (.type item)
    | _ => .nothing
  | .nonNull inner =>
    match part with
    | "kind" => .text "NON_NULL"
    | "ofType" => .node (.type inner)
    | _ => .nothing

/-- A part of a described item. Nothing is deprecated. -/
def part (s : Schema) (n : MetaNode) (part : String) : MetaValue :=
  match n with
  | .schema =>
    match part with
    | "types" => .nodes (s.allTypes.map fun t => namedNode t.name)
    | "queryType" => .node (namedNode queryType)
    | "directives" => .nodes (DirectiveDef.all.map .directive)
    | _ => .nothing
  | .type t => typePart s t part
  | .field f =>
    match part with
    | "name" => .text f.name
    | "description" => optional f.description
    | "args" => .nodes (f.args.map .input)
    | "type" => .node (.type f.type)
    | "isDeprecated" => .flag false
    | _ => .nothing
  | .input a =>
    match part with
    | "name" => .text a.name
    | "description" => optional a.description
    | "type" => .node (.type a.type)
    | "defaultValue" => (a.default?.map MetaValue.text).getD .nothing
    | "isDeprecated" => .flag false
    | _ => .nothing
  | .enumValue name description =>
    match part with
    | "name" => .text name
    | "description" => optional description
    | "isDeprecated" => .flag false
    | _ => .nothing
  | .directive d =>
    match part with
    | "name" => .text d.name
    | "description" => optional d.description
    | "isRepeatable" => .flag false
    | "locations" => .words d.locations
    | "args" => .nodes (d.args.map .input)
    | "isDeprecated" => .flag false
    | _ => .nothing

end MetaNode

end WorldQuery
