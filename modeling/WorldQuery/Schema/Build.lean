import WorldQuery.Discovery
import WorldQuery.Schema.Basic

/-!
# Building schemas

Objects are registered one after another and then assembled: a type for every object, its unions,
and the root from the fields that the objects add to it. A clash of names or an unknown type makes
the build fail; so does a name that the schema language does not allow, or a type without fields.
`Schema.build` does not drop a type or a root field; of two nested fields of one name the later one
stands.
-/

namespace WorldQuery

open Text

inductive NameFault where
  | empty
  | badPart (name : String)
  | badStart (name : String)
  deriving DecidableEq, Repr

def NameFault.message : NameFault → String
  | .empty => "Expected name to be a non-empty string."
  | .badPart name => "Names must only contain [_a-zA-Z0-9] but " ++ quote name ++ " does not."
  | .badStart name => "Names must start with [_a-zA-Z] but " ++ quote name ++ " does not."

/-- Checks a name: the characters after the first one are looked at before it. -/
def checkName (name : String) : Except NameFault Unit :=
  match name.toList with
  | [] => .error .empty
  | c :: rest =>
    if !rest.all Layout.isNamePart then .error (.badPart name)
    else if !Layout.isNameStart c then .error (.badStart name)
    else .ok ()

/-- What the schema language forbids of a schema that could otherwise be built. -/
inductive Violation where
  | reservedName (name : String)
  | noFields (type : String)
  | noMembers (union : String)
  | repeatedMember (union member : String)
  deriving DecidableEq, Repr

def Violation.message : Violation → String
  | .reservedName name =>
    "Name " ++ quote name ++
      " must not begin with '__', which is reserved by GraphQL introspection."
  | .noFields type => "Type " ++ type ++ " must define one or more fields."
  | .noMembers union => "Union type " ++ union ++ " must define one or more member types."
  | .repeatedMember union member =>
    "Union type " ++ union ++ " can only include type " ++ member ++ " once."

inductive PartFault where
  | name (fault : NameFault)
  /-- An argument has a type that only outputs can have. -/
  | outputArgument
  deriving DecidableEq, Repr

def PartFault.message : PartFault → String
  | .name fault => fault.message
  | .outputArgument => "Argument type must be a GraphQL input type."

inductive BuildFault where
  | invalidTypeName (name : String) (fault : NameFault)
  | typeTaken (name : String)
  | unionTaken (name : String)
  | unknownMember (union member : String)
  | definedTwice (type field : String)
  | unknownType (type field name : String)
  | rootDefinedTwice (field : String)
  | noRoot
  /-- A name that the schema language keeps for itself. -/
  | reserved (name : String)
  | part (fault : PartFault)
  /-- A fault in the nested fields of a type. -/
  | fields (type : String) (fault : PartFault)
  | repeatedType (name : String)
  | invalid (violations : List Violation)
  deriving DecidableEq, Repr

def BuildFault.message : BuildFault → String
  | .invalidTypeName name fault => "Invalid type name " ++ quote name ++ ": " ++ fault.message
  | .typeTaken name => "Type name '" ++ name ++ "' is already registered"
  | .unionTaken name => "Union name '" ++ name ++ "' collides with a type"
  | .unknownMember union member =>
    "Union '" ++ union ++ "' member '" ++ member ++ "' is not a registered object"
  | .definedTwice type field => type ++ "." ++ field ++ " is defined twice"
  | .unknownType type field name =>
    type ++ "." ++ field ++ " references unknown type '" ++ name ++ "'"
  | .rootDefinedTwice field => "Root field '" ++ field ++ "' is defined twice"
  | .noRoot => "No root resolvers registered"
  | .reserved name => "Redefinition of reserved type " ++ quote name
  | .part fault => fault.message
  | .fields type fault => type ++ " fields cannot be resolved. " ++ fault.message
  | .repeatedType name =>
    "Schema must contain uniquely named types but contains multiple types named " ++ quote name ++
      "."
  | .invalid violations => String.intercalate "; " (violations.map Violation.message)

/-- The parts of the library that a fault comes from: the assembly, the names of the schema
language, or the kinds of its types. -/
inductive BuildNature where
  | assembly
  | name
  | kind
  deriving DecidableEq, Repr

def PartFault.nature : PartFault → BuildNature
  | .name _ => .name
  | .outputArgument => .kind

def BuildFault.nature : BuildFault → BuildNature
  | .reserved _ => .kind
  | .repeatedType _ => .kind
  | .part fault => fault.nature
  | .fields _ fault => fault.nature
  | _ => .assembly

namespace Schema

/-- Names that the schema language defines itself, the registered scalars left aside. -/
def reservedNames : List String :=
  ["Float", "__Schema", "__Type", "__TypeKind", "__Field", "__InputValue", "__EnumValue",
    "__Directive", "__DirectiveLocation"]

def scalarNames : List String := Scalar.all.map Scalar.name

/-- Registers one more object. -/
def register (objects : List ObjectDef) (o : ObjectDef) : Except BuildFault (List ObjectDef) :=
  match checkName o.typeName with
  | .error fault => .error (.invalidTypeName o.typeName fault)
  | .ok () =>
    if objects.any (·.typeName == o.typeName) || o.typeName == queryType ||
        scalarNames.contains o.typeName then
      .error (.typeTaken o.typeName)
    else .ok (objects ++ [o])

def scalarDescription : Scalar → String
  | .address => "Contract address as a hex string."
  | .felt => "Field element as a canonical hex string."
  | .dateTime => "RFC3339 UTC timestamp with second precision."
  | .string => "The `String` scalar type represents textual data, represented as UTF-8 character sequences. The String type is most often used by GraphQL to represent free-form human-readable text."
  | .id => "The `ID` scalar type represents a unique identifier, often used to refetch an object or as key for a cache. The ID type appears in a JSON response as a String; however, it is not intended to be human-readable. When expected as an input type, any string (such as `\"4\"`) or integer (such as `4`) input value will be accepted as an ID."
  | .int => "The `Int` scalar type represents non-fractional signed whole numeric values. Int can represent values between -(2^31) and 2^31 - 1."
  | .boolean => "The `Boolean` scalar type represents `true` or `false`."

def checkReserved (name : String) : Except BuildFault Unit :=
  if reservedNames.contains name then .error (.reserved name) else .ok ()

def gatherUnions (objectNames : List String) :
    List UnionSpec → List UnionSpec → Except BuildFault (List UnionSpec)
  | done, [] => .ok done
  | done, u :: rest => do
    if scalarNames.contains u.name || objectNames.contains u.name ||
        done.any (·.name == u.name) then
      throw (.unionTaken u.name)
    for member in u.members do
      if !objectNames.contains member then throw (.unknownMember u.name member)
    checkReserved u.name
    (checkName u.name).mapError fun fault => .part (.name fault)
    gatherUnions objectNames (done ++ [u]) rest

/-- The types that an object mentions, each under the name of a field or argument. -/
def references (o : ObjectDef) : List (String × TypeRef) :=
  o.fields ++ (o.nested ++ o.resolvers).flatMap fun spec =>
    (spec.name, spec.type) :: spec.arguments.map fun arg => (arg.name, arg.type)

/-- Checks the names and references of one object. -/
def checkReferences (known : List String) (o : ObjectDef) : Except BuildFault Unit := do
  for spec in o.nested do
    if Assoc.has o.fields spec.name then throw (.definedTwice o.typeName spec.name)
  for (field, type) in references o do
    if !known.contains type.name then throw (.unknownType o.typeName field type.name)

def outputType (spec : FieldSpec) : TypeExpr :=
  if spec.many then .nonNull (.list (.nonNull (.named spec.type.name)))
  else if spec.nonNull then .nonNull (.named spec.type.name)
  else .named spec.type.name

/-- An argument of a field; only scalars can be arguments. -/
def makeArgument (spec : FieldSpec) (arg : ArgumentSpec) : Except PartFault (String × ArgDef) :=
  if scalarNames.contains arg.type.name then
    let named := TypeExpr.named arg.type.name
    .ok (arg.name, ⟨arg.name, if arg.required then .nonNull named else named,
      spec.argumentDescription arg.name, none⟩)
  else .error .outputArgument

def makeField (spec : FieldSpec) : Except PartFault FieldDef := do
  let args := (Assoc.ofList (← spec.arguments.mapM (makeArgument spec))).map (·.2)
  for arg in args do
    (checkName arg.name).mapError PartFault.name
  return ⟨spec.name, outputType spec, args, spec.description, spec.resolver⟩

/-- The fields of an object: the direct ones, then the nested ones. -/
def makeFields (o : ObjectDef) : Except PartFault (List FieldDef) := do
  let direct := o.fields.map fun (name, type) =>
    (name, FieldDef.mk name (.named type.name) [] "" (.value name))
  let nested ← o.nested.mapM fun spec => (makeField spec).map fun f => (spec.name, f)
  return (Assoc.ofList (direct ++ nested)).map (·.2)

def checkFieldNames (fields : List FieldDef) : Except BuildFault Unit := do
  for f in fields do
    (checkName f.name).mapError fun fault => .part (.name fault)

def makeType (o : ObjectDef) : Except BuildFault TypeDef := do
  let fields ← (makeFields o).mapError (BuildFault.fields o.typeName)
  checkFieldNames fields
  return .object o.typeName "" fields

def gatherRoot : List FieldDef → List FieldSpec → Except BuildFault (List FieldDef)
  | done, [] => .ok done
  | done, spec :: rest => do
    if done.any (·.name == spec.name) then throw (.rootDefinedTwice spec.name)
    let f ← (makeField spec).mapError .part
    gatherRoot (done ++ [f]) rest

/-- The names that the fields of a type mention: output types, each before the types of its
arguments. -/
def mentioned (fields : List FieldDef) : List String :=
  fields.flatMap fun f => f.type.base :: f.args.map (·.type.base)

/-- The scalar or union of a name. -/
def plainType? (unions : List UnionSpec) (name : String) : Option TypeDef :=
  match Scalar.ofName? name with
  | some kind => some (.scalar name (scalarDescription kind))
  | none => (unions.find? (·.name == name)).map fun u => .union u.name u.members

/-- Adds the scalars and unions among some names, unless they are there already. -/
def addMentioned (unions : List UnionSpec) (types : List TypeDef) (names : List String) :
    List TypeDef :=
  names.foldl
    (fun types name =>
      match plainType? unions name with
      | some t => if types.any (·.name == name) then types else types ++ [t]
      | none => types)
    types

/-- Adds the objects in order, each followed by the types that its fields mention first. -/
def addObjects (unions : List UnionSpec) :
    List TypeDef → List ObjectDef → Except BuildFault (List TypeDef)
  | types, [] => .ok types
  | types, o :: rest => do
    let t ← makeType o
    addObjects unions (addMentioned unions (types ++ [t]) (mentioned t.fields)) rest

/-- Names that two underscores reserve. -/
def reservedName (name : String) : List Violation :=
  match name.toList with
  | '_' :: '_' :: _ => [.reservedName name]
  | _ => []

/-- Members of a union that occur a second time. -/
def repeatedMembers (union : String) : List String → List String → List Violation
  | _, [] => []
  | seen, m :: rest =>
    if seen.contains m then .repeatedMember union m :: repeatedMembers union seen rest
    else repeatedMembers union (m :: seen) rest

def violationsOf (t : TypeDef) : List Violation :=
  reservedName t.name ++
    match t with
    | .object name _ fields =>
      (if fields.isEmpty then [.noFields name] else []) ++
        fields.flatMap fun f => reservedName f.name ++ f.args.flatMap fun a => reservedName a.name
    | .union name members =>
      (if members.isEmpty then [.noMembers name] else []) ++ repeatedMembers name [] members
    | _ => []

/-- Assembles registered objects. -/
def build (objects : List ObjectDef) : Except BuildFault Schema := do
  let objectNames := objects.map (·.typeName)
  for name in objectNames do
    checkReserved name
  let unions ← gatherUnions objectNames [] (objects.flatMap (·.unions))
  let known := scalarNames ++ objectNames ++ unions.map (·.name)
  for o in objects do
    checkReferences known o
  let root ← gatherRoot [] (objects.flatMap (·.resolvers))
  if root.isEmpty then throw .noRoot
  let types ← addObjects unions [] objects
  checkFieldNames root
  let others := addMentioned unions types (mentioned root)
  if others.any (·.name == queryType) then throw (.repeatedType queryType)
  let types := types ++ .object queryType "" root :: others.drop types.length
  let types := addMentioned unions types [Scalar.boolean.name, Scalar.string.name]
  let violations := types.flatMap violationsOf
  if violations.isEmpty then return ⟨types⟩ else throw (.invalid violations)

end Schema

inductive SchemaFault where
  | store (fault : Fault)
  | build (fault : BuildFault)
  deriving Repr

def SchemaFault.message : SchemaFault → String
  | .store fault => fault.message
  | .build fault => fault.message

namespace Schema

def registerAll : List ObjectDef → List ObjectDef → Except BuildFault (List ObjectDef)
  | done, [] => .ok done
  | done, o :: rest => do registerAll (← register done o) rest

def ofStorage (storage : List ObjectDef) (tablePrefix : String) : Except BuildFault Schema := do
  let component := ObjectDef.component (storage.filterMap (·.declaredName?)) tablePrefix
  build (← registerAll [] (component :: storage))

def ofStore (s : Store) (tablePrefix : String) : Except SchemaFault Schema := do
  let storage ← (Discovery.ofStore s tablePrefix).mapError SchemaFault.store
  (ofStorage storage tablePrefix).mapError SchemaFault.build

end Schema

end WorldQuery
