import WorldQuery.Component
import WorldQuery.Name

/-!
# Queryable objects

An object says what a type of the schema offers: its direct fields, the fields that take a fetch of
their own, its unions and the fields that it adds to the root. How a field is resolved is data too.
-/

namespace WorldQuery

/-- How a field gets its value. -/
inductive Resolver where
  /-- Not resolved by this library. -/
  | unset
  /-- The value of a field of the parent record. -/
  | value (field : String)
  /-- The component of an id. -/
  | component
  /-- All components up to a limit. -/
  | components
  /-- The storage record of the parent component. -/
  | storage (known : List String) (tablePrefix : String)
  /-- The storage record of the component that a field of the parent names. -/
  | reference (field target : String) (known : List String) (tablePrefix : String)
  /-- A part of the schema itself. -/
  | introspection (part : String)
  deriving DecidableEq, Repr

structure ArgumentSpec where
  name : String
  type : TypeRef
  required : Bool
  deriving DecidableEq, Repr

/-- A field with a resolver. With `many` it is a list of items that are all there. -/
structure FieldSpec where
  name : String
  type : TypeRef
  many : Bool
  nonNull : Bool
  description : String
  arguments : List ArgumentSpec
  /-- The descriptions of arguments that have one, by their names. -/
  argumentDescriptions : List (String × String) := []
  resolver : Resolver
  deriving DecidableEq, Repr

def FieldSpec.argumentDescription (spec : FieldSpec) (argument : String) : String :=
  (Assoc.get? spec.argumentDescriptions argument).getD ""

structure UnionSpec where
  name : String
  members : List String
  deriving DecidableEq, Repr

inductive ObjectForm where
  | component (storageNames : List String)
  | storage (declaredName : String) (layout : Layout)
  | custom
  deriving DecidableEq, Repr

def ObjectForm.word : ObjectForm → String
  | component _ => "ComponentObject"
  | storage _ _ => "StorageObject"
  | custom => "CustomObject"

/-- What one type of the schema offers. -/
structure ObjectDef where
  form : ObjectForm
  name : String
  typeName : String
  fields : Layout
  nested : List FieldSpec
  unions : List UnionSpec
  resolvers : List FieldSpec
  deriving DecidableEq, Repr

namespace ObjectDef

open Text

def shown (o : ObjectDef) : String := o.form.word ++ "(type_name=" ++ quote o.typeName ++ ")"

def storageUnion : String := "Storage"

/-- The field of a component that holds its storage record. There is none without storage types,
as a union cannot be empty. -/
def storageFields (storageNames : List String) (tablePrefix : String) : List FieldSpec :=
  if storageNames.isEmpty then []
  else
    [{ name := "storage", type := .object storageUnion, many := false, nonNull := false
       description := "Storage record owned by this component", arguments := []
       resolver := .storage storageNames tablePrefix }]

/-- The root fields of components. -/
def componentResolvers : List FieldSpec :=
  [{ name := "component", type := .object Component.typeName, many := false, nonNull := false
     description := "Look up a component by id", arguments := [⟨"id", .scalar .id, true⟩]
     resolver := .component },
   { name := "components", type := .object Component.typeName, many := true, nonNull := false
     description := "All components, oldest first", arguments := [⟨"limit", .scalar .int, false⟩]
     resolver := .components }]

/-- The component object for some storage names. -/
def component (storageNames : List String) (tablePrefix : String) : ObjectDef where
  form := .component storageNames
  name := "component"
  typeName := Component.typeName
  fields := Component.fields
  nested := storageFields storageNames tablePrefix
  unions :=
    if storageNames.isEmpty then [] else [⟨storageUnion, storageNames.map Name.typeName⟩]
  resolvers := componentResolvers

def referenceField (known : List String) (tablePrefix : String) :
    String × TypeRef → Option FieldSpec
  | (_, .scalar _) => none
  | (field, .object target) =>
    some
      { name := field, type := .object (Name.typeName target), many := false, nonNull := false
        description := "", arguments := []
        resolver := .reference field target known tablePrefix }

/-- The object of a storage type: scalars are direct fields, references take a fetch. -/
def storage (declaredName : String) (layout : Layout) (known : List String) (tablePrefix : String) :
    ObjectDef where
  form := .storage declaredName layout
  name := Name.fieldName declaredName
  typeName := Name.typeName declaredName
  fields := layout.filter (·.2.isScalar)
  nested := layout.filterMap (referenceField known tablePrefix)
  unions := []
  resolvers := []

/-- The declared name of a storage object. -/
def declaredName? (o : ObjectDef) : Option String :=
  match o.form with
  | .storage name _ => some name
  | _ => none

end ObjectDef

end WorldQuery
