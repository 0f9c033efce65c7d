import WorldQuery.Schema.Object

/-!
# Schemas

A schema is a list of named types. Output types are names, lists of types, or types that are always
there. Types of the schema that describe the schema itself are kept apart, in `Schema.Meta`.
-/

namespace WorldQuery

/-- A type built from a name by lists and by excluding null. -/
inductive TypeExpr where
  | named (name : String)
  | list (item : TypeExpr)
  | nonNull (inner : TypeExpr)
  deriving DecidableEq, Repr

namespace TypeExpr

/-- The name at the bottom of a type. -/
def base : TypeExpr → String
  | named name => name
  | list item => item.base
  | nonNull inner => inner.base

def text : TypeExpr → String
  | named name => name
  | list item => "[" ++ item.text ++ "]"
  | nonNull inner => inner.text ++ "!"

def isNonNull : TypeExpr → Bool
  | nonNull _ => true
  | _ => false

def nullable : TypeExpr → TypeExpr
  | nonNull inner => inner
  | t => t

end TypeExpr

/-- An argument of a field or directive; `default?` is the text of its default value. -/
structure ArgDef where
  name : String
  type : TypeExpr
  description : String
  default? : Option String
  deriving DecidableEq, Repr

def ArgDef.isRequired (d : ArgDef) : Bool := d.type.isNonNull && d.default?.isNone

structure FieldDef where
  name : String
  type : TypeExpr
  args : List ArgDef
  description : String
  resolver : Resolver
  deriving DecidableEq, Repr

/-- A named type. Descriptions are empty where there are none. -/
inductive TypeDef where
  | scalar (name description : String)
  | object (name description : String) (fields : List FieldDef)
  | union (name : String) (members : List String)
  | enum (name description : String) (values : List (String × String))
  deriving DecidableEq, Repr

namespace TypeDef

def name : TypeDef → String
  | scalar name _ => name
  | object name _ _ => name
  | union name _ => name
  | enum name _ _ => name

def description : TypeDef → String
  | scalar _ description => description
  | object _ description _ => description
  | union _ _ => ""
  | enum _ description _ => description

/-- The fields of an object type; other types have none. -/
def fields : TypeDef → List FieldDef
  | object _ _ fields => fields
  | _ => []

def field? (t : TypeDef) (name : String) : Option FieldDef := t.fields.find? (·.name == name)

/-- The members of a union; other types have none. -/
def members : TypeDef → List String
  | union _ members => members
  | _ => []

/-- Scalars and enumerations: types without fields. -/
def isLeaf : TypeDef → Bool
  | scalar _ _ => true
  | enum _ _ _ => true
  | _ => false

def isObject : TypeDef → Bool
  | object _ _ _ => true
  | _ => false

/-- Objects and unions: types that a fragment can be on. -/
def isComposite (t : TypeDef) : Bool := !t.isLeaf

end TypeDef

def queryType : String := "Query"

/-- A schema: its types in order, the root among them. -/
structure Schema where
  types : List TypeDef
  deriving DecidableEq, Repr

namespace Schema

def type? (s : Schema) (name : String) : Option TypeDef := s.types.find? (·.name == name)

/-- The members of the union of storage types, if there is one. -/
def storageTypes (s : Schema) : List String :=
  ((s.type? ObjectDef.storageUnion).map TypeDef.members).getD []

end Schema

end WorldQuery
