import WorldQuery.Schema.Basic

/-!
# Query documents

The syntax tree of a request text: operations and fragments with their selections. Definitions of
types may stand in a document too; they cannot be executed and keep no content.
-/

namespace WorldQuery.Query

inductive Literal where
  | variable (name : String)
  | int (text : String)
  | float (text : String)
  | string (text : String) (block : Bool)
  | bool (b : Bool)
  | null
  | enum (name : String)
  | list (items : List Literal)
  | object (fields : List (String × Literal))
  deriving Repr

structure Argument where
  name : String
  value : Literal
  deriving Repr

structure Directive where
  name : String
  arguments : List Argument
  deriving Repr

/-- What is asked of an object: a field, the content of a fragment, or a nested group. A field
without selections has an empty list of them. -/
inductive Selection where
  | field (label? : Option String) (name : String) (arguments : List Argument)
      (directives : List Directive) (selections : List Selection)
  | spread (fragment : String) (directives : List Directive)
  | group (type? : Option String) (directives : List Directive) (selections : List Selection)
  deriving Repr

structure VariableDef where
  name : String
  type : TypeExpr
  default? : Option Literal
  directives : List Directive
  deriving Repr

inductive OperationKind where
  | query
  | mutation
  | subscription
  deriving DecidableEq, Repr

structure Operation where
  kind : OperationKind
  name? : Option String
  declared : List VariableDef
  directives : List Directive
  selections : List Selection
  deriving Repr

structure Fragment where
  name : String
  type : String
  directives : List Directive
  selections : List Selection
  deriving Repr

inductive Definition where
  | operation (op : Operation)
  | fragment (f : Fragment)
  | typeSystem
  deriving Repr

abbrev Document := List Definition

namespace Document

def operations (doc : Document) : List Operation :=
  doc.filterMap fun
    | .operation op => some op
    | _ => none

def fragments (doc : Document) : List Fragment :=
  doc.filterMap fun
    | .fragment f => some f
    | _ => none

/-- The fragment of a name; of several the last. -/
def fragment? (doc : Document) (name : String) : Option Fragment :=
  doc.fragments.reverse.find? (·.name == name)

def fragmentPosition? (doc : Document) (name : String) : Option Nat :=
  (doc.zipIdx.filterMap fun
    | (.fragment f, i) => if f.name == name then some i else none
    | _ => none).getLast?

end Document

namespace Selection

mutual

/-- The number of selections in a selection, itself included. -/
def size : Selection → Nat
  | field _ _ _ _ ss => 1 + sizes ss
  | spread _ _ => 1
  | group _ _ ss => 1 + sizes ss

def sizes : List Selection → Nat
  | [] => 0
  | s :: rest => s.size + sizes rest

end

end Selection

def Document.size (doc : Document) : Nat :=
  Selection.sizes
    (doc.operations.flatMap (·.selections) ++ doc.fragments.flatMap (·.selections))

end WorldQuery.Query
