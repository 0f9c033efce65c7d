import WorldQuery.Query.Document
import WorldQuery.Query.ScalarLiteral
import WorldQuery.Schema.Meta

/-!
# Variables and arguments

A request gives values to the variables that its operation declares; `variableValues` reads them by
the declared types. The arguments of a field or directive are then read from the document and the
variables. An argument that is left out and has no default value stays out.
-/

namespace WorldQuery.Query

open Text

/-- The variables of a request that have a value. -/
abbrev Variables := List (String × Datum)

/-- Why the arguments of a field or directive have no values. -/
inductive ArgumentFault where
  | notProvided (name : String) (type : TypeExpr)
  | noVariable (name var : String) (type : TypeExpr)
  | mustNotBeNull (name : String) (type : TypeExpr)
  | badValue (name : String)
  deriving DecidableEq, Repr

def ArgumentFault.message : ArgumentFault → String
  | .notProvided name type =>
    "Argument '" ++ name ++ "' of required type '" ++ type.text ++ "' was not provided."
  | .noVariable name var type =>
    "Argument '" ++ name ++ "' of required type '" ++ type.text ++
      "' was provided the variable '$" ++ var ++ "' which was not provided a runtime value."
  | .mustNotBeNull name type =>
    "Argument '" ++ name ++ "' of non-null type '" ++ type.text ++ "' must not be null."
  | .badValue name => "Argument '" ++ name ++ "' has an invalid value."

def leafInput (s : Schema) (name : String) (d : Datum) : Option Datum :=
  match Scalar.ofName? name with
  | some kind => inputAsScalar kind d
  | none =>
    match s.lookup name, d with
    | some (.enum _ _ values), .text word => if Assoc.has values word then some d else none
    | _, _ => none

/-- Reads a value of a request by its type. A single value stands for a list of one. -/
def inputValue (s : Schema) : TypeExpr → Datum → Option Datum
  | .nonNull inner, d => if d.isNull then none else inputValue s inner d
  | .list item, d =>
    match d with
    | .null => some .null
    | .list ds => (ds.mapM (inputValue s item)).map .list
    | d => (inputValue s item d).map fun one => .list [one]
  | .named name, d => if d.isNull then some .null else leafInput s name d

mutual

/-- Reads a literal by its type; nothing if it does not fit. -/
def literalValue (s : Schema) (vars : Variables) (type : TypeExpr) : Literal → Option Datum
  | .variable name =>
    match Assoc.get? vars name with
    | some d => if d.isNull && type.isNonNull then none else some d
    | none => none
  | .null => if type.isNonNull then none else some .null
  | .list items =>
    match type.nullable with
    | .list item => (literalValues s vars item items).map .list
    | _ => none
  | l => leafValue s type.nullable l

def literalValues (s : Schema) (vars : Variables) (type : TypeExpr) :
    List Literal → Option (List Datum)
  | [] => some []
  | l :: rest => do
    let d ← literalValue s vars type l
    let ds ← literalValues s vars type rest
    return d :: ds

/-- Reads a literal without parts. A single value stands for a list of one. -/
def leafValue (s : Schema) (type : TypeExpr) (l : Literal) : Option Datum :=
  match type with
  | .list item => (leafValue s item l).map fun d => .list [d]
  | .nonNull inner => leafValue s inner l
  | .named name =>
    match Scalar.ofName? name with
    | some kind => (l.asScalar kind).toOption
    | none =>
      match s.lookup name, l with
      | some (.enum _ _ values), .enum word =>
        if Assoc.has values word then some (.text word) else none
      | _, _ => none

end

/-- Reads the value of one declared variable: nothing at all for one that is left out. -/
def variableValue (s : Schema) (given : Variables) (v : VariableDef) : Option Variables :=
  match Assoc.get? given v.name with
  | some d => (inputValue s v.type d).map fun value => [(v.name, value)]
  | none =>
    match v.default? with
    | some l => (literalValue s [] v.type l).map fun value => [(v.name, value)]
    | none => if v.type.isNonNull then none else some []

/-- Reads the declared variables of an operation from what a request gives. -/
def variableValues (s : Schema) (declared : List VariableDef) (given : Variables) :
    Option Variables :=
  (declared.mapM (variableValue s given)).map List.flatten

def argumentValue (s : Schema) (vars : Variables) (arguments : List Argument) (d : ArgDef) :
    Except ArgumentFault Variables :=
  let leftOut (fault : ArgumentFault) : Except ArgumentFault Variables :=
    if d.isRequired then .error fault else .ok []
  let value (l : Literal) : Except ArgumentFault Variables :=
    match literalValue s vars d.type l with
    | some value => .ok [(d.name, value)]
    | none => .error (.badValue d.name)
  match arguments.find? (·.name == d.name) with
  | none => leftOut (.notProvided d.name d.type)
  | some a =>
    match a.value with
    | .variable var =>
      match Assoc.get? vars var with
      | none => leftOut (.noVariable d.name var d.type)
      | some given =>
        if given.isNull && d.type.isNonNull then .error (.mustNotBeNull d.name d.type)
        else .ok [(d.name, given)]
    | .null =>
      if d.type.isNonNull then .error (.mustNotBeNull d.name d.type) else .ok [(d.name, .null)]
    | l => value l

/-- Reads the arguments of a field or directive in the order of their definitions. -/
def argumentValues (s : Schema) (vars : Variables) (defs : List ArgDef)
    (arguments : List Argument) : Except ArgumentFault Variables :=
  (defs.mapM (argumentValue s vars arguments)).map List.flatten

/-- The condition of a directive at a selection, if the directive is there. -/
def condition (s : Schema) (vars : Variables) (directives : List Directive)
    (d : DirectiveDef) : Except ArgumentFault (Option Datum) :=
  match directives.find? (·.name == d.name) with
  | none => .ok none
  | some found => (argumentValues s vars d.args found.arguments).map fun values =>
      Assoc.get? values "if"

/-- Whether a selection takes part: it is not skipped and not left out. -/
def included (s : Schema) (vars : Variables) (directives : List Directive) :
    Except ArgumentFault Bool := do
  match ← condition s vars directives DirectiveDef.skipDef with
  | some (.bool true) => return false
  | _ =>
    match ← condition s vars directives DirectiveDef.includeDef with
    | some (.bool false) => return false
    | _ => return true

end WorldQuery.Query
