import WorldQuery.Query.Grouping
import WorldQuery.Query.Resolution

/-!
# Execution

An object is answered field by field; what a field finds is completed by its type. `answerObject`
gives the outcome of some selections of an object. The depth of an answer is bounded by the number
of selections in the document, as no fragment leads to itself.
-/

namespace WorldQuery.Query

/-- All that stays the same while an operation is executed. -/
structure Execution where
  schema : Schema
  doc : Document
  vars : Variables
  store? : Option Store

/-- Marks the place of an outcome if its type excludes null. -/
def Outcome.at (type : TypeExpr) (o : Outcome) : Outcome :=
  if type.isNonNull then .required o else o

def leafOutcome (s : Schema) (round : Nat) (type : String) (v : Value) : Outcome :=
  match Scalar.ofName? type with
  | some kind =>
    match outputAsScalar kind v with
    | .ok out => .leaf out.toDatum
    | .error fault => .failed (.leaf fault) round
  | none =>
    match s.lookup type with
    | some (.enum _ _ _) => .leaf v.toDatum
    | _ => .failed (.misfit type) round

/-- The object type by which a record is answered in a union: the one that it is tagged with. -/
def memberType (s : Schema) (union : String) (members : List String) : Source →
    Except AnswerFault String
  | .record r =>
    match r.tag with
    | none => .error (.misfit union)
    | some tag =>
      match s.lookup tag with
      | none => .error (.unknownType union tag)
      | some t =>
        if !t.isObject then .error (.notObject union tag)
        else if members.contains tag then .ok tag
        else .error (.notMember union tag)
  | _ => .error (.misfit union)

def objectOutcome (s : Schema) (round : Nat) (answer : String → Source → Outcome) (type : String)
    (source : Source) : Outcome :=
  match s.lookup type with
  | some (.object _ _ _) => answer type source
  | some (.union _ members) =>
    match memberType s type members source with
    | .ok member => answer member source
    | .error fault => .failed fault round
  | _ => .failed (.misfit type) round

/-- The outcome of what a field found, by the type of the field. -/
def complete (s : Schema) (round : Nat) (owner field : String)
    (answer : String → Source → Outcome) : TypeExpr → Found → Outcome
  | .nonNull _, .nothing => .required (.failed (.noValue owner field) round)
  | .nonNull inner, found => .required (complete s round owner field answer inner found)
  | .list _, .nothing => .leaf .null
  | .list item, .many xs => .items (xs.map (complete s round owner field answer item))
  | .list item, _ => .failed (.misfit item.text) round
  | .named _, .nothing => .leaf .null
  | .named name, .leaf v => leafOutcome s round name v
  | .named name, .one source => objectOutcome s round answer name source
  | .named name, .many _ => .failed (.misfit name) round

/-- The outcome of the uses of one field. All uses have the same arguments, and their selections are
answered together. -/
def answerField (x : Execution) (answer : Nat → List Selection → String → Source → Outcome)
    (owner : TypeDef) (source : Source) (round : Nat) (uses : List FieldUse) : Option Outcome := do
  let use ← uses.head?
  let f ← Schema.field? owner use.name
  match argumentValues x.schema x.vars f.args use.arguments with
  | .error fault => return Outcome.at f.type (.failed (.argument fault) round)
  | .ok args =>
    let resolved := resolve x.schema x.store? owner.name source round args f.resolver
    match resolved.result with
    | .error fault => return Outcome.at f.type (.failed fault resolved.round)
    | .ok found =>
      return complete x.schema resolved.round owner.name f.name
        (answer resolved.round (uses.flatMap (·.selections))) f.type found

def answerFields (x : Execution) (answer : Nat → List Selection → String → Source → Outcome)
    (owner : TypeDef) (source : Source) (round : Nat) (g : Grouping) : List (String × Outcome) :=
  g.filterMap fun (label, uses) =>
    (answerField x answer owner source round uses).map fun o => (label, o)

/-- The outcome of some selections of an object. The first argument bounds the depth. -/
def answerObject (x : Execution) : Nat → Nat → List Selection → String → Source → Outcome
  | 0, _, _, type, source => .object type source []
  | room + 1, round, selections, type, source =>
    match x.schema.lookup type with
    | none => .object type source []
    | some owner =>
      match Grouping.ofSelections x.schema x.doc x.vars type selections with
      | .error fault => .failed (.argument fault) round
      | .ok g =>
        .object type source (answerFields x (answerObject x room) owner source round g)

def Execution.run (x : Execution) (selections : List Selection) : Outcome :=
  answerObject x (x.doc.size + 1) 0 selections queryType .root

end WorldQuery.Query
