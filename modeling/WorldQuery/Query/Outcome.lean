import WorldQuery.Fault
import WorldQuery.Query.Argument
import WorldQuery.Query.Leaf

/-!
# Outcomes

The outcome of a query is a tree: leaves, lists, objects with their answered fields, and faults in
the place where they occurred. `Outcome.data` is what the tree says as an answer, and
`Outcome.faults` lists its faults with their paths.

A fault leaves null in its place. Where null is excluded it breaks through to the place above; then
nothing after it is reported there.
-/

namespace WorldQuery.Query

/-- What the fields of an object are read from. -/
inductive Source where
  | root
  | record (r : Record)
  | node (n : MetaNode)
  deriving Repr

/-- Why a place of an answer has no value. -/
inductive AnswerFault where
  | fetch (fault : Fault)
  | argument (fault : ArgumentFault)
  | leaf (fault : LeafFault)
  /-- The type of a record is no type of the schema. -/
  | unknownType (union type : String)
  /-- The type of a record is no object type. -/
  | notObject (union type : String)
  /-- The type of a record is not a member of the union. -/
  | notMember (union type : String)
  /-- There is nothing where null is excluded. -/
  | noValue (owner field : String)
  /-- What was found has another shape than the type of the field. -/
  | misfit (type : String)
  deriving Repr

def AnswerFault.message : AnswerFault → String
  | .fetch fault => fault.message
  | .argument fault => fault.message
  | .leaf fault => fault.message
  | .unknownType union type =>
    "Abstract type '" ++ union ++ "' was resolved to a type '" ++ type ++
      "' that does not exist inside the schema."
  | .notObject union type =>
    "Abstract type '" ++ union ++ "' was resolved to a non-object type '" ++ type ++ "'."
  | .notMember union type =>
    "Runtime Object type '" ++ type ++ "' is not a possible type for '" ++ union ++ "'."
  | .noValue owner field =>
    "Cannot return null for non-nullable field " ++ owner ++ "." ++ field ++ "."
  | .misfit type => "Value does not have the shape of type '" ++ type ++ "'."

/-- The outcome of a query in one place. A fault keeps the round of fetches in which it occurred. -/
inductive Outcome where
  | leaf (d : Datum)
  | failed (fault : AnswerFault) (round : Nat)
  | items (outcomes : List Outcome)
  | object (type : String) (source : Source) (fields : List (String × Outcome))
  /-- An outcome in a place where null is excluded. -/
  | required (inner : Outcome)
  deriving Repr

inductive PathStep where
  | key (name : String)
  | index (i : Nat)
  deriving DecidableEq, Repr

structure PlacedFault where
  path : List PathStep
  fault : AnswerFault
  round : Nat
  deriving Repr

namespace Outcome

mutual

/-- The round of the fault that leaves no value in this place, if there is such a fault. -/
def breach : Outcome → Option Nat
  | leaf _ => none
  | failed _ round => some round
  | items xs => breachAmong xs
  | object _ _ fields => breachInside fields
  | required inner => inner.breach

/-- The first breach in a place where null is excluded. -/
def breachAmong : List Outcome → Option Nat
  | [] => none
  | required inner :: rest => inner.breach.or (breachAmong rest)
  | _ :: rest => breachAmong rest

/-- The first breach in a field where null is excluded. -/
def breachInside : List (String × Outcome) → Option Nat
  | [] => none
  | (_, required inner) :: rest => inner.breach.or (breachInside rest)
  | _ :: rest => breachInside rest

end

/-- Whether an outcome takes the place above down with it. -/
def breaks : Outcome → Bool
  | required inner => inner.breach.isSome
  | _ => false

mutual

def data : Outcome → Datum
  | leaf d => d
  | failed _ _ => .null
  | items xs => if (breachAmong xs).isSome then .null else .list (dataOf xs)
  | object _ _ fields => if (breachInside fields).isSome then .null else .object (dataIn fields)
  | required inner => inner.data

def dataOf : List Outcome → List Datum
  | [] => []
  | x :: rest => x.data :: dataOf rest

def dataIn : List (String × Outcome) → List (String × Datum)
  | [] => []
  | (label, x) :: rest => (label, x.data) :: dataIn rest

end

mutual

/-- The faults at and below a path. -/
def faults (path : List PathStep) : Outcome → List PlacedFault
  | leaf _ => []
  | failed fault round => [⟨path, fault, round⟩]
  | items xs => faultsOf path 0 xs
  | object _ _ fields => faultsIn path fields
  | required inner => inner.faults path

/-- The faults of items from a position on, up to the first that breaks through. -/
def faultsOf (path : List PathStep) (i : Nat) : List Outcome → List PlacedFault
  | [] => []
  | x :: rest =>
    x.faults (path ++ [.index i]) ++ if x.breaks then [] else faultsOf path (i + 1) rest

/-- The faults of fields, up to the first that breaks through. -/
def faultsIn (path : List PathStep) : List (String × Outcome) → List PlacedFault
  | [] => []
  | (label, x) :: rest =>
    x.faults (path ++ [.key label]) ++ if x.breaks then [] else faultsIn path rest

end

end Outcome

end WorldQuery.Query
