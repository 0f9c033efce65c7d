import WorldQuery.Query.Execution
import WorldQuery.Query.Reader
import WorldQuery.Query.Validation

/-!
# Responses

A request is read, checked against the schema and executed. A request that cannot be executed has no
data and says why; any other has data and the faults of single places.
-/

namespace WorldQuery.Query

/-- A request: the text of a document, values for variables, and the operation to execute. There is
no text if what was sent is none. -/
structure Request where
  text? : Option String
  inputs : Variables
  operation? : Option String
  deriving Repr

/-- Why a request is not executed: it is no document, or the document makes no sense for the schema
or the request, or it was not looked at to the end. -/
inductive RequestFault where
  | unreadable
  | refused
  | aborted
  deriving DecidableEq, Repr

structure Response where
  data : Datum
  refusals : List RequestFault
  faults : List PlacedFault
  deriving Repr

namespace Response

/-- The response to a request that is not executed. -/
def refusal (fault : RequestFault) : Response := ⟨.null, [fault], []⟩

/-- The response to a document that a review found wanting. -/
def ofReview (r : Review) : Response :=
  ⟨.null, (if r.breaches.isEmpty then [] else [.refused]) ++ if r.isAborted then [.aborted] else [],
    []⟩

end Response

/-- The operation that a request means: the one of a name, or the only one. -/
def Document.chosen (doc : Document) : Option String → Option Operation
  | some name => doc.operations.find? (·.name? == some name)
  | none =>
    match doc.operations with
    | [op] => some op
    | _ => none

/-- A root field that breaks through: its position and the round of the fault. -/
structure Break where
  position : Nat
  round : Nat

/-- The break that comes first: in the earliest round the foremost field. -/
def firstBreak (position : Nat) : List (String × Outcome) → Option Break
  | [] => none
  | (_, o) :: rest =>
    let later := firstBreak (position + 1) rest
    match (if o.breaks then o.breach else none), later with
    | none, later => later
    | some round, none => some ⟨position, round⟩
    | some round, some b => if b.round < round then some b else some ⟨position, round⟩

/-- Whether a fault of a root field is seen although a field breaks through. The first round ends at
the break, and in the second all fields have begun; from then on fields are answered in turn. -/
def Break.admits (b : Break) (position round : Nat) : Bool :=
  round < b.round || (round == b.round && (position ≤ b.position || b.round == 1))

/-- The faults of the root fields. All fields are answered at once, so a break in one of them ends
the answer before the faults of later rounds occur. -/
def rootFaults (fields : List (String × Outcome)) : List PlacedFault :=
  let seen (position round : Nat) : Bool :=
    match firstBreak 0 fields with
    | none => true
    | some b => b.admits position round
  fields.zipIdx.flatMap fun ((label, o), position) =>
    (o.faults [.key label]).filter fun f => seen position f.round

def Response.ofOutcome : Outcome → Response
  | .failed _ _ => .refusal .refused
  | .object type source fields =>
    ⟨(Outcome.object type source fields).data, [], rootFaults fields⟩
  | o => ⟨o.data, [], o.faults []⟩

def executeOperation (s : Schema) (store? : Option Store) (doc : Document) (op : Operation)
    (given : Variables) : Response :=
  match variableValues s op.declared given with
  | none => .refusal .refused
  | some vars =>
    match op.kind with
    | .query => .ofOutcome (Execution.run ⟨s, doc, vars, store?⟩ op.selections)
    | _ => .refusal .refused

/-- Executes a request against a schema. Without a store only the schema itself can be queried. -/
def execute (s : Schema) (store? : Option Store) (request : Request) : Response :=
  match request.text?.bind Document.read with
  | none => .refusal .unreadable
  | some doc =>
    let found := review s doc
    if found.isClean then
      match doc.chosen request.operation? with
      | none => .refusal .refused
      | some op => executeOperation s store? doc op request.inputs
    else .ofReview found

end WorldQuery.Query
