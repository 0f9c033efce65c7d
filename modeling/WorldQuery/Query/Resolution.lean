import WorldQuery.Query.Outcome
import WorldQuery.Storage

/-!
# Resolution of fields

A field of an object is resolved in two stages. First its resolver looks at what it was given: it
finds a value there, or the question that it has to put to the store. Then the store answers the
question from its present content.
-/

namespace WorldQuery.Query

open Name

inductive Found where
  | nothing
  | leaf (v : Value)
  | one (source : Source)
  | many (items : List Found)
  deriving Repr

namespace Found

/-- A value as a leaf; null is nothing. -/
def ofValue : Value → Found
  | .null => nothing
  | v => leaf v

def ofRecord? : Option Record → Found
  | none => nothing
  | some r => one (.record r)

/-- What is found in a part of a described item. -/
def ofMeta : MetaValue → Found
  | .nothing => nothing
  | .text s => leaf (.text s)
  | .flag b => leaf (.bool b)
  | .words ws => many (ws.map fun w => leaf (.text w))
  | .node n => one (.node n)
  | .nodes ns => many (ns.map fun n => one (.node n))

end Found

inductive Question where
  | component (id : String)
  /-- The component of an id that is no text. -/
  | unencodable (id : List Nat)
  | components (limit : Option Int)
  /-- The storage record of an owner, read by a layout. -/
  | storage (tablePrefix owner name : String) (layout : Layout)
  /-- The storage record of another component, which must be of the target's type. -/
  | reference (field target : String) (known : List String) (tablePrefix owner : String)
  deriving Repr

namespace Question

def tagWord (r : Record) : String :=
  match r.tag with
  | none => "unknown"
  | some tag => if tag = "" then "unknown" else tag

/-- The storage record that a reference leads to. -/
def follow (s : Store) (field target : String) (known : List String) (tablePrefix owner : String) :
    Except Fault (Option Record) := do
  match ← Storage.ofComponent s tablePrefix known owner with
  | none => return none
  | some r =>
    if r.tag = some (typeName target) then return some r
    else throw (.record (.mismatch field (typeName target) (tagWord r)))

/-- Whether code points begin and end with the same quote. -/
def isQuoted (codes : List Nat) : Bool :=
  2 ≤ codes.length && codes.head? == codes.getLast? &&
    (codes.head? == some '"'.toNat || codes.head? == some '\''.toNat)

/-- Code points without a pair of quotes around them. -/
def unquoteCodes (codes : List Nat) : List Nat :=
  if isQuoted codes then (codes.drop 1).dropLast else codes

/-- The answer to a question for an id that is no text: the store finds fault with it when
everything else is in order. -/
def answerUnencodable (s : Store) (id : List Nat) : Except Fault Found := do
  let _ ← (Component.rowById s Component.columns "").mapError Fault.store
  throw (.unencodable (unquoteCodes id))

def answer (s : Store) : Question → Except Fault Found
  | component id => (Component.byId s id).map Found.ofRecord?
  | unencodable id => answerUnencodable s id
  | components limit =>
    (Component.list s limit).map fun rs => .many (rs.map fun r => .one (.record r))
  | storage tablePrefix owner name layout =>
    (Storage.byColumn s tablePrefix Storage.ownerColumn owner name layout).map Found.ofRecord?
  | reference field target known tablePrefix owner =>
    (follow s field target known tablePrefix owner).map Found.ofRecord?

end Question

/-- What the first stage of a resolver gives. -/
inductive Inquiry where
  | found (f : Found)
  | ask (q : Question)
  deriving Repr

end WorldQuery.Query

namespace WorldQuery.Resolver

open Query Name

def text (r : Record) (field : String) : Except Fault String :=
  (r.extractText field).mapError .record

/-- The question for the storage record of a component record: it is read by the component's own
definition. -/
def askStorage (known : List String) (tablePrefix : String) (r : Record) :
    Except Fault Question := do
  let owner ← text r "id"
  let definition ← text r "storageDefinition"
  let name ← text r "name"
  let layout ← (Layout.read known name definition).mapError .layout
  return .storage tablePrefix owner name layout

/-- The question for the record that a field refers to; a null refers to nothing. -/
def askReference (field target : String) (known : List String) (tablePrefix : String) (r : Record) :
    Except Fault Inquiry :=
  match r.get? field with
  | none => .error (.record (.missing field))
  | some .null => .ok (.found .nothing)
  | some _ => (text r field).map fun owner => .ask (.reference field target known tablePrefix owner)

/-- The first part of the schema that a field about the schema leads to. -/
def askMeta (s : Schema) (owner : String) (source : Source) (part : String) (args : Variables) :
    Found :=
  if part = Meta.typeNameField.name then .leaf (.text owner)
  else if part = Meta.schemaField.name then .one (.node .schema)
  else if part = Meta.typeField.name then
    match Assoc.get? args "name" with
    | some (.text name) =>
      if (s.lookup name).isSome then .one (.node (.type (.named name))) else .nothing
    | _ => .nothing
  else
    match source with
    | .node n => .ofMeta (n.part s part)
    | _ => .nothing

/-- The first stage of a resolver, for a field of an owning type. -/
def inquire (s : Schema) (owner : String) (source : Source) (args : Variables) :
    Resolver → Except AnswerFault Inquiry
  | .unset => .error (.misfit owner)
  | .value field =>
    match source with
    | .record r =>
      match r.get? field with
      | some v => .ok (.found (.ofValue v))
      | none => .error (.fetch (.record (.missing field)))
    | _ => .error (.misfit owner)
  | .component =>
    match Assoc.get? args "id" with
    | some (.text id) => .ok (.ask (.component (unquote id)))
    | some (.illFormed codes) => .ok (.ask (.unencodable codes))
    | _ => .error (.misfit owner)
  | .components =>
    match Assoc.get? args "limit" with
    | some (.int n) => .ok (.ask (.components (some n)))
    | _ => .ok (.ask (.components none))
  | .storage known tablePrefix =>
    match source with
    | .record r => ((askStorage known tablePrefix r).map .ask).mapError .fetch
    | _ => .error (.misfit owner)
  | .reference field target known tablePrefix =>
    match source with
    | .record r => (askReference field target known tablePrefix r).mapError .fetch
    | _ => .error (.misfit owner)
  | .introspection part => .ok (.found (askMeta s owner source part args))

/-- Whether a resolver may put a question to the store. -/
def fetches : Resolver → Bool
  | .component => true
  | .components => true
  | .storage _ _ => true
  | .reference _ _ _ _ => true
  | _ => false

end WorldQuery.Resolver

namespace WorldQuery.Query

/-- The result of a resolver, and the round of fetches in which it came. Without fetches the round
is that of the parent; a resolver that may fetch is never in the first round, and a fetch is a round
of its own. -/
structure Resolved where
  result : Except AnswerFault Found
  round : Nat

/-- Puts the question of a resolver to the store, if there is one. -/
def resolve (s : Schema) (store? : Option Store) (owner : String) (source : Source) (round : Nat)
    (args : Variables) (r : Resolver) : Resolved :=
  let round := if r.fetches then max round 1 else round
  match r.inquire s owner source args with
  | .error fault => ⟨.error fault, round⟩
  | .ok (.found f) => ⟨.ok f, round⟩
  | .ok (.ask q) =>
    match store? with
    | none => ⟨.error (.fetch (.store .noStore)), round⟩
    | some store => ⟨(q.answer store).mapError .fetch, round + 1⟩

end WorldQuery.Query
