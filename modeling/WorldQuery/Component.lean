import WorldQuery.Coercion
import WorldQuery.Fault
import WorldQuery.Name
import WorldQuery.Time.Stamp

/-!
# Components

A component is the identity row of one stored record: where it lives, which code backs it and the
layout of its storage. Rows are checked column by column before they become records. `history`
collects the storage definitions of every component name, newest first.
-/

namespace WorldQuery.Component

open Time

def typeName : String := "Component"

def tableName : String := "components"

def fields : Layout :=
  [("id", .scalar .id), ("name", .scalar .string), ("address", .scalar .address),
    ("classHash", .scalar .felt), ("transactionHash", .scalar .felt),
    ("storageDefinition", .scalar .string), ("createdAt", .scalar .dateTime)]

def textColumns : List (String × String) :=
  [("id", "id"), ("name", "name"), ("address", "address"), ("class_hash", "classHash"),
    ("transaction_hash", "transactionHash"), ("storage_definition", "storageDefinition")]

def stampColumn : String := "created_at"

def columns : List String := textColumns.map (·.1) ++ [stampColumn]

def readText : Option Datum → Except IssueKind String
  | none => .error .missing
  | some d => Coercion.text d

def readStamp : Option Datum → Except IssueKind Moment
  | none => .error .missing
  | some d => do
    let read : Option Moment :=
      match ← Coercion.text? .notMoment d, d with
      | some s, _ => Stamp.readText s.toList
      | none, .moment m => some m
      | none, .int i => Stamp.ofCount i
      | none, .real x => Stamp.ofReal x
      | none, _ => none
    match read with
    | some m => .ok m
    | none => .error .notMoment

def textValue : Except IssueKind String → Value
  | .ok s => .text s
  | .error _ => .null

/-- Checks a row and makes its record. -/
def ofRow (row : Row) : Except Fault Record :=
  let texts := textColumns.map fun (column, field) =>
    (column, field, readText (Assoc.get? row column))
  let stamp := readStamp (Assoc.get? row stampColumn)
  let issues :=
    (texts.map fun (column, _, read) => Issue.ofReading column read).flatten ++
      Issue.ofReading stampColumn stamp
  match stamp, issues with
  | .ok moment, [] => do
    let created ← moment.utcText.mapError (Fault.scalar ∘ .time)
    return ⟨texts.map (fun (_, field, read) => (field, textValue read)) ++
      [("createdAt", .text created)], some typeName⟩
  | _, issues => .error (.row issues)

/-- The positions of plainly named columns. -/
def positions (t : Table) (names : List String) : Except StoreFault (List Nat) :=
  names.mapM t.position

/-- The data of a row at some positions, under the declared names of their columns. -/
def pick (t : Table) (at_ : List Nat) (row : StoredRow) : Row :=
  at_.map fun i => (t.columns.getD i "", Table.cell row i)

def rowById (s : Store) (names : List String) (id : String) : Except StoreFault (Option Row) := do
  let t ← s.table tableName
  let selected ← positions t names
  let key ← t.position "id"
  let isWanted (row : StoredRow) : Bool := Store.equalData (Table.cell row key) (.text id)
  return (t.rows.find? isWanted).map (pick t selected)

/-- The rows in order of creation, oldest first; rows of one stamp by id. -/
def rowsInOrder (s : Store) (names : List String) : Except StoreFault (List Row) := do
  let t ← s.table tableName
  let selected ← positions t names
  let stamp ← t.position stampColumn
  let key ← t.position "id"
  let inOrder (a b : StoredRow) : Bool :=
    (Store.compareData (Table.cell a stamp) (Table.cell b stamp)).then
      (Store.compareData (Table.cell a key) (Table.cell b key)) != .gt
  return (t.rows.mergeSort inOrder).map (pick t selected)

def byId (s : Store) (id : String) : Except Fault (Option Record) := do
  match ← (rowById s columns id).mapError Fault.store with
  | none => return none
  | some row => return some (← ofRow row)

/-- The greatest limit that the store can hold. -/
def greatestLimit : Int := 9223372036854775807

/-- All components, oldest first, at most `limit` of them. A negative limit counts as zero. -/
def list (s : Store) (limit : Option Int) : Except Fault (List Record) := do
  let rows ← (rowsInOrder s columns).mapError Fault.store
  match limit with
  | none => rows.mapM ofRow
  | some n =>
    if greatestLimit < n then .error .limitTooLarge
    else (rows.take n.toNat).mapM ofRow

/-- Puts the latest definition in front of those before it, and drops an earlier mention of it. -/
def renew {α : Type} [BEq α] (definitions : List α) (latest : α) : List α :=
  latest :: definitions.erase latest

/-- Adds the definition of one row to the histories of all names. A new name comes last. -/
def record {κ α : Type} [BEq κ] [BEq α] (histories : List (κ × List α)) (entry : κ × α) :
    List (κ × List α) :=
  match histories with
  | [] => [(entry.1, renew [] entry.2)]
  | (name, definitions) :: rest =>
    if name == entry.1 then (name, renew definitions entry.2) :: rest
    else (name, definitions) :: record rest entry

/-- The definitions of every name, newest first, the names in order of first appearance. -/
def history {κ α : Type} [BEq κ] [BEq α] (entries : List (κ × α)) : List (κ × List α) :=
  entries.foldl record []

def columnDatum (row : Row) (i : Nat) : Datum := (row.getD i ("", .null)).2

/-- The columns that tell the layout of a component. -/
def layoutColumns : List String := ["name", "storage_definition"]

/-- The definitions of every component name in the store, newest first, as the store keeps them. -/
def definitions (s : Store) : Except Fault (List (Datum × List Datum)) := do
  let rows ← (rowsInOrder s layoutColumns).mapError Fault.store
  return history (rows.map fun row => (columnDatum row 0, columnDatum row 1))

def nameText : Datum → Except Fault String
  | .text s => .ok s
  | d => .error (.nameNotText d)

/-- The definition in a datum. A null and blank bytes read like an empty text. -/
def definitionText : Datum → Except Fault String
  | .text s => .ok s
  | .null => .ok ""
  | .blob bytes =>
    if bytes.all fun b => Store.isSpace (Char.ofNat b.toNat) then .ok ""
    else .error (.definitionNotText (.blob bytes))
  | d => .error (.definitionNotText d)

end WorldQuery.Component
