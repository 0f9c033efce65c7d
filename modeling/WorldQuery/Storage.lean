import WorldQuery.Component
import WorldQuery.Statement

/-!
# Storage rows

Every component name has a storage table whose columns are the fields of its layout, with one more
column for the owning component. Rows are decoded by a layout, field by field, and tagged with the
type name. A field that refers to another record keeps the id of the owning component. A column that
does not fit its scalar kind is a mismatch of the field, unless it is a timestamp outside the calendar;
that, and an id without a text, are faults of their own.
-/

namespace WorldQuery.Storage

open Name

def ownerColumn : String := "component_id"

def decodeDatum (field : String) (type : TypeRef) (d : Datum) : Except Fault Value :=
  match d, type with
  | .null, _ => .ok .null
  | d, .object _ => ((Scalar.textOf d).map fun s => .text (unquote s)).mapError .scalar
  | d, .scalar kind =>
    match kind.coerce d with
    | .ok v => .ok v
    | .error fault =>
      if fault.nature = .overflow then .error (.scalar fault)
      else .error (.record (.mismatch field kind.name d.kindName))

/-- Decodes a row by a layout. `absent` is the fault of a field that the row does not have. -/
def decodeRow (absent : String → Fault) (row : Row) (layout : Layout) (tag : Option String) :
    Except Fault Record := do
  let fields ← layout.mapM fun (field, type) =>
    match Assoc.get? row field with
    | none => .error (absent field)
    | some d => (decodeDatum field type d).map fun v => (field, v)
  return ⟨fields, tag⟩

/-- The storage row that belongs to an id in the given column, decoded and tagged. Quotes around the
id do not count. -/
def byColumn (s : Store) (tablePrefix column id name : String) (layout : Layout) :
    Except Fault (Option Record) := do
  let found := Statement.fetch s (Assoc.keys layout) (tableName tablePrefix name) column (unquote id)
  match ← found.mapError Fault.store with
  | none => return none
  | some row =>
    return some (← decodeRow (fun field => .store (.columnNotInRow field)) row layout
      (some (typeName name)))

/-- The layout that a component's own definition gives. -/
def layoutOf (known : List String) (name definition : Datum) : Except Fault Layout := do
  let text ← Component.definitionText definition
  match name with
  | .text owner => (Layout.read known owner text).mapError .layout
  | _ => (Layout.read known (shownOwner name) text).mapError (.layoutOfUnnamed name)
where
  /-- A name that is no text, as messages show it; they leave out zeros, empty bytes and nulls. -/
  shownOwner : Datum → String
    | .null => ""
    | .int i => if i = 0 then "" else (Datum.int i).shown
    | .real x => if x.isZero then "" else (Datum.real x).shown
    | .blob bytes => if bytes.isEmpty then "" else (Datum.blob bytes).shown
    | d => d.shown

def ofComponent (s : Store) (tablePrefix : String) (known : List String) (id : String) :
    Except Fault (Option Record) := do
  let found := Component.rowById s Component.layoutColumns (unquote id)
  match ← found.mapError Fault.store with
  | none => return none
  | some row =>
    let layout ← layoutOf known (Component.columnDatum row 0) (Component.columnDatum row 1)
    let name ← Component.nameText (Component.columnDatum row 0)
    byColumn s tablePrefix ownerColumn id name layout

end WorldQuery.Storage
