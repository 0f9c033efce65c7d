import WorldQuery.Assoc
import WorldQuery.Value

/-!
# Records

A record is a decoded row: named values in order, with the name of its type if it has one. Fields
are read out by `extract`, which insists on a tag.
-/

namespace WorldQuery

open Text

/-- A decoded row. -/
structure Record where
  fields : List (String × Value)
  tag : Option String
  deriving DecidableEq, Repr, Inhabited

/-- What a field may be extracted as; other targets have a name only. -/
inductive Target where
  | kind (kind : ValueKind)
  | other (name : String)
  deriving DecidableEq, Repr

inductive RecordFault where
  | missing (field : String)
  | mismatch (field expected actual : String)
  | unsupportedTarget (name : String)
  | unsupportedValue (kind : String)
  /-- Asked for by a name that is not there. -/
  | absent (field : String)
  | unhashable
  deriving DecidableEq, Repr

def RecordFault.message : RecordFault → String
  | .missing field => "Field '" ++ field ++ "' is missing"
  | .mismatch field expected actual =>
    "Field '" ++ field ++ "' has type " ++ actual ++ ", expected " ++ expected
  | .unsupportedTarget name => "Unsupported extraction target: <class '" ++ name ++ "'>"
  | .unsupportedValue kind => "Unsupported value type: " ++ kind
  | .absent field => quote field
  | .unhashable => "unhashable type: 'ValueMapping'"

namespace Record

def empty : Record := ⟨[], none⟩

def get? (r : Record) (field : String) : Option Value := Assoc.get? r.fields field

/-- The value of a field that has to be there. -/
def get (r : Record) (field : String) : Except RecordFault Value :=
  match r.get? field with
  | some v => .ok v
  | none => .error (.absent field)

/-- The value of a field, null if it is absent. -/
def raw (r : Record) (field : String) : Value := (r.get? field).getD .null

def contains (r : Record) (field : String) : Bool := Assoc.has r.fields field

def names (r : Record) : List String := Assoc.keys r.fields

def size (r : Record) : Nat := r.fields.length

def tagValue (d : Datum) : Except RecordFault Value :=
  match Value.ofDatum? d with
  | some v => .ok v
  | none => .error (.unsupportedValue d.kindName)

/-- Builds a record from named data; a repeated name keeps its first place and its last value. -/
def ofData (data : List (String × Datum)) (tag : Option String) : Except RecordFault Record := do
  let fields ← (Assoc.ofList data).mapM fun (name, d) => (tagValue d).map fun v => (name, v)
  return ⟨fields, tag⟩

/-- The content of a field, which must have the given tag; null has a tag of its own. -/
def extract (r : Record) (field : String) (target : Target) : Except RecordFault Value :=
  match target with
  | .other name => .error (.unsupportedTarget name)
  | .kind expected =>
    match r.get? field with
    | none => .error (.missing field)
    | some v =>
      if v.kind = expected then .ok v else .error (.mismatch field expected.name v.kind.name)

def extractText (r : Record) (field : String) : Except RecordFault String :=
  match r.get? field with
  | none => .error (.missing field)
  | some (.text s) => .ok s
  | some v => .error (.mismatch field ValueKind.text.name v.kind.name)

theorem extract_text (r : Record) (field : String) :
    r.extract field (.kind .text) = (r.extractText field).map Value.text := by
  unfold extract extractText
  cases r.get? field with
  | none => rfl
  | some v => cases v <;> rfl

/-- Same type and same fields, in any order. -/
def same (r s : Record) : Bool :=
  r.tag == s.tag && r.size == s.size && r.fields.all fun (name, v) => s.get? name == some v

def shown (r : Record) : String :=
  "ValueMapping(" ++ (Datum.object (r.fields.map fun (name, v) => (name, v.toDatum))).shown ++
    ", type_name=" ++ (match r.tag with
      | some tag => quote tag
      | none => Datum.null.shown) ++ ")"

end Record

end WorldQuery
