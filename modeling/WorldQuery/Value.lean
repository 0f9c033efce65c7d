import WorldQuery.Datum

/-!
# Tagged scalar values

A decoded field holds a text, an integer, a truth value, or nothing. `Value.ofDatum?` tags a datum
of one of these kinds and refuses every other.
-/

namespace WorldQuery

/-- A scalar value with its tag. -/
inductive Value where
  | text (s : String)
  | int (i : Int)
  | bool (b : Bool)
  | null
  deriving DecidableEq, Repr, Inhabited

inductive ValueKind where
  | text
  | int
  | bool
  | null
  deriving DecidableEq, Repr

def ValueKind.name : ValueKind → String
  | .text => "string"
  | .int => "int"
  | .bool => "bool"
  | .null => "null"

namespace Value

def kind : Value → ValueKind
  | text _ => .text
  | int _ => .int
  | bool _ => .bool
  | null => .null

def toDatum : Value → Datum
  | text s => .text s
  | int i => .int i
  | bool b => .bool b
  | null => .null

/-- Tags a datum; only texts, integers, truth values and nulls are values. -/
def ofDatum? : Datum → Option Value
  | .null => some null
  | .bool b => some (bool b)
  | .int i => some (int i)
  | .text s => some (text s)
  | _ => none

/-- Same tag and same content. -/
def same (v w : Value) : Bool := v == w

end Value

end WorldQuery
