import WorldQuery.Query.ScalarLiteral

/-!
# Leaves of an answer

A leaf of an answer has the form that its scalar kind has on the wire: field elements and addresses
are canonical, timestamps are second texts in UTC, integers fit into 32 bits. `outputAsScalar`
brings a value into this form, whatever layout it was decoded by.
-/

namespace WorldQuery.Query

open Number Text

/-- Why a value has no form on the wire. -/
inductive LeafFault where
  | scalar (fault : ScalarFault)
  | notInteger (v : Value)
  | outsideInt (v : Value)
  | notBoolean (v : Value)
  | notId (v : Value)
  | notText
  deriving Repr

def shownLimit : Nat := 240

/-- Cuts out the middle of a text that is too long to be shown. -/
def abridged (s : String) : String :=
  let cs := s.toList
  if cs.length ≤ shownLimit then s
  else String.ofList (cs.take 118 ++ ['.', '.', '.'] ++ cs.drop (cs.length - 119))

def shownLeaf (v : Value) : String := abridged v.toDatum.shown

def LeafFault.message : LeafFault → String
  | .scalar fault => fault.message
  | .notInteger v => "Int cannot represent non-integer value: " ++ shownLeaf v
  | .outsideInt v => "Int cannot represent non 32-bit signed integer value: " ++ shownLeaf v
  | .notBoolean v => "Boolean cannot represent a non boolean value: " ++ shownLeaf v
  | .notId v => "ID cannot represent value: " ++ shownLeaf v
  | .notText => "String cannot represent value: None"

/-- The integer that a value stands for; a truth value counts as one or zero. -/
def integerLeaf (v : Value) : Except LeafFault Int :=
  match v with
  | .bool b => .ok (if b then 1 else 0)
  | .int i => .ok i
  | .text s => (readInteger 10 s.toList).mapError fun _ => .notInteger v
  | .null => .error (.notInteger v)

/-- An integer that the wire can carry. -/
def intLeaf (v : Value) : Except LeafFault Value := do
  let i ← integerLeaf v
  match v with
  | .bool _ => return .int i
  | _ => if fitsInt i then return .int i else throw (.outsideInt v)

def stringLeaf : Value → Except LeafFault Value
  | .text s => .ok (.text s)
  | .bool b => .ok (.text (if b then "true" else "false"))
  | .int i => .ok (.text (decimalText i))
  | .null => .error .notText

def booleanLeaf : Value → Except LeafFault Value
  | .bool b => .ok (.bool b)
  | .int i => .ok (.bool (i != 0))
  | v => .error (.notBoolean v)

def idLeaf : Value → Except LeafFault Value
  | .text s => .ok (.text s)
  | .int i => .ok (.text (decimalText i))
  | v => .error (.notId v)

def outputAsScalar (kind : Scalar) (v : Value) : Except LeafFault Value :=
  match kind with
  | .address => ((Felt.canonical v.toDatum).map .text).mapError .scalar
  | .felt => ((Felt.canonical v.toDatum).map .text).mapError .scalar
  | .dateTime => ((Scalar.momentText v.toDatum).map .text).mapError .scalar
  | .int => intLeaf v
  | .string => stringLeaf v
  | .id => idLeaf v
  | .boolean => booleanLeaf v

end WorldQuery.Query
