import WorldQuery.Felt
import WorldQuery.Time.Iso

/-!
# Scalar kinds

The closed set of scalar kinds, the words that name them in storage definitions, and the reading of
a stored datum as a value of each kind.
-/

namespace WorldQuery

open Number Text Time

inductive Scalar where
  | address
  | felt
  | dateTime
  | string
  | id
  | int
  | boolean
  deriving DecidableEq, Repr

namespace Scalar

/-- All kinds, in the order of their registry. -/
def all : List Scalar := [address, felt, dateTime, string, id, int, boolean]

def name : Scalar → String
  | address => "Address"
  | felt => "Felt"
  | dateTime => "DateTime"
  | string => "String"
  | id => "ID"
  | int => "Int"
  | boolean => "Boolean"

def ofName? (name : String) : Option Scalar := all.find? (·.name == name)

/-- Primitive type words of storage definitions. Integers wider than sixteen bits do not fit the
schema's `Int` and are field elements. -/
def aliases : List (String × Scalar) :=
  [("felt252", felt), ("ContractAddress", address), ("ClassHash", felt), ("bool", boolean),
    ("u8", int), ("u16", int), ("u32", felt), ("u64", felt), ("usize", felt), ("u128", felt),
    ("u256", felt)]

/-- The kind that a word of a storage definition names: a schema name or an alias. -/
def lookup (word : String) : Option Scalar :=
  match ofName? word with
  | some s => some s
  | none => aliases.lookup word

/-- The text of a timestamp datum in UTC. -/
def momentText (d : Datum) : Except ScalarFault String :=
  match d with
  | .text s => (readMoment (trim s.toList)).bind Moment.utcText |>.mapError .time
  | .moment m => m.utcText.mapError .time
  | _ => .error (.notMoment d.kindName)

def integerOf (d : Datum) : Except ScalarFault Int :=
  match d with
  | .int i => .ok i
  | .text s => (readInteger 10 s.toList).mapError .numeral
  | _ => .error (.notInteger d.kindName)

/-- Reads a datum as a truth value; one and zero count. -/
def booleanOf (d : Datum) : Except ScalarFault Bool :=
  match d with
  | .bool b => .ok b
  | .int 0 => .ok false
  | .int 1 => .ok true
  | _ => .error (.showing d (.notBoolean d))

def textOf (d : Datum) : Except ScalarFault String :=
  if d.isWritable then .ok d.plain else .error .unwritable

def coerce (s : Scalar) (d : Datum) : Except ScalarFault Value :=
  match s with
  | address | felt => (Felt.canonical d).map .text
  | dateTime => (momentText d).map .text
  | int => (integerOf d).map .int
  | boolean => (booleanOf d).map .bool
  | string | id => (textOf d).map .text

end Scalar

end WorldQuery
