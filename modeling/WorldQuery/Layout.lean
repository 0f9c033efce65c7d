import WorldQuery.Assoc
import WorldQuery.Scalar
import WorldQuery.Text.Pieces

/-!
# Storage layouts

A storage definition lists the fields of a record, `name : type` pairs between commas, blanks
around names and types ignored. A type is a scalar word or one of the known record types.
`Layout.read` gives the fields in the order of the text or says what is wrong with the first pair
that is wrong.
-/

namespace WorldQuery

open Text

/-- The type of a field: a scalar kind or a record type by name. -/
inductive TypeRef where
  | scalar (kind : Scalar)
  | object (name : String)
  deriving DecidableEq, Repr

namespace TypeRef

def name : TypeRef → String
  | scalar kind => kind.name
  | object name => name

def isScalar : TypeRef → Bool
  | scalar _ => true
  | object _ => false

/-- The type with a given schema name: scalars win. -/
def ofName (name : String) : TypeRef :=
  match Scalar.ofName? name with
  | some kind => scalar kind
  | none => object name

end TypeRef

/-- Fields and their types, in the order of declaration. -/
abbrev Layout := List (String × TypeRef)

/-- What is wrong with a storage definition. -/
inductive LayoutCause where
  | empty
  | notPair (position : Nat) (text : String)
  | badName (position : Nat) (name : String)
  | duplicate (name : String)
  | unknownType (word : String)
  | missingType
  | undefined
  deriving DecidableEq, Repr

def LayoutCause.message : LayoutCause → String
  | .empty => "Storage definition is empty"
  | .notPair position text =>
    "Expected 'name:type' at position " ++ Number.decimalText position ++ ", got " ++ quote text
  | .badName position name =>
    "Invalid field name " ++ quote name ++ " at position " ++ Number.decimalText position
  | .duplicate name => "Duplicate field name " ++ quote name
  | .unknownType word => "Unknown type " ++ quote word
  | .missingType => "Missing type token"
  | .undefined => "No storage definition"

/-- A storage definition that cannot be read, and the type that it was read for. -/
structure LayoutFault where
  cause : LayoutCause
  definition : String
  owner : String
  deriving DecidableEq, Repr

/-- The wording of a fault, with the owning type in front if it has a name. -/
def LayoutFault.message (f : LayoutFault) : String :=
  if f.owner = "" then f.cause.message else "[" ++ f.owner ++ "] " ++ f.cause.message

namespace Layout

def isNameStart (c : Char) : Bool := c == '_' || ('A' ≤ c && c ≤ 'Z') || ('a' ≤ c && c ≤ 'z')

def isNamePart (c : Char) : Bool := isNameStart c || ('0' ≤ c && c ≤ '9')

/-- A letter or underscore followed by letters, digits and underscores (ASCII), but not two
underscores in front. -/
def isFieldName : List Char → Bool
  | [] => false
  | c :: rest => isNameStart c && rest.all isNamePart && !(c == '_' && rest.head? == some '_')

/-- The type that a word names. Scalar words win over record types. -/
def resolve (known : List String) (word : String) : Except LayoutCause TypeRef :=
  match Scalar.lookup word with
  | some kind => .ok (.scalar kind)
  | none =>
    if known.contains word then .ok (.object word)
    else if word = "" then .error .missingType
    else .error (.unknownType word)

/-- Reads one pair, after the fields in `earlier`. -/
def readPair (known : List String) (position : Nat) (earlier : Layout) (pair : List Char) :
    Except LayoutCause (String × TypeRef) :=
  match cutAt ':' pair with
  | none => .error (.notPair position (String.ofList (trim pair)))
  | some (left, right) =>
    let name := String.ofList (trim left)
    if !isFieldName (trim left) then .error (.badName position name)
    else if Assoc.has earlier name then .error (.duplicate name)
    else (resolve known (String.ofList (trim right))).map fun type => (name, type)

/-- Reads the pairs from a position on, after the fields in `earlier`. -/
def readPairs (known : List String) (position : Nat) (earlier : Layout) :
    List (List Char) → Except LayoutCause Layout
  | [] => .ok earlier
  | pair :: rest => do
    let field ← readPair known position earlier pair
    readPairs known (position + 1) (earlier ++ [field]) rest

def readChars (known : List String) (definition : List Char) : Except LayoutCause Layout :=
  if definition.all isBlank then .error .empty
  else readPairs known 0 [] (pieces (· == ',') definition)

def read (known : List String) (owner definition : String) : Except LayoutFault Layout :=
  (readChars known definition.toList).mapError fun cause => ⟨cause, definition, owner⟩

end Layout

end WorldQuery
