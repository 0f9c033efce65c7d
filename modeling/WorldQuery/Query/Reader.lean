import WorldQuery.Query.Document
import WorldQuery.Query.Token

/-!
# Reading query documents

A document is one or more definitions: operations, fragments, and definitions or extensions of
types, of which only the form is checked. Braces and brackets may be nested to a limited depth. A
reading function takes a bound on the number of items in a row, the number of levels that are left
where it can nest, and the tokens that are left; `Document.read` gives the bound from the number of
tokens.
-/

namespace WorldQuery.Query

/-- A step of reading: it takes tokens from the front, or fails. -/
abbrev Reading (α : Type) := StateT (List Token) Option α

namespace Reading

/-- The next token, if any, without taking it. -/
def peek : Reading (Option Token) := fun ts => some (ts.head?, ts)

def take : Reading Token
  | [] => none
  | t :: ts => some (t, ts)

/-- Takes a token that has to be the given one. -/
def expect (t : Token) : Reading Unit
  | [] => none
  | u :: ts => if u = t then some ((), ts) else none

/-- Takes a token if it is the given one, and tells so. -/
def skip (t : Token) : Reading Bool
  | [] => some (false, [])
  | u :: ts => if u = t then some (true, ts) else some (false, u :: ts)

def next? (t : Token) : Reading Bool := fun ts => some (ts.head? == some t, ts)

def name : Reading String
  | .name s :: ts => some (s, ts)
  | _ => none

def keyword (word : String) : Reading Unit := expect (.name word)

/-- Items up to a closing token, which is taken too. -/
def upTo {α : Type} (close : Char) (item : Reading α) : Nat → Reading (List α)
  | 0 => failure
  | room + 1 => do
    if ← skip (.mark close) then return []
    else do
      let x ← item
      let xs ← upTo close item room
      return x :: xs

/-- One item at least between two tokens. -/
def many {α : Type} (room : Nat) (openMark close : Char) (item : Reading α) : Reading (List α) := do
  expect (.mark openMark)
  let x ← item
  let xs ← upTo close item room
  return x :: xs

/-- As `many`, or nothing if the first token is missing. -/
def optionalMany {α : Type} (room : Nat) (openMark close : Char) (item : Reading α) :
    Reading (List α) := do
  if ← next? (.mark openMark) then many room openMark close item else return []

def delimitedRest {α : Type} (delimiter : Char) (item : Reading α) : Nat → Reading (List α)
  | 0 => failure
  | room + 1 => do
    if ← skip (.mark delimiter) then
      let x ← item
      let xs ← delimitedRest delimiter item room
      return x :: xs
    else return []

/-- One item at least, with delimiters between them and perhaps one in front. -/
def delimited {α : Type} (room : Nat) (delimiter : Char) (item : Reading α) : Reading (List α) := do
  let _ ← skip (.mark delimiter)
  let x ← item
  let xs ← delimitedRest delimiter item room
  return x :: xs

end Reading

open Reading

def Literal.ofWord (word : String) : Literal :=
  if word = "true" then .bool true
  else if word = "false" then .bool false
  else if word = "null" then .null
  else .enum word

/-- A value; a constant one has no variables. Lists and objects go on with the given readings. -/
def readValueWith (constant : Bool) (items : Reading (List Literal))
    (members : Reading (List (String × Literal))) : Reading Literal := do
  match ← take with
  | .int text => return .int text
  | .float text => return .float text
  | .string text block => return .string text block
  | .name word => return Literal.ofWord word
  | .mark '$' => if constant then failure else return .variable (← name)
  | .mark '[' => return .list (← items)
  | .mark '{' => return .object (← members)
  | _ => failure

def readMember (value : Reading Literal) : Reading (String × Literal) := do
  let key ← name
  expect (.mark ':')
  return (key, ← value)

def readValue (constant : Bool) (room : Nat) : Nat → Reading Literal
  | 0 => readValueWith constant failure failure
  | levels + 1 =>
    readValueWith constant (upTo ']' (readValue constant room levels) room)
      (upTo '}' (readMember (readValue constant room levels)) room)

def readArgument (constant : Bool) (room levels : Nat) : Reading Argument := do
  let (key, value) ← readMember (readValue constant room levels)
  return ⟨key, value⟩

def readArguments (constant : Bool) (room levels : Nat) : Reading (List Argument) :=
  optionalMany room '(' ')' (readArgument constant room levels)

def readDirectivesFrom (constant : Bool) (room levels : Nat) : Nat → Reading (List Directive)
  | 0 => failure
  | more + 1 => do
    if ← skip (.mark '@') then
      let word ← name
      let arguments ← readArguments constant room levels
      let rest ← readDirectivesFrom constant room levels more
      return ⟨word, arguments⟩ :: rest
    else return []

def readDirectives (constant : Bool) (room levels : Nat) : Reading (List Directive) :=
  readDirectivesFrom constant room levels room

/-- A type; a list goes on with the given reading. -/
def readTypeWith (item : Reading TypeExpr) : Reading TypeExpr := do
  let inner ←
    if ← skip (.mark '[') then do
      let type ← item
      expect (.mark ']')
      pure (TypeExpr.list type)
    else do pure (TypeExpr.named (← name))
  if ← skip (.mark '!') then return .nonNull inner else return inner

def readType : Nat → Reading TypeExpr
  | 0 => readTypeWith failure
  | levels + 1 => readTypeWith (readType levels)

/-- A selection; nested selections are read by the given reading. After three dots a name other than
`on` is that of a fragment. -/
def readSelectionWith (room levels : Nat) (nested : Reading (List Selection)) :
    Reading Selection := do
  if ← skip .spread then
    if ← skip (.name "on") then
      let type ← name
      let directives ← readDirectives false room levels
      return .group (some type) directives (← nested)
    else
      match ← peek with
      | some (.name fragment) =>
        let _ ← take
        return .spread fragment (← readDirectives false room levels)
      | _ =>
        let directives ← readDirectives false room levels
        return .group none directives (← nested)
  else
    let first ← name
    let aliased ← skip (.mark ':')
    let word ← if aliased then name else pure first
    let arguments ← readArguments false room levels
    let directives ← readDirectives false room levels
    let selections ← if ← next? (.mark '{') then nested else pure []
    return .field (if aliased then some first else none) word arguments directives selections

def readSelection (room : Nat) : Nat → Reading Selection
  | 0 => readSelectionWith room 0 failure
  | levels + 1 =>
    readSelectionWith room (levels + 1) (many room '{' '}' (readSelection room levels))

/-- The most levels in which braces and brackets may be nested. -/
def levelLimit : Nat := 200

/-- Selections in braces, which are one level themselves. -/
def readSelections (room : Nat) : Reading (List Selection) :=
  many room '{' '}' (readSelection room (levelLimit - 1))

def readDescription : Reading Bool := do
  match ← peek with
  | some (.string _ _) =>
    let _ ← take
    return true
  | _ => return false

def readVariable (room : Nat) : Reading VariableDef := do
  let _ ← readDescription
  expect (.mark '$')
  let word ← name
  expect (.mark ':')
  let type ← readType levelLimit
  let default? ← if ← skip (.mark '=') then some <$> readValue true room levelLimit else pure none
  return ⟨word, type, default?, ← readDirectives true room levelLimit⟩

def OperationKind.ofWord (word : String) : Option OperationKind :=
  if word = "query" then some .query
  else if word = "mutation" then some .mutation
  else if word = "subscription" then some .subscription
  else none

/-- An operation after its first word. -/
def readOperation (room : Nat) (kind : OperationKind) : Reading Operation := do
  let name? ←
    match ← peek with
    | some (.name _) => some <$> name
    | _ => pure none
  let declared ← optionalMany room '(' ')' (readVariable room)
  let directives ← readDirectives false room levelLimit
  return ⟨kind, name?, declared, directives, ← readSelections room⟩

/-- A fragment after its first word. -/
def readFragment (room : Nat) : Reading Fragment := do
  let word ← name
  if word = "on" then failure
  keyword "on"
  let type ← name
  let directives ← readDirectives false room levelLimit
  return ⟨word, type, directives, ← readSelections room⟩

namespace TypeSystem

def directives (room : Nat) : Reading Bool := do
  return !(← readDirectives true room levelLimit).isEmpty

def rootType : Reading Unit := do
  match OperationKind.ofWord (← name) with
  | some _ =>
    expect (.mark ':')
    let _ ← name
  | none => failure

def interfaces (room : Nat) : Reading Bool := do
  if ← skip (.name "implements") then
    let _ ← delimited room '&' name
    return true
  else return false

def inputValue (room : Nat) : Reading Unit := do
  let _ ← readDescription
  let _ ← name
  expect (.mark ':')
  let _ ← readType levelLimit
  if ← skip (.mark '=') then
    let _ ← readValue true room levelLimit
  let _ ← directives room

def arguments (room : Nat) : Reading Unit := do
  let _ ← optionalMany room '(' ')' (inputValue room)

def fieldDefinition (room : Nat) : Reading Unit := do
  let _ ← readDescription
  let _ ← name
  arguments room
  expect (.mark ':')
  let _ ← readType levelLimit
  let _ ← directives room

def fields (room : Nat) : Reading Bool := do
  return !(← optionalMany room '{' '}' (fieldDefinition room)).isEmpty

/-- A value of an enumeration, which is none of the reserved words. -/
def enumValue (room : Nat) : Reading Unit := do
  let _ ← readDescription
  let word ← name
  if word = "true" ∨ word = "false" ∨ word = "null" then failure
  let _ ← directives room

def members (room : Nat) : Reading Bool := do
  if ← skip (.mark '=') then
    let _ ← delimited room '|' name
    return true
  else return false

def locations : List String :=
  ["QUERY", "MUTATION", "SUBSCRIPTION", "FIELD", "FRAGMENT_DEFINITION", "FRAGMENT_SPREAD",
    "INLINE_FRAGMENT", "VARIABLE_DEFINITION", "SCHEMA", "SCALAR", "OBJECT", "FIELD_DEFINITION",
    "ARGUMENT_DEFINITION", "INTERFACE", "UNION", "ENUM", "ENUM_VALUE", "INPUT_OBJECT",
    "INPUT_FIELD_DEFINITION", "DIRECTIVE_DEFINITION"]

def location : Reading Unit := do
  if locations.contains (← name) then return else failure

/-- A definition of the type system after its first word. An extension has to add something. -/
def definition (room : Nat) (extending : Bool) (word : String) : Reading Unit := do
  let complete (added : Bool) : Reading Unit := if extending && !added then failure else return
  if word = "schema" then
    let marked ← directives room
    if extending then
      let roots ← optionalMany room '{' '}' rootType
      complete (marked || !roots.isEmpty)
    else
      let _ ← many room '{' '}' rootType
  else if word = "scalar" then
    let _ ← name
    complete (← directives room)
  else if word = "type" ∨ word = "interface" then
    let _ ← name
    let a ← interfaces room
    let b ← directives room
    let c ← fields room
    complete (a || b || c)
  else if word = "union" then
    let _ ← name
    let a ← directives room
    let b ← members room
    complete (a || b)
  else if word = "enum" then
    let _ ← name
    let a ← directives room
    let values ← optionalMany room '{' '}' (enumValue room)
    complete (a || !values.isEmpty)
  else if word = "input" then
    let _ ← name
    let a ← directives room
    let values ← optionalMany room '{' '}' (inputValue room)
    complete (a || !values.isEmpty)
  else if word = "directive" ∧ !extending then
    expect (.mark '@')
    let _ ← name
    arguments room
    let _ ← skip (.name "repeatable")
    keyword "on"
    let _ ← delimited room '|' location
  else failure

end TypeSystem

def readTypeSystem (room : Nat) (extending : Bool) (word : String) : Reading Definition := do
  TypeSystem.definition room extending word
  return .typeSystem

/-- A definition. Selections without a word in front and extensions have no description. -/
def readDefinition (room : Nat) : Reading Definition := do
  if ← next? (.mark '{') then
    return .operation ⟨.query, none, [], [], ← readSelections room⟩
  else
    let described ← readDescription
    let word ← name
    match OperationKind.ofWord word with
    | some kind => return .operation (← readOperation room kind)
    | none =>
      if word = "fragment" then return .fragment (← readFragment room)
      else if word = "extend" then
        if described then failure else readTypeSystem room true (← name)
      else readTypeSystem room false word

def readDefinitions (room : Nat) : Nat → Reading Document
  | 0 => failure
  | more + 1 => do
    let d ← readDefinition room
    match ← peek with
    | none => return [d]
    | some _ => return d :: (← readDefinitions room more)

def Document.read (text : String) : Option Document := do
  let tokens ← Token.scan text
  let room := tokens.length + 1
  let (doc, _) ← (readDefinitions room room).run tokens
  return doc

def Literal.read (text : String) : Option Literal := do
  let tokens ← Token.scan text
  match ← (readValue false (tokens.length + 1) levelLimit).run tokens with
  | (value, []) => some value
  | _ => none

end WorldQuery.Query
