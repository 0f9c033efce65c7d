import WorldQuery.Store
import WorldQuery.Text.Blank
import WorldQuery.Text.Word

/-!
# Statements

A storage row is fetched by a statement that names columns and a table between quotes and gives the
wanted id by a parameter `:id`. Marks of parameters count inside quotes too: a name with such a mark
asks for a parameter that nothing is bound to, and one that only looks like a mark can lose its
backslash. `Prepared.of` settles what the statement names in the end and how many values it binds.
-/

namespace WorldQuery.Statement

open Text

def idParameter : String := "id"

/-- A name between quotes; a quote inside it is written twice. -/
def quotedName (name : String) : List Char :=
  '"' :: (name.toList.flatMap fun c => if c = '"' then ['"', '"'] else [c]) ++ ['"']

/-- The statement that fetches the first row whose column equals the wanted id. -/
def ofNames (columns : List String) (table column : String) : List Char :=
  "SELECT ".toList ++ List.intercalate ", ".toList (columns.map quotedName) ++ " FROM ".toList ++
    quotedName table ++ " WHERE ".toList ++ quotedName column ++ " = :id LIMIT 1".toList

/-- Characters of the name in a mark. -/
def isMarkChar (c : Char) : Bool := isWordChar c || c == '$'

/-- Whether a character in front of a colon keeps it from starting a declaration. -/
def hidesDeclaration (c : Char) : Bool := c == ':' || c == '\\' || isWordChar c

/-- The names of the parameters that a statement declares: word characters after a colon. A name
that runs up to another colon ends one character earlier. `last` is the character before the
text. -/
def declared (last : Char) (text : List Char) : List String :=
  match text with
  | [] => []
  | c :: rest =>
    let run := rest.takeWhile isWordChar
    let name := if (rest.dropWhile isWordChar).head? = some ':' then run.dropLast else run
    if c = ':' ∧ !hidesDeclaration last ∧ !name.isEmpty then
      String.ofList name :: declared c rest
    else declared c rest

/-- A statement in parts: characters that stand for themselves, and marks of parameters. -/
inductive Part where
  | plain (c : Char)
  | mark (name : String)
  deriving DecidableEq, Repr

/-- The parts of a statement. A mark is a colon with a name that no other colon follows. -/
def parts (last : Char) (text : List Char) : List Part :=
  match text with
  | [] => []
  | c :: rest =>
    let name := rest.takeWhile isMarkChar
    let left := rest.dropWhile isMarkChar
    if c = ':' ∧ !hidesDeclaration last ∧ last ≠ '$' ∧ !name.isEmpty ∧ left.head? ≠ some ':' then
      .mark (String.ofList name) :: parts c left
    else .plain c :: parts c rest
termination_by text.length
decreasing_by
  · have h := (List.dropWhile_suffix isMarkChar (l := rest)).length_le
    simp only [List.length_cons]
    omega
  · simp

def marks (ps : List Part) : List String :=
  ps.filterMap fun
    | .plain _ => none
    | .mark name => some name

/-- A statement with its marks written as named places. -/
def withPlaces (ps : List Part) : List Char :=
  ps.flatMap fun
    | .plain c => [c]
    | .mark name => "%(".toList ++ name.toList ++ ")s".toList

/-- Drops the backslash before a colon that would start a mark otherwise. -/
def unescaped (text : List Char) : List Char :=
  match text with
  | '\\' :: ':' :: rest =>
    if (rest.dropWhile isMarkChar).head? = some ':' then '\\' :: unescaped (':' :: rest)
    else ':' :: unescaped rest
  | c :: rest => c :: unescaped rest
  | [] => []
termination_by text.length

/-- What a statement becomes for the store: its text, and the names of the places in it. -/
structure Placed where
  text : List Char
  names : List String

/-- What follows the end of a later place: a bracket, perhaps with a part between pairs of swung
dashes before it. -/
def closeLater : List Char → Option (List Char)
  | ']' :: rest => some rest
  | '~' :: '~' :: c :: rest => if c = '\n' then none else closeDashes rest
  | _ => none
where
  /-- What follows the next pair of dashes with a bracket, on the same line. -/
  closeDashes : List Char → Option (List Char)
    | '~' :: '~' :: ']' :: rest => some rest
    | c :: rest => if c = '\n' then none else closeDashes rest
    | [] => none

/-- The name of a later place, reversed and joined to what was read of it, and what follows. -/
def laterName (name : List Char) : List Char → Option (List Char × List Char)
  | [] => none
  | c :: rest =>
    if isBlank c then none
    else
      match closeLater rest with
      | some left => some (c :: name, left)
      | none => laterName (c :: name) rest

/-- What starts a later place. -/
def laterMark : List Char := "__[POSTCOMPILE_".toList

/-- A place at the front of a text: its name, its text for the store, and what follows. A named place
becomes a question mark. A later place, which would be filled when its values are known, stands. -/
def place? (text : List Char) : Option (List Char × List Char × List Char) :=
  match text with
  | '%' :: '(' :: rest =>
    let name := rest.takeWhile (· != ')')
    match rest.dropWhile (· != ')') with
    | ')' :: 's' :: left => if name.isEmpty then none else some (name, ['?'], left)
    | _ => none
  | _ =>
    if laterMark.isPrefixOf text then
      (laterName [] (text.drop laterMark.length)).map fun (name, left) =>
        (name.reverse, text.take (text.length - left.length), left)
    else none

/-- What a statement becomes for the store, for texts of a bounded length: all places are written as
the store has them. -/
def placedWithin : Nat → List Char → Placed
  | 0, _ => ⟨[], []⟩
  | _, [] => ⟨[], []⟩
  | room + 1, c :: rest =>
    match place? (c :: rest) with
    | some (name, shown, left) =>
      let more := placedWithin room left
      ⟨shown ++ more.text, String.ofList name :: more.names⟩
    | none =>
      let more := placedWithin room rest
      ⟨c :: more.text, more.names⟩

/-- What a statement becomes for the store. -/
def placed (text : List Char) : Placed := placedWithin text.length text

/-- The names between quotes, in order. `open?` is the name that has been started. -/
def quotedNames : Option (List Char) → List Char → List String
  | none, [] => []
  | some name, [] => [String.ofList name.reverse]
  | none, c :: rest => quotedNames (if c = '"' then some [] else none) rest
  | some name, '"' :: '"' :: rest => quotedNames (some ('"' :: name)) rest
  | some name, c :: rest =>
    if c = '"' then String.ofList name.reverse :: quotedNames none rest
    else quotedNames (some (c :: name)) rest

/-- A statement that the store can run: the names in it and the number of values given to it. -/
structure Prepared where
  table : String
  column : String
  supplied : Nat
  deriving DecidableEq, Repr

/-- Prepares the statement of some names. A mark that is declared needs a value, and so does a place
that has none; there is a value for `id` alone. -/
def Prepared.of (columns : List String) (table column : String) : Except StoreFault Prepared :=
  let text := ofNames columns table column
  let declarations := declared ' ' text
  let ps := parts ' ' text
  let isUnbound (name : String) : Bool := declarations.contains name && name != idParameter
  match (marks ps).find? isUnbound with
  | some name => .error (.unboundParameter name)
  | none =>
    let final := placed (unescaped (withPlaces ps))
    match final.names.find? (· != idParameter) with
    | some name => .error (.unknownParameter name)
    | none =>
      if final.text.contains '\x00' then .error .nullCharacter
      else
        match (quotedNames none final.text).reverse with
        | column :: table :: _ => .ok ⟨table, column, final.names.length⟩
        | _ => .ok ⟨table, column, final.names.length⟩

/-- The number of values that the statement binds. -/
def bindings : Nat := 1

/-- The most columns that a statement may select. -/
def columnLimit : Nat := 2000

/-- The first row of a table whose column equals an id, with the selected columns. -/
def fetch (s : Store) (columns : List String) (table column id : String) :
    Except StoreFault (Option Row) := do
  let prepared ← if s.reachable then Prepared.of columns table column else .error .unreachable
  let t ← s.table prepared.table
  if columnLimit < columns.length then throw .tooManyColumns
  else if prepared.supplied = bindings then return t.firstWhere columns prepared.column id
  else throw (.bindingCount bindings prepared.supplied)

end WorldQuery.Statement
