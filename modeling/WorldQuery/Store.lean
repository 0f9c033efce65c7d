import WorldQuery.Number.Plain
import WorldQuery.Datum

/-!
# The store

A store is a list of tables; a table has columns without declared types and rows in order of
insertion. Data keep their kinds, except that truth values become integers, moments become texts and
a NaN becomes null. Names of tables and columns are found regardless of ASCII case.

A column may be named plainly or between quotes. A plain name that the table lacks is a fault; a
quoted one is a name of the row numbers, which every table has, or stands for its own text.
-/

namespace WorldQuery

open Number Text

/-- A row of a table: its number and one datum for every column. -/
structure StoredRow where
  number : Nat
  data : List Datum
  deriving Repr, Inhabited

/-- A table: its columns and its rows, whose numbers increase. -/
structure Table where
  name : String
  columns : List String
  rows : List StoredRow
  deriving Repr, Inhabited

/-- The tables of a store, and whether it can be opened at all. -/
structure Store where
  tables : List Table
  reachable : Bool
  deriving Repr, Inhabited

/-- Why the store did not answer. -/
inductive StoreFault where
  | unreachable
  | noTable (name : String)
  | noColumn (name : String)
  /-- A matching row has no value under the name of a selected column. -/
  | columnNotInRow (name : String)
  /-- A statement has a parameter without a value. -/
  | unboundParameter (name : String)
  /-- A statement has a place for a parameter that it does not declare. -/
  | unknownParameter (name : String)
  /-- A statement binds some number of values and is given another. -/
  | bindingCount (bound supplied : Nat)
  | nullCharacter
  | tooManyColumns
  | noStore
  deriving DecidableEq, Repr

def StoreFault.message : StoreFault → String
  | .unreachable => "(sqlite3.OperationalError) unable to open database file"
  | .noTable name => "(sqlite3.OperationalError) no such table: " ++ name
  | .noColumn name => "(sqlite3.OperationalError) no such column: " ++ name
  | .columnNotInRow name => "Could not locate column in row for column '" ++ name ++ "'"
  | .unboundParameter name =>
    "(sqlalchemy.exc.InvalidRequestError) A value is required for bind parameter " ++ quote name
  | .unknownParameter name => "(builtins.KeyError) " ++ quote name
  | .bindingCount bound supplied =>
    "(sqlite3.ProgrammingError) Incorrect number of bindings supplied. The current statement uses "
      ++ decimalText bound ++ ", and there are " ++ decimalText supplied ++ " supplied."
  | .nullCharacter => "(sqlite3.ProgrammingError) the query contains a null character"
  | .tooManyColumns => "(sqlite3.OperationalError) too many columns in result set"
  | .noStore => "No store engine in query context"

/-- A row as it is read: every value under the name of its column. -/
abbrev Row := List (String × Datum)

namespace Store

/-- Equality of names regardless of ASCII case. -/
def sameName (a b : String) : Bool :=
  a.toList.map Binary64.asciiLower == b.toList.map Binary64.asciiLower

def kept : Datum → Datum
  | .bool b => .int (if b then 1 else 0)
  | .real x => if x.isNaN then .null else .real x
  | .moment m => .text m.plainText
  | d => d

def compareQuotients (a : Int) (b : Nat) (c : Int) (d : Nat) : Ordering := compare (a * d) (c * b)

def quotient (x : Binary64) : Int × Nat :=
  (if x.signed then -(x.numerator : Int) else x.numerator, x.denominator)

def compareIntReal (i : Int) (x : Binary64) : Ordering :=
  if x.isInfinite then (if x.signed then .gt else .lt)
  else
    let (n, d) := quotient x
    compareQuotients i 1 n d

/-- The rank of a datum's kind in the store's order: nothing, numbers, texts, bytes. -/
def kindRank : Datum → Nat
  | .null => 0
  | .bool _ | .int _ | .real _ => 1
  | .text _ => 2
  | _ => 3

/-- Compares two floating point numbers, neither of which is a NaN. -/
def compareReals (x y : Binary64) : Ordering :=
  if x.isInfinite then
    if y.isInfinite && x.signed == y.signed then .eq
    else if x.signed then .lt else .gt
  else if y.isInfinite then (if y.signed then .gt else .lt)
  else
    let (a, b) := quotient x
    let (c, d) := quotient y
    compareQuotients a b c d

/-- The store's order on data: by kind, then numbers by value, texts and bytes lexicographically. -/
def compareData (a b : Datum) : Ordering :=
  match a, b with
  | .int i, .int j => compare i j
  | .int i, .real y => compareIntReal i y
  | .real x, .int j => (compareIntReal j x).swap
  | .real x, .real y => compareReals x y
  | .text s, .text t =>
    compareLex (s.toList.map Char.toNat) (t.toList.map Char.toNat)
  | .blob s, .blob t => compareLex (s.map UInt8.toNat) (t.map UInt8.toNat)
  | a, b => compare (kindRank a) (kindRank b)
where
  /-- Lexicographic comparison of code sequences. -/
  compareLex : List Nat → List Nat → Ordering
    | [], [] => .eq
    | [], _ :: _ => .lt
    | _ :: _, [] => .gt
    | x :: xs, y :: ys => (compare x y).then (compareLex xs ys)

/-- Two data are the same if the store orders neither before the other. -/
instance : BEq Datum := ⟨fun a b => compareData a b == .eq⟩

/-- Equality in the store: nothing equals null. -/
def equalData (a b : Datum) : Bool := !a.isNull && !b.isNull && compareData a b == .eq

def isSpace (c : Char) : Bool := c == ' ' || (9 ≤ c.toNat && c.toNat ≤ 13)

def table? (s : Store) (name : String) : Option Table := s.tables.find? (sameName ·.name name)

/-- The table of a name in a store that has to be open. -/
def table (s : Store) (name : String) : Except StoreFault Table :=
  if s.reachable then
    match s.table? name with
    | some t => .ok t
    | none => .error (.noTable name)
  else .error .unreachable

end Store

namespace Table

def position? (t : Table) (column : String) : Option Nat :=
  t.columns.findIdx? (Store.sameName · column)

/-- The position of a column named plainly. -/
def position (t : Table) (column : String) : Except StoreFault Nat :=
  match t.position? column with
  | some i => .ok i
  | none => .error (.noColumn column)

def cell (row : StoredRow) (i : Nat) : Datum := row.data.getD i .null

def numberNames : List String := ["rowid", "oid", "_rowid_"]

/-- The name under which a row number is read. -/
def numberName : String := "rowid"

/-- What a quoted name stands for in a table. -/
inductive Quoted where
  | column (position : Nat)
  | rowNumber
  | itself

/-- The meaning of a quoted name. Columns come before row numbers. -/
def quotedMeaning (t : Table) (column : String) : Quoted :=
  match t.position? column with
  | some i => .column i
  | none => if numberNames.any (Store.sameName · column) then .rowNumber else .itself

/-- The value of a quoted column in a row, under the name that the table declares for it. A name
that stands for its own text has its value under the quoted name. -/
def quotedCell (t : Table) (row : StoredRow) (column : String) : String × Datum :=
  match t.quotedMeaning column with
  | .column i => (t.columns.getD i column, cell row i)
  | .rowNumber => (numberName, .int row.number)
  | .itself => ("\"" ++ column ++ "\"", .text column)

/-- A text that is compared with numbers: the number that it is written as, if it is. -/
def asNumber (s : String) : Datum :=
  let body := (s.toList.dropWhile Store.isSpace).reverse.dropWhile Store.isSpace
  let (negative, digits) := splitSign body.reverse
  match readPlainDecimal negative digits with
  | some x => .real x
  | none => .text s

/-- Whether a quoted column of a row equals a datum. Texts are compared with row numbers as the
numbers that they are written as. -/
def holds (t : Table) (row : StoredRow) (column : String) (value : Datum) : Bool :=
  match t.quotedMeaning column, value with
  | .rowNumber, .text s => Store.equalData (.int row.number) (asNumber s)
  | _, _ => Store.equalData (t.quotedCell row column).2 value

/-- The first row whose quoted column equals a text, with the selected quoted columns. -/
def firstWhere (t : Table) (columns : List String) (column id : String) : Option Row :=
  (t.rows.find? fun row => t.holds row column (.text id)).map fun row =>
    columns.map (t.quotedCell row)

/-- The data of an insertion as they are kept, one for every column. -/
def fit (t : Table) (data : List Datum) : List Datum :=
  t.columns.zipIdx.map fun (_, i) => Store.kept (data.getD i .null)

/-- The number of the next row: one more than that of the last. -/
def nextNumber (t : Table) : Nat := (t.rows.getLast?.map (·.number)).getD 0 + 1

/-- Adds rows at the end. -/
def insert (t : Table) (rows : List (List Datum)) : Table :=
  { t with rows := t.rows ++ rows.zipIdx.map fun (data, i) => ⟨t.nextNumber + i, t.fit data⟩ }

/-- Removes the rows whose column equals a datum. -/
def delete (t : Table) (column : String) (value : Datum) : Table :=
  { t with rows := t.rows.filter fun row => !t.holds row column (Store.kept value) }

end Table

namespace Store

def empty : Store := ⟨[], true⟩

/-- A store that cannot be opened. -/
def closed : Store := ⟨[], false⟩

def create (s : Store) (name : String) (columns : List String) (rows : List (List Datum)) : Store :=
  { s with tables := s.tables ++ [(Table.mk name columns []).insert rows] }

def drop (s : Store) (name : String) : Store :=
  { s with tables := s.tables.filter (!sameName ·.name name) }

def modify (s : Store) (name : String) (f : Table → Table) : Store :=
  { s with tables := s.tables.map fun t => if sameName t.name name then f t else t }

def insert (s : Store) (name : String) (rows : List (List Datum)) : Store :=
  s.modify name (·.insert rows)

def delete (s : Store) (name column : String) (value : Datum) : Store :=
  s.modify name (·.delete column value)

/-- Whether the store answers at all. -/
def ping (s : Store) : Bool := s.reachable

end Store

end WorldQuery
