import WorldQuery.Number.Binary64
import WorldQuery.Time.Moment

/-!
# Data of unknown shape

A datum is what a store column or a request can hold before anything is known about it. Messages
name its kind and show it by `Datum.shown`; a column declared as text stores `Datum.plain` of it.
-/

namespace WorldQuery

open Number Text Time

/-- A value of unknown shape. -/
inductive Datum where
  | null
  | bool (b : Bool)
  | int (i : Int)
  | real (x : Binary64)
  | text (s : String)
  /-- Code points among which surrogates stand on their own. -/
  | illFormed (codes : List Nat)
  | blob (bytes : List UInt8)
  | moment (m : Moment)
  | list (items : List Datum)
  | object (fields : List (String × Datum))
  deriving Repr, Inhabited

namespace Datum

def kindName : Datum → String
  | null => "NoneType"
  | bool _ => "bool"
  | int _ => "int"
  | real _ => "float"
  | text _ => "str"
  | illFormed _ => "str"
  | blob _ => "bytes"
  | moment _ => "datetime"
  | list _ => "list"
  | object _ => "dict"

def boolText (b : Bool) : String := if b then "True" else "False"

mutual

def shown : Datum → String
  | null => "None"
  | bool b => boolText b
  | int i => decimalText i
  | real x => String.ofList x.render
  | text s => quote s
  | illFormed codes => String.ofList (quotedCodes codes)
  | blob bytes => String.ofList (quotedBytes bytes)
  | moment m => m.shownText
  | list items => "[" ++ String.intercalate ", " (shownItems items) ++ "]"
  | object fields => "\x7b" ++ String.intercalate ", " (shownFields fields) ++ "\x7d"

def shownItems : List Datum → List String
  | [] => []
  | d :: rest => d.shown :: shownItems rest

def shownFields : List (String × Datum) → List String
  | [] => []
  | (name, d) :: rest => (quote name ++ ": " ++ d.shown) :: shownFields rest

end

/-- A datum as plain text: texts and moments stand for themselves. -/
def plain : Datum → String
  | text s => s
  | moment m => m.plainText
  | d => d.shown

mutual

/-- No integer in the datum has more digits than a decimal numeral may have. -/
def isWritable : Datum → Bool
  | int i => decide ((digits 10 i.natAbs).length ≤ digitLimit)
  | list items => allWritable items
  | object fields => fieldsWritable fields
  | _ => true

def allWritable : List Datum → Bool
  | [] => true
  | d :: rest => d.isWritable && allWritable rest

def fieldsWritable : List (String × Datum) → Bool
  | [] => true
  | (_, d) :: rest => d.isWritable && fieldsWritable rest

end

def isNull : Datum → Bool
  | null => true
  | _ => false

end Datum

end WorldQuery
