import WorldQuery.Issue
import WorldQuery.Layout
import WorldQuery.Record
import WorldQuery.Store
import WorldQuery.Text.Surrogate

/-!
# Faults of resolving

Whatever can go wrong while a record is fetched and decoded is one of a few causes; each keeps the
data that its wording needs.
-/

namespace WorldQuery

open Number Text

/-- Why a record cannot be fetched, decoded or read. -/
inductive Fault where
  | scalar (fault : ScalarFault)
  | layout (fault : LayoutFault)
  | record (fault : RecordFault)
  | row (issues : List Issue)
  | store (fault : StoreFault)
  /-- A limit that the store's integers cannot hold. -/
  | limitTooLarge
  /-- An id in which surrogates stand on their own, so that the store cannot encode it. -/
  | unencodable (codes : List Nat)
  /-- The name of a component is no text. -/
  | nameNotText (name : Datum)
  /-- The storage definition of a component is no text. -/
  | definitionNotText (definition : Datum)
  /-- The storage definition of a component whose name is no text cannot be read. -/
  | layoutOfUnnamed (name : Datum) (fault : LayoutFault)
  deriving Repr

def strayMessage (d : Datum) : String :=
  "'" ++ d.kindName ++ "' object has no attribute 'strip'"

/-- The wording for code points that cannot be encoded: it names the first run of surrogates. -/
def unencodableMessage (codes : List Nat) : String :=
  let start := (codes.takeWhile (!isSurrogate ·)).length
  let run := (codes.drop start).takeWhile isSurrogate
  let place :=
    match run with
    | [n] =>
      " '\\u" ++ String.ofList (numeral 16 n) ++ "' in position " ++ decimalText start
    | _ => "s in position " ++ decimalText start ++ "-" ++ decimalText (start + run.length - 1)
  "'utf-8' codec can't encode character" ++ place ++ ": surrogates not allowed"

/-- The wording of a fault; the issues of a row have none. -/
def Fault.message : Fault → String
  | .scalar fault => fault.message
  | .layout fault => fault.message
  | .record fault => fault.message
  | .row _ => ""
  | .store fault => fault.message
  | .unencodable codes => unencodableMessage codes
  | .nameNotText (.blob _) => "cannot use a string pattern on a bytes-like object"
  | .nameNotText d => strayMessage d
  | .definitionNotText (.blob _) => "a bytes-like object is required, not 'str'"
  | .definitionNotText d => strayMessage d
  | .layoutOfUnnamed _ fault => fault.message
  | .limitTooLarge => "Python int too large to convert to SQLite INTEGER"

end WorldQuery
