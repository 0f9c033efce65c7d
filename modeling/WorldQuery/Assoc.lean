/-!
# Ordered tables

A table is a list of pairs in the order in which its keys first arrived. `put` gives a present key a
new value in its old place and adds an absent one at the end.
-/

namespace WorldQuery.Assoc

variable {α : Type}

def keys (table : List (String × α)) : List String := table.map (·.1)

def get? (table : List (String × α)) (key : String) : Option α := table.lookup key

def has (table : List (String × α)) (key : String) : Bool := (keys table).contains key

def put (table : List (String × α)) (key : String) (value : α) : List (String × α) :=
  match table with
  | [] => [(key, value)]
  | (k, v) :: rest => if k = key then (k, value) :: rest else (k, v) :: put rest key value

/-- The table of a list of pairs: of a repeated key the first place and the last value count. -/
def ofList (pairs : List (String × α)) : List (String × α) :=
  pairs.foldl (fun table (key, value) => put table key value) []

end WorldQuery.Assoc
