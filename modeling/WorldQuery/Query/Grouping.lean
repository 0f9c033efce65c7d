import WorldQuery.Query.Argument

/-!
# Grouping of selected fields

The selections of an object are opened: groups and fragments that do not apply to the type of the
object are left out, and so is what directives exclude. The fields that remain are grouped by the
name that they answer to, in order of first appearance. A fragment is opened once.
-/

namespace WorldQuery.Query

structure FieldUse where
  name : String
  arguments : List Argument
  selections : List Selection
  deriving Repr

/-- The uses of every name that is answered to. -/
abbrev Grouping := List (String × List FieldUse)

namespace Grouping

def add (g : Grouping) (label : String) (use : FieldUse) : Grouping :=
  Assoc.put g label ((Assoc.get? g label).getD [] ++ [use])

/-- Whether a fragment or group for a type applies to an object type. -/
def applies (s : Schema) (type : String) : Option String → Bool
  | none => true
  | some name =>
    name == type ||
      match s.lookup name with
      | some t => t.members.contains type
      | none => false

/-- Opens selections of an object type one after another. The first argument bounds their number. -/
def collect (s : Schema) (doc : Document) (vars : Variables) (type : String) :
    Nat → List String → Grouping → List Selection → Except ArgumentFault Grouping
  | 0, _, g, _ => .ok g
  | _ + 1, _, g, [] => .ok g
  | room + 1, opened, g, sel :: rest =>
    match sel with
    | .field label? name arguments directives selections => do
      let g' := add g (label?.getD name) ⟨name, arguments, selections⟩
      let chosen ← included s vars directives
      collect s doc vars type room opened (if chosen then g' else g) rest
    | .group type? directives selections => do
      let chosen ← included s vars directives
      let inner := if chosen && applies s type type? then selections else []
      collect s doc vars type room opened g (inner ++ rest)
    | .spread fragment directives =>
      if opened.contains fragment then collect s doc vars type room opened g rest
      else do
        let chosen ← included s vars directives
        if chosen then
          let inner :=
            match doc.fragment? fragment with
            | some f => if applies s type (some f.type) then f.selections else []
            | none => []
          collect s doc vars type room (fragment :: opened) g (inner ++ rest)
        else collect s doc vars type room opened g rest

/-- The selected fields of an object type, grouped. Every selection of a document is opened at most
once as part of the selections and once as part of its fragment. -/
def ofSelections (s : Schema) (doc : Document) (vars : Variables) (type : String)
    (selections : List Selection) : Except ArgumentFault Grouping :=
  collect s doc vars type (2 * doc.size + 2) [] [] selections

end Grouping

end WorldQuery.Query
