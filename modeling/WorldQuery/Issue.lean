/-!
# Issues with structured input

A row, a settings record or a request body is checked field by field. Every field at fault yields
one issue, in the order of the fields.
-/

namespace WorldQuery

inductive IssueKind where
  | missing
  | notText
  | notUnicode
  | notBool
  | unreadableBool
  | notInt
  | unreadableInt
  | oversizedInt
  | fractional
  | notFinite
  | notReal
  | unreadableReal
  | notMoment
  | notObject
  | notRecord
  | malformed
  | belowLeast
  | notAbove
  | aboveGreatest
  | rejected (message : String)
  deriving DecidableEq, Repr

def IssueKind.code : IssueKind → String
  | .missing => "missing"
  | .notText => "string_type"
  | .notUnicode => "string_unicode"
  | .notBool => "bool_type"
  | .unreadableBool => "bool_parsing"
  | .notInt => "int_type"
  | .unreadableInt => "int_parsing"
  | .oversizedInt => "int_parsing_size"
  | .fractional => "int_from_float"
  | .notFinite => "finite_number"
  | .notReal => "float_type"
  | .unreadableReal => "float_parsing"
  | .notMoment => "datetime"
  | .notObject => "dict_type"
  | .notRecord => "model_attributes_type"
  | .malformed => "json_invalid"
  | .belowLeast => "greater_than_equal"
  | .notAbove => "greater_than"
  | .aboveGreatest => "less_than_equal"
  | .rejected _ => "value_error"

/-- The detail of an issue, for a field refused by a rule of its own. -/
def IssueKind.detail? : IssueKind → Option String
  | .rejected message => some ("Value error, " ++ message)
  | _ => none

/-- A field, given by the path to it, and what is wrong with it. -/
structure Issue where
  path : List String
  kind : IssueKind
  deriving DecidableEq, Repr

def Issue.ofReading {α : Type} (field : String) : Except IssueKind α → List Issue
  | .ok _ => []
  | .error kind => [⟨[field], kind⟩]

end WorldQuery
