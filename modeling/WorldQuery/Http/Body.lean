import WorldQuery.Http.Encoding
import WorldQuery.Issue
import WorldQuery.Json.Reader
import WorldQuery.Query.Response

/-!
# Bodies of query requests

The body of a query request is a JSON object with the text of a document and, if wanted, variables
and the name of an operation. Everything that is wrong with its members is reported at once.
-/

namespace WorldQuery.Http

open Query

def bodyPath : List String := ["body"]

def bodyIssue (kind : IssueKind) : List Issue := [⟨bodyPath, kind⟩]

def memberIssue (name : String) (kind : IssueKind) : List Issue := [⟨bodyPath ++ [name], kind⟩]

structure Checked (α : Type) where
  value : α
  issues : List Issue

/-- The text of the document. A string that is no text is passed on as none. -/
def queryMember (members : List (String × Datum)) : Checked (Option String) :=
  match Assoc.get? members "query" with
  | some (.text s) => ⟨some s, []⟩
  | some (.illFormed _) => ⟨none, []⟩
  | some _ => ⟨none, memberIssue "query" .notText⟩
  | none => ⟨none, memberIssue "query" .missing⟩

def variablesMember (members : List (String × Datum)) : Checked Variables :=
  match Assoc.get? members "variables" with
  | none => ⟨[], []⟩
  | some .null => ⟨[], []⟩
  | some (.object fields) => ⟨fields, []⟩
  | some _ => ⟨[], memberIssue "variables" .notObject⟩

def operationNamed (name : String) : Datum → Checked (Option String)
  | .null => ⟨none, []⟩
  | .text s => ⟨some s, []⟩
  | .illFormed codes => ⟨some (Json.keyOfCodes codes), []⟩
  | _ => ⟨none, memberIssue name .notText⟩

/-- The name of the operation, in either of its spellings. -/
def operationMember (members : List (String × Datum)) : Checked (Option String) :=
  match Assoc.get? members "operationName", Assoc.get? members "operation_name" with
  | some d, _ => operationNamed "operationName" d
  | none, some d => operationNamed "operation_name" d
  | none, none => ⟨none, []⟩

def readMembers (members : List (String × Datum)) : Except (List Issue) Request :=
  let query := queryMember members
  let vars := variablesMember members
  let operation := operationMember members
  let issues := query.issues ++ vars.issues ++ operation.issues
  if issues.isEmpty then .ok ⟨query.value, vars.value, operation.value⟩ else .error issues

inductive BodyFault where
  | issues (found : List Issue)
  /-- The body cannot be decoded, or is beyond the limits of what is read. -/
  | unparsable
  deriving Repr

def readBody (body : String) : Except BodyFault Request :=
  if body = "" then .error (.issues (bodyIssue .missing))
  else
    match (jsonChars body).map Json.readChars with
    | none => .error .unparsable
    | some (.error .overLimit) => .error .unparsable
    | some (.error .malformed) => .error (.issues (bodyIssue .malformed))
    | some (.ok (.object members)) => (readMembers members).mapError .issues
    | some (.ok _) => .error (.issues (bodyIssue .notRecord))

end WorldQuery.Http
