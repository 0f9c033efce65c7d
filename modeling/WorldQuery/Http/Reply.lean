import WorldQuery.Query.Response
import WorldQuery.Settings.Basic

/-!
# Replies of the server

Every reply has a status and a body that is a JSON object.
-/

namespace WorldQuery.Http

open Query

def version : String := "0.1.0"

inductive Reply where
  | info (settings : Settings)
  | health (answers built : Bool)
  | response (r : Response)
  | rebuilt (storageTypes : List String)
  | invalid (issues : List Issue)
  | unparsable
  | unavailable (detail : String)
  | notFound
  | notAllowed
  deriving Repr

def optionalText : Option String → Datum
  | some s => .text s
  | none => .null

def stepDatum : PathStep → Datum
  | .key name => .text name
  | .index i => .int i

def faultDatum (f : PlacedFault) : Datum :=
  .object [("message", .text f.fault.message), ("path", .list (f.path.map stepDatum))]

def requestWording : RequestFault → String
  | .unreadable => "Syntax Error"
  | .refused => "The request cannot be executed."
  | .aborted => "Too many validation errors, error limit reached. Validation aborted."

/-- The faults of a response: that of the request, then those of single places. -/
def responseErrors (r : Response) : List Datum :=
  (r.refusals.map fun fault => Datum.object [("message", .text (requestWording fault))]) ++
    r.faults.map faultDatum

/-- The body of a response: its data, and its faults if there are any. -/
def responseBody (r : Response) : Datum :=
  let errors := responseErrors r
  .object (("data", r.data) :: if errors.isEmpty then [] else [("errors", .list errors)])

def issueDatum (i : Issue) : Datum :=
  .object [("loc", .list (i.path.map .text)), ("type", .text i.kind.code)]

def detailBody (detail : Datum) : Datum := .object [("detail", detail)]

namespace Reply

def status : Reply → Nat
  | info _ => 200
  | health _ _ => 200
  | response _ => 200
  | rebuilt _ => 200
  | invalid _ => 422
  | unparsable => 400
  | unavailable _ => 503
  | notFound => 404
  | notAllowed => 405

def body : Reply → Datum
  | info settings =>
    .object
      [("service", .text settings.serviceName), ("version", .text version),
        ("status", .text "running"), ("world_address", optionalText settings.worldAddress?),
        ("rpc_url", optionalText settings.rpcUrl?)]
  | health answers built =>
    .object
      [("status", .text (if answers then "healthy" else "unhealthy")),
        ("database", .text (if answers then "connected" else "disconnected")),
        ("schema", .text (if built then "built" else "pending"))]
  | response r => responseBody r
  | rebuilt storageTypes =>
    .object [("status", .text "rebuilt"), ("storage_types", .list (storageTypes.map .text))]
  | invalid issues => detailBody (.list (issues.map issueDatum))
  | unparsable => detailBody (.text "There was an error parsing the body")
  | unavailable detail => detailBody (.text detail)
  | notFound => detailBody (.text "Not Found")
  | notAllowed => detailBody (.text "Method Not Allowed")

end Reply

end WorldQuery.Http
