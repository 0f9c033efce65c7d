import WorldQuery.Query.Response

/-!
# The query service

A service keeps the schema of its last successful build. It is built from the store by `rebuild`, or
by the first request; a build that fails leaves the service as it is. Requests are answered by the
kept schema from the present content of the store.
-/

namespace WorldQuery

open Query

/-- A service: its schema, once there is one, and the prefix of its storage tables. -/
structure Service where
  schema? : Option Schema
  tablePrefix : String
  deriving Repr

namespace Service

def start (tablePrefix : String) : Service := ⟨none, tablePrefix⟩

def install (service : Service) (schema : Schema) : Service :=
  { service with schema? := some schema }

def rebuild (service : Service) (s : Store) : Except SchemaFault Schema :=
  Schema.ofStore s service.tablePrefix

/-- The schema that answers the next request: the kept one, or a new one. -/
def current (service : Service) (s : Store) : Except SchemaFault Schema :=
  match service.schema? with
  | some schema => .ok schema
  | none => service.rebuild s

/-- The service after an attempt to build a schema. -/
def adopt (service : Service) : Except SchemaFault Schema → Service
  | .ok schema => service.install schema
  | .error _ => service

def execute (service : Service) (s : Store) (request : Request) : Except SchemaFault Response :=
  (service.current s).map fun schema => Query.execute schema (some s) request

def afterRequest (service : Service) (s : Store) : Service := service.adopt (service.current s)

def afterRebuild (service : Service) (s : Store) : Service := service.adopt (service.rebuild s)

end Service

end WorldQuery
