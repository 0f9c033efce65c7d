import WorldQuery.Http.Body
import WorldQuery.Http.Reply
import WorldQuery.Service
import WorldQuery.Settings.Connection
import WorldQuery.Text.Percent

/-!
# The server

The server has four routes: what it is, how it is, queries, and rebuilding the schema. A store that
does not answer, or a schema that cannot be built, makes a query unavailable and changes nothing; a
fault of any other kind is not answered.
-/

namespace WorldQuery.Http

open Query

inductive Route where
  | info
  | health
  | query
  | rebuild
  deriving DecidableEq, Repr

def Route.ofPath : String → Option Route
  | "/" => some .info
  | "/health" => some .health
  | "/graphql" => some .query
  | "/graphql/schema/rebuild" => some .rebuild
  | _ => none

def Route.method : Route → String
  | .info => "GET"
  | .health => "GET"
  | .query => "POST"
  | .rebuild => "POST"

/-- A request to the server: its method in any case, what it asks for and its body. -/
structure Call where
  method : String
  target : String
  body : String
  deriving Repr

/-- The path of a request: what it asks for, without a query or a fragment. Bytes of it may be
written as percent signs and digits. -/
def Call.path (call : Call) : String :=
  String.ofList (Text.percentDecoded (call.target.toList.takeWhile fun c => c != '?' && c != '#'))

/-- Why the server does not answer at all. -/
inductive ServerFault where
  | connection (fault : ConnectionFault)
  | schema (fault : SchemaFault)
  deriving Repr

structure Server where
  settings : Settings
  service : Service
  deriving Repr

/-- Whether a fault of a build makes the service unavailable: the store does not answer, or its
types cannot be assembled. -/
def isUnavailable : SchemaFault → Bool
  | .store (.store _) => true
  | .store _ => false
  | .build fault => fault.nature = .assembly

namespace Server

/-- A server before its first build. -/
def ofSettings (settings : Settings) : Server := ⟨settings, Service.start settings.tablePrefix⟩

def connect (server : Server) : Except ServerFault Connection :=
  (Connection.ofSettings server.settings).mapError .connection

def boot (server : Server) (s : Store) : Except ServerFault Server := do
  let _ ← server.connect
  let schema ← (server.service.rebuild s).mapError .schema
  return { server with service := server.service.install schema }

/-- The reply to a build that fails. -/
def refuse (fault : SchemaFault) : Except ServerFault Reply :=
  if isUnavailable fault then .ok (.unavailable fault.message) else .error (.schema fault)

def query (server : Server) (s : Store) (body : String) : Except ServerFault Reply × Service :=
  match readBody body with
  | .error (.issues found) => (.ok (.invalid found), server.service)
  | .error .unparsable => (.ok .unparsable, server.service)
  | .ok request =>
    match server.connect with
    | .error fault => (.error fault, server.service)
    | .ok _ =>
      match server.service.execute s request with
      | .ok r => (.ok (.response r), server.service.afterRequest s)
      | .error fault => (refuse fault, server.service.afterRequest s)

def rebuild (server : Server) (s : Store) : Except ServerFault Reply × Service :=
  match server.connect with
  | .error fault => (.error fault, server.service)
  | .ok _ =>
    match server.service.rebuild s with
    | .ok schema => (.ok (.rebuilt schema.storageTypes), server.service.afterRebuild s)
    | .error fault => (refuse fault, server.service.afterRebuild s)

def health (server : Server) (s : Store) : Except ServerFault Reply :=
  server.connect.map fun _ => .health s.ping server.service.schema?.isSome

def replyOn (server : Server) (s : Store) (body : String) : Route →
    Except ServerFault Reply × Service
  | .info => (.ok (.info server.settings), server.service)
  | .health => (server.health s, server.service)
  | .query => server.query s body
  | .rebuild => server.rebuild s

def handle (server : Server) (s : Store) (call : Call) : Except ServerFault Reply × Server :=
  match Route.ofPath call.path with
  | none => (.ok .notFound, server)
  | some route =>
    if route.method = call.method.toUpper then
      let (reply, service) := server.replyOn s call.body route
      (reply, { server with service := service })
    else (.ok .notAllowed, server)

end Server

end WorldQuery.Http
