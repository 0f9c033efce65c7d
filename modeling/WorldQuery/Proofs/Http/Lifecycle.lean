import WorldQuery.Http.Server
import WorldQuery.Proofs.Service.Lifecycle
import WorldQuery.Proofs.Success

/-!
# The schema of a server over its life

Behind its routes a server does to its service what can be done to it directly: a call rebuilds
the schema, puts a request, or does neither. `Session.core_after` says so of whole runs, so the
schema of a server is that of the last build that succeeded. A call that is answered as unavailable
leaves no trace in the replies to later calls.
-/

namespace WorldQuery.Http

/-- The route of a call, if its method is that of the route. -/
def Call.route? (call : Call) : Option Route :=
  (Route.ofPath call.path).filter fun route => route.method = call.method.toUpper

def Route.event? (body : String) : Route → Option Service.Event
  | .info => none
  | .health => none
  | .query => (readBody body).toOption.map .request
  | .rebuild => some .rebuild

/-- What a call does to the service, if the settings describe a store at all. -/
def Call.event? (settings : Settings) (call : Call) : Option Service.Event :=
  match Connection.ofSettings settings with
  | .error _ => none
  | .ok _ => call.route?.bind (Route.event? call.body)

def replyOf {α : Type} (result : Except SchemaFault α) (reply : α → Reply) :
    Except ServerFault Reply :=
  match result with
  | .ok a => .ok (reply a)
  | .error fault => Server.refuse fault

theorem exists_error_of_replyOf {α : Type} {result : Except SchemaFault α} {shown : α → Reply}
    {reply : Reply} (hshown : ∀ a, shown a ≠ reply) (h : replyOf result shown = .ok reply) :
    ∃ fault, result = .error fault := by
  cases result with
  | error fault => exact ⟨fault, rfl⟩
  | ok a => exact absurd (Except.ok.inj h) (hshown a)

/-! ### One call -/

section Call

variable {server : Server} {s : Store} {call : Call}

theorem handle_of_route?_eq_some {route : Route} (h : call.route? = some route) :
    server.handle s call =
      ((server.replyOn s call.body route).1,
        { server with service := (server.replyOn s call.body route).2 }) := by
  obtain ⟨hroute, hmethod⟩ := Option.filter_eq_some_iff.mp h
  unfold Server.handle
  simp only [hroute, of_decide_eq_true hmethod, if_true]

theorem Reply.status_eq_unavailable_iff {reply : Reply} :
    reply.status = 503 ↔ ∃ detail, reply = .unavailable detail := by
  cases reply <;> simp [Reply.status]

theorem handle_of_route?_eq_none (h : call.route? = none) :
    (server.handle s call).2 = server ∧
      ∀ detail, (server.handle s call).1 ≠ .ok (.unavailable detail) := by
  unfold Server.handle
  cases hroute : Route.ofPath call.path with
  | none => exact ⟨rfl, nofun⟩
  | some route =>
    have hmethod : ¬route.method = call.method.toUpper := by
      intro heq
      simp [Call.route?, hroute, heq] at h
    simp only [if_neg hmethod]
    exact ⟨trivial, nofun⟩

theorem connect_of_event? {e : Service.Event} (h : call.event? server.settings = some e) :
    ∃ connection route, server.connect = .ok connection ∧ call.route? = some route ∧
      route.event? call.body = some e := by
  unfold Call.event? at h
  unfold Server.connect
  cases hconnection : Connection.ofSettings server.settings with
  | error fault => simp [hconnection] at h
  | ok connection =>
    simp only [hconnection] at h
    obtain ⟨route, hroute, hevent⟩ := Option.bind_eq_some_iff.mp h
    exact ⟨connection, route, rfl, hroute, hevent⟩

theorem event?_ne_change {settings : Settings} {c : Call} {s : Store} :
    c.event? settings ≠ some (.change s) := by
  unfold Call.event?
  cases Connection.ofSettings settings with
  | error fault => simp
  | ok connection =>
    intro h
    obtain ⟨route, -, hevent⟩ := Option.bind_eq_some_iff.mp h
    cases route <;> simp [Route.event?] at hevent

theorem handle_of_rebuild (h : call.event? server.settings = some .rebuild) :
    server.handle s call =
      (replyOf (server.service.rebuild s) fun schema => .rebuilt schema.storageTypes,
        { server with service := server.service.afterRebuild s }) := by
  obtain ⟨connection, route, hconnect, hroute, hevent⟩ := connect_of_event? h
  rw [handle_of_route?_eq_some hroute]
  cases route with
  | info => simp [Route.event?] at hevent
  | health => simp [Route.event?] at hevent
  | query => simp [Route.event?] at hevent
  | rebuild =>
    cases hschema : server.service.rebuild s <;>
      simp [Server.replyOn, Server.rebuild, hconnect, hschema, replyOf]

theorem handle_of_request {r : Query.Request}
    (h : call.event? server.settings = some (.request r)) :
    server.handle s call =
      (replyOf (server.service.execute s r) .response,
        { server with service := server.service.afterRequest s }) := by
  obtain ⟨connection, route, hconnect, hroute, hevent⟩ := connect_of_event? h
  rw [handle_of_route?_eq_some hroute]
  cases route with
  | info => simp [Route.event?] at hevent
  | health => simp [Route.event?] at hevent
  | rebuild => simp [Route.event?] at hevent
  | query =>
    obtain ⟨r', hread, heq⟩ := Option.map_eq_some_iff.mp hevent
    obtain rfl := Service.Event.request.inj heq
    have hbody := Success.toOption_eq_some_iff.mp hread
    cases hresponse : server.service.execute s r' <;>
      simp [Server.replyOn, Server.query, hbody, hconnect, hresponse, replyOf]

/-- A call that does nothing to the service, whatever the reply. -/
theorem handle_of_event?_eq_none (h : call.event? server.settings = none) :
    (server.handle s call).2 = server ∧
      ∀ detail, (server.handle s call).1 ≠ .ok (.unavailable detail) := by
  cases hroute : call.route? with
  | none => exact handle_of_route?_eq_none hroute
  | some route =>
    rw [handle_of_route?_eq_some hroute]
    -- without a connection no route reaches the service; with one, a query that can be read does
    cases hsettings : Connection.ofSettings server.settings with
    | error fault =>
      have hconnect : server.connect = .error (.connection fault) := by
        rw [Server.connect, hsettings]
        rfl
      cases route with
      | info => exact ⟨rfl, nofun⟩
      | health => exact ⟨rfl, by simp [Server.replyOn, Server.health, hconnect, Except.map]⟩
      | rebuild => simp [Server.replyOn, Server.rebuild, hconnect]
      | query =>
        cases hbody : readBody call.body with
        | error fault => cases fault <;> simp [Server.replyOn, Server.query, hbody]
        | ok request => simp [Server.replyOn, Server.query, hbody, hconnect]
    | ok connection =>
      have hconnect : server.connect = .ok connection := by
        rw [Server.connect, hsettings]
        rfl
      cases route with
      | info => exact ⟨rfl, nofun⟩
      | health => exact ⟨rfl, by simp [Server.replyOn, Server.health, hconnect, Except.map]⟩
      | rebuild => simp [Call.event?, hsettings, hroute, Route.event?] at h
      | query =>
        cases hbody : readBody call.body with
        | error fault => cases fault <;> simp [Server.replyOn, Server.query, hbody]
        | ok request =>
          simp [Call.event?, hsettings, hroute, Route.event?, hbody, Except.toOption] at h

end Call

/-! ### Runs -/

inductive Event where
  | change (s : Store)
  | call (c : Call)

def Event.core (settings : Settings) : Event → List Service.Event
  | change s => [.change s]
  | call c => (c.event? settings).toList

structure Session where
  store : Store
  server : Server

namespace Session

def reply (x : Session) (c : Call) : Except ServerFault Reply := (x.server.handle x.store c).1

def next (x : Session) : Event → Session
  | .change s => { x with store := s }
  | .call c => { x with server := (x.server.handle x.store c).2 }

def after (x : Session) (events : List Event) : Session := events.foldl next x

def replies (x : Session) : List Event → List (Except ServerFault Reply)
  | [] => []
  | .change s :: rest => replies (x.next (.change s)) rest
  | .call c :: rest => x.reply c :: replies (x.next (.call c)) rest

/-- The service behind the server, on the same store. -/
def core (x : Session) : Service.Session := ⟨x.store, x.server.service⟩

variable {x : Session}

theorem next_call_of_event?_eq_none {c : Call} (h : c.event? x.server.settings = none) :
    x.next (.call c) = x := by
  rw [next, (handle_of_event?_eq_none h).1]

theorem core_next (e : Event) :
    (x.next e).core = x.core.after (e.core x.server.settings) ∧
      (x.next e).server.settings = x.server.settings := by
  cases e with
  | change s => exact ⟨rfl, rfl⟩
  | call c =>
    cases hevent : c.event? x.server.settings with
    | none =>
      rw [next_call_of_event?_eq_none hevent, Event.core, hevent]
      exact ⟨rfl, rfl⟩
    | some e =>
      cases e with
      | change s => exact absurd hevent event?_ne_change
      | rebuild =>
        rw [next, handle_of_rebuild hevent, Event.core, hevent]
        exact ⟨rfl, rfl⟩
      | request r =>
        rw [next, handle_of_request hevent, Event.core, hevent]
        exact ⟨rfl, rfl⟩

/-- A run of a server is one of its service. -/
theorem core_after (x : Session) (events : List Event) :
    (x.after events).core = x.core.after (events.flatMap (Event.core x.server.settings)) := by
  induction events generalizing x with
  | nil => rfl
  | cons e events ih =>
    obtain ⟨hcore, hsettings⟩ := core_next (x := x) e
    have hrest := ih (x.next e)
    rw [hcore, hsettings] at hrest
    rw [List.flatMap_cons, Service.Session.after, List.foldl_append]
    exact hrest

/-- Something is unavailable only if a build failed, and that leaves the server as it is. -/
theorem next_call_of_unavailable {c : Call} {detail : String}
    (h : x.reply c = .ok (.unavailable detail)) : x.next (.call c) = x := by
  cases hevent : c.event? x.server.settings with
  | none => exact next_call_of_event?_eq_none hevent
  | some e =>
    cases e with
    | change s => exact absurd hevent event?_ne_change
    | rebuild =>
      rw [Session.reply, handle_of_rebuild hevent] at h
      obtain ⟨fault, hfault⟩ := exists_error_of_replyOf (fun schema heq => by cases heq) h
      rw [next, handle_of_rebuild hevent, Service.afterRebuild, hfault]
      rfl
    | request r =>
      rw [Session.reply, handle_of_request hevent] at h
      obtain ⟨fault, hfault⟩ := exists_error_of_replyOf (fun response heq => by cases heq) h
      rw [next, handle_of_request hevent, Service.afterRequest,
        Success.map_eq_error_iff.mp hfault]
      rfl

/-- What holds of a session of a server in which some turns have been taken: what holds of its
service, which the calls reach, and no reply shows that something was unavailable before. -/
structure Lawful (initial : Option Schema) (turns : Turns) (x : Session) : Prop where
  core : Service.Session.Lawful initial turns x.core
  rebuild : ∀ c, c.event? x.server.settings = some .rebuild →
    (x.next (.call c)).core = x.core.next .rebuild ∧
      x.reply c = replyOf (x.server.service.rebuild x.store) fun schema =>
        .rebuilt schema.storageTypes
  request : ∀ c r, c.event? x.server.settings = some (.request r) →
    (x.next (.call c)).core = x.core.next (.request r) ∧
      x.reply c = replyOf (x.server.service.execute x.store r) .response
  other : ∀ c, c.event? x.server.settings = none → x.next (.call c) = x
  unavailable : ∀ c reply, x.reply c = .ok reply → reply.status = 503 → ∀ events,
    (x.next (.call c)).replies events = x.replies events

theorem after_lawful (x : Session) (events : List Event) :
    Lawful x.server.service.schema?
      (Service.turns x.store (events.flatMap (Event.core x.server.settings)))
      (x.after events) := by
  have hcore := Service.Session.after_lawful x.core
    (events.flatMap (Event.core x.server.settings))
  rw [← core_after] at hcore
  generalize x.after events = y at hcore ⊢
  constructor
  case core => exact hcore
  case rebuild =>
    intro c hevent
    rw [next, Session.reply, handle_of_rebuild hevent]
    exact ⟨rfl, rfl⟩
  case request =>
    intro c r hevent
    rw [next, Session.reply, handle_of_request hevent]
    exact ⟨rfl, rfl⟩
  case other => exact fun c hevent => next_call_of_event?_eq_none hevent
  case unavailable =>
    intro c reply hreply hstatus events
    obtain ⟨detail, rfl⟩ := Reply.status_eq_unavailable_iff.mp hstatus
    rw [next_call_of_unavailable hreply]

end Session

/-- The schema of a service that starts without one, after any run: that of the last build that
succeeded, and requests are answered by it from the present store. A server begins with the schema
of the store that it is started on, and from then on its service is one of these. -/
theorem sessions_keep_last_build :
    (∀ tablePrefix s events, Service.Session.Lawful none (Service.turns s events)
      ((Service.Session.mk s (Service.start tablePrefix)).after events)) ∧
    (∀ settings s server, (Server.ofSettings settings).boot s = .ok server →
      ∃ schema, Schema.ofStore s settings.tablePrefix = .ok schema ∧
        server = ⟨settings, (Service.start settings.tablePrefix).install schema⟩) ∧
    ∀ (x : Session) events, Session.Lawful x.server.service.schema?
      (Service.turns x.store (events.flatMap (Event.core x.server.settings)))
      (x.after events) := by
  refine ⟨fun tablePrefix s events => ?_, fun settings s server hboot => ?_, fun x events => ?_⟩
  · exact Service.Session.after_lawful ⟨s, Service.start tablePrefix⟩ events
  · obtain ⟨connection, -, hboot⟩ := Success.bind_eq_ok_iff.mp hboot
    obtain ⟨schema, hschema, hserver⟩ := Success.bind_eq_ok_iff.mp hboot
    exact ⟨schema, Success.mapError_eq_ok_iff.mp hschema, (Success.pure_eq_ok_iff.mp hserver).symm⟩
  · exact x.after_lawful events

/-- A component takes the name of a type of every schema, so the rebuild fails, and the schema
before it stays. -/
theorem session_keeps_schema_of_failed_rebuild :
    let world (name : String) := Store.empty.create "components" Component.columns
      [[.text "0x1", .text name, .text "0x9", .text "0x8", .text "0x7", .text "x: Felt", .int 1]]
    let built := world "Position"
    let s := world "Query"
    let rebuild : Call := ⟨"POST", "/graphql/schema/rebuild", ""⟩
    let x : Session := ⟨built, Server.ofSettings Settings.standard⟩
    let y := x.after [.call rebuild, .change s]
    (∃ schema, y.server.service.schema? = some schema ∧ schema.storageTypes = ["Position"]) ∧
      (∃ reply, y.reply rebuild = .ok reply ∧ reply.status = 503) ∧
        ∀ events, (y.next (.call rebuild)).replies events = y.replies events := by
  intro world built s rebuild x y
  have hlawful := sessions_keep_last_build.2.2 x [.call rebuild, .change s]
  have hschema : y.server.service.schema?.map Schema.storageTypes = some ["Position"] := by
    decide +kernel
  have hstatus : (y.reply rebuild).toOption.map Reply.status = some 503 := by decide +kernel
  obtain ⟨schema, hschema, htypes⟩ := Option.map_eq_some_iff.mp hschema
  obtain ⟨reply, hreply, hstatus⟩ := Option.map_eq_some_iff.mp hstatus
  have hok : y.reply rebuild = .ok reply := Success.toOption_eq_some_iff.mp hreply
  exact ⟨⟨schema, hschema, htypes⟩, ⟨reply, hok, hstatus⟩,
    hlawful.unavailable rebuild reply hok hstatus⟩

end WorldQuery.Http
