import WorldQuery.Http.Server
import WorldQuery.Proofs.Schema.Refusal

/-!
# What the server replies to a build

A rebuild makes the server build its schema from the store, and so does the first query. The build
of a store of texts is answered in any case, with the schema or with its refusal, unless a type takes
the name `Float`: then the fault is not one that the server replies to, see `textual_build_reply`.
-/

namespace WorldQuery.Http

open Schema

/-- Requests that make a server build its schema. -/
inductive Builds (server : Server) (call : Call) : Prop where
  | rebuild (hroute : Route.ofPath call.path = some .rebuild) (hmethod : call.method.toUpper = "POST")
  | query (request : Query.Request) (hroute : Route.ofPath call.path = some .query)
      (hmethod : call.method.toUpper = "POST") (hbody : readBody call.body = .ok request)
      (hunbuilt : server.service.schema? = none)

variable {server : Server} {call : Call} {s : Store} {connection : Connection}

theorem handle_of_route {route : Route} (hroute : Route.ofPath call.path = some route)
    (hmethod : call.method.toUpper = route.method) :
    (server.handle s call).1 = (server.replyOn s call.body route).1 := by
  unfold Server.handle
  rw [hroute]
  dsimp only
  rw [if_pos hmethod.symm]

theorem Builds.reply_of_ok (h : Builds server call) (hconnect : server.connect = .ok connection)
    {schema : Schema} (hschema : Schema.ofStore s server.service.tablePrefix = .ok schema) :
    ∃ reply, (server.handle s call).1 = .ok reply ∧ reply.status = 200 := by
  cases h with
  | rebuild hroute hmethod =>
    refine ⟨.rebuilt schema.storageTypes, ?_, rfl⟩
    rw [handle_of_route hroute hmethod]
    simp only [Server.replyOn, Server.rebuild, hconnect, Service.rebuild, hschema]
  | query request hroute hmethod hbody hunbuilt =>
    refine ⟨.response (Query.execute schema (some s) request), ?_, rfl⟩
    rw [handle_of_route hroute hmethod]
    simp only [Server.replyOn, Server.query, hbody, hconnect, Service.execute, Service.current,
      hunbuilt, Service.rebuild, hschema]
    rfl

theorem Builds.reply_of_error (h : Builds server call) (hconnect : server.connect = .ok connection)
    {fault : SchemaFault} (hschema : Schema.ofStore s server.service.tablePrefix = .error fault) :
    (server.handle s call).1 = Server.refuse fault := by
  cases h with
  | rebuild hroute hmethod =>
    rw [handle_of_route hroute hmethod]
    simp only [Server.replyOn, Server.rebuild, hconnect, Service.rebuild, hschema]
  | query request hroute hmethod hbody hunbuilt =>
    rw [handle_of_route hroute hmethod]
    simp only [Server.replyOn, Server.query, hbody, hconnect, Service.execute, Service.current,
      hunbuilt, Service.rebuild, hschema]
    rfl

/-- A store of texts makes a schema or is refused by the assembly, and every request for a build is
answered with status 200 or 503. Only kept names of which one has the type name `Float`, and that are
registered all the same, fail in another way, which is not answered. -/
theorem textual_build_reply (h : Component.Textual s) (tablePrefix : String) :
    ∃ storage, Discovery.ofStore s tablePrefix = .ok storage ∧
      (¬TakesFloat (storage.filterMap ObjectDef.declaredName?) →
        ((∃ schema, Schema.ofStore s tablePrefix = .ok schema) ∨
          ∃ fault, Schema.ofStore s tablePrefix = .error (.build fault) ∧
            fault.nature = .assembly) ∧
        ∀ server call connection, server.service.tablePrefix = tablePrefix →
          server.connect = .ok connection → Builds server call →
            ∃ reply, (server.handle s call).1 = .ok reply ∧
              (reply.status = 200 ∨ reply.status = 503)) ∧
      (TakesFloat (storage.filterMap ObjectDef.declaredName?) →
        Schema.ofStore s tablePrefix = .error (.build (.reserved "Float")) ∧
        ∀ server call connection, server.service.tablePrefix = tablePrefix →
          server.connect = .ok connection → Builds server call →
            (server.handle s call).1 = .error (.schema (.build (.reserved "Float")))) := by
  obtain ⟨storage, hstorage, hfloat, hother⟩ := Schema.ofStore_of_textual h tablePrefix
  refine ⟨storage, hstorage, fun hfree => ⟨hother hfree, ?_⟩, fun htaken => ⟨hfloat htaken, ?_⟩⟩
  · rintro server call connection rfl hconnect hbuilds
    rcases hother hfree with ⟨schema, hschema⟩ | ⟨fault, hschema, hnature⟩
    · obtain ⟨reply, hreply, hstatus⟩ := hbuilds.reply_of_ok hconnect hschema
      exact ⟨reply, hreply, Or.inl hstatus⟩
    · refine ⟨.unavailable (SchemaFault.build fault).message, ?_, Or.inr rfl⟩
      rw [hbuilds.reply_of_error hconnect hschema, Server.refuse, if_pos]
      simp [isUnavailable, hnature]
  · rintro server call connection rfl hconnect hbuilds
    rw [hbuilds.reply_of_error hconnect (hfloat htaken)]
    rfl

/-- Rebuilds on a store with an ordinary component, and on one with a component named `Float`. -/
theorem textual_build_reply_of_float :
    let ordinary := Store.empty.create "components" Component.columns
      [[.text "0x1", .text "Position", .text "0x9", .text "0x8", .text "0x7", .text "x: Felt",
        .int 1]]
    let odd := Store.empty.create "components" Component.columns
      [[.text "0x1", .text "Float", .text "0x9", .text "0x8", .text "0x7", .text "x: Felt", .int 1]]
    let server := Server.ofSettings Settings.standard
    let call : Call := ⟨"POST", "/graphql/schema/rebuild", ""⟩
    (∃ reply, (server.handle ordinary call).1 = .ok reply ∧
      (reply.status = 200 ∨ reply.status = 503)) ∧
      (server.handle odd call).1 = .error (.schema (.build (.reserved "Float"))) := by
  intro ordinary odd server call
  have hnames {s : Store} {name : String} {storage : List ObjectDef}
      (h : Component.Declares s [(name, "x: Felt")])
      (hstorage : Discovery.ofStore s "storage_" = .ok storage)
      (hkept : Discovery.kept [(name, ["x: Felt"])] = [(name, [("x", .scalar .felt)])]) :
      storage.filterMap ObjectDef.declaredName? = [name] := by
    obtain rfl := Except.ok.inj (hstorage.symm.trans (Discovery.ofStore_of_declares h "storage_"))
    rw [Discovery.filterMap_declaredName?_objects]
    exact congrArg Assoc.keys hkept
  have hordinary : Component.Declares ordinary [("Position", "x: Felt")] :=
    ⟨_, Component.rowsInOrder_of_sorted rfl rfl rfl rfl (List.pairwise_singleton _ _), rfl⟩
  have hodd : Component.Declares odd [("Float", "x: Felt")] :=
    ⟨_, Component.rowsInOrder_of_sorted rfl rfl rfl rfl (List.pairwise_singleton _ _), rfl⟩
  obtain ⟨connection, hconnect⟩ : ∃ connection, server.connect = .ok connection :=
    Success.exists_eq_ok (by decide +kernel)
  have hbuilds : Builds server call := .rebuild (by decide +kernel) (by decide +kernel)
  constructor
  · obtain ⟨storage, hstorage, hfree, -⟩ :=
      textual_build_reply (Component.textual_of_declares hordinary) "storage_"
    refine (hfree ?_).2 server call connection rfl hconnect hbuilds
    rw [hnames hordinary hstorage (by decide +kernel)]
    rintro ⟨-, hfloat⟩
    revert hfloat
    decide +kernel
  · obtain ⟨storage, hstorage, -, htaken⟩ :=
      textual_build_reply (Component.textual_of_declares hodd) "storage_"
    refine (htaken ?_).2 server call connection rfl hconnect hbuilds
    rw [hnames hodd hstorage (by decide +kernel)]
    exact ⟨⟨by decide +kernel, by decide +kernel⟩, by decide +kernel⟩

end WorldQuery.Http
