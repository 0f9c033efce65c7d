import WorldQuery.Json.Writer
import WorldQuery.Proofs.Component.Catalog
import WorldQuery.Proofs.Discovery.Rows
import WorldQuery.Proofs.Name.Quotes
import WorldQuery.Proofs.Query.Fields
import WorldQuery.Proofs.Schema.Lookup
import WorldQuery.Query.Response

/-!
# Components in a list and one by one

The root answers all components in a list and each of them by its id.
`components_agree_with_component` says that a selection gets the same answers on both ways, with the
same faults in other places. No field of a component excludes null, so no fault in one item reaches
another.
-/

namespace WorldQuery.Query

open Name Schema Success

/-! ### Queries that differ in the root field -/

/-- Two documents that open the same fragments, and are of one size. -/
structure Document.Alike (doc doc' : Document) : Prop where
  fragment? : doc.fragment? = doc'.fragment?
  size : doc.size = doc'.size

section Alike

variable {schema : Schema} {doc doc' : Document} {vars : Variables} {store? : Option Store}

theorem collect_of_alike (h : doc.Alike doc') (type : String) (room : Nat) (opened : List String)
    (g : Grouping) (selections : List Selection) :
    Grouping.collect schema doc vars type room opened g selections =
      Grouping.collect schema doc' vars type room opened g selections := by
  induction room generalizing opened g selections with
  | zero => cases selections <;> rfl
  | succ room ih =>
    cases selections with
    | nil => rfl
    | cons selection rest =>
      cases selection with
      | field label? name arguments directives inner => simp only [Grouping.collect, ih]
      | group type? directives inner => simp only [Grouping.collect, ih]
      | spread fragment directives =>
        -- only here the document is looked into
        simp only [Grouping.collect, ih, h.fragment?]

theorem ofSelections_of_alike (h : doc.Alike doc') (type : String) (selections : List Selection) :
    Grouping.ofSelections schema doc vars type selections =
      Grouping.ofSelections schema doc' vars type selections := by
  rw [Grouping.ofSelections, Grouping.ofSelections, h.size, collect_of_alike h]

/-- An answer depends on the fragments of a document alone. -/
theorem answerObject_of_alike (h : doc.Alike doc') (room : Nat) :
    answerObject ⟨schema, doc, vars, store?⟩ room =
      answerObject ⟨schema, doc', vars, store?⟩ room := by
  induction room with
  | zero => rfl
  | succ room ih =>
    funext round selections type source
    simp only [answerObject, ih, ofSelections_of_alike h]
    rfl

end Alike

/-! ### Responses of one root field -/

theorem ofOutcome_of_one {type label : String} {source : Source} {o : Outcome}
    (h : o.breaks = false) :
    Response.ofOutcome (.object type source [(label, o)]) =
      ⟨.object [(label, o.data)], [], o.faults [.key label]⟩ := by
  have hdata : (Outcome.object type source [(label, o)]).data = .object [(label, o.data)] :=
    Outcome.data_object (by simpa using h)
  have hbreak : firstBreak 0 [(label, o)] = none := by
    simp [firstBreak, h]
  have hfaults : rootFaults [(label, o)] = o.faults [.key label] := by
    simp [rootFaults, hbreak]
  rw [Response.ofOutcome, hdata, hfaults]

section Root

variable {found : List (String × Layout)} {tablePrefix : String} {schema : Schema} {s : Store}
  {doc : Document} {vars values : Variables} {field : String} {arguments : List Argument}
  {selections : List Selection} {f : FieldDef} {result : Found} {round : Nat}

theorem ofSelections_of_field (type : String) :
    Grouping.ofSelections schema doc vars type [.field none field arguments [] selections] =
      .ok [(field, [⟨field, arguments, selections⟩])] := by
  have hincluded : included schema vars [] = .ok true := rfl
  change Grouping.collect schema doc vars type (2 * doc.size + 1 + 1) [] [] _ = _
  simp only [Grouping.collect, hincluded]
  rfl

theorem run_field (h : Shaped found tablePrefix schema)
    (hf : Schema.field? Schema.rootType field = some f)
    (hvalues : argumentValues schema vars f.args arguments = .ok values)
    (hresult : resolve schema (some s) queryType .root 0 values f.resolver = ⟨.ok result, round⟩) :
    Execution.run ⟨schema, doc, vars, some s⟩ [.field none field arguments [] selections] =
      .object queryType .root [(field, complete schema round queryType f.name
        (answerObject ⟨schema, doc, vars, some s⟩ doc.size round selections) f.type result)] := by
  have hname : Schema.rootType.name = queryType := rfl
  simp only [Execution.run, answerObject, lookup_root h, ofSelections_of_field, answerFields,
    answerField, hname, List.filterMap_cons, List.filterMap_nil, List.head?_cons, Option.bind_some,
    hf, hvalues, hresult, Option.bind_eq_bind]
  simp

def limitIn (values : Variables) : Option Int :=
  match Assoc.get? values "limit" with
  | some (.int k) => some k
  | _ => none

theorem resolve_components_of_list {records : List Record}
    (h : Component.list s (limitIn values) = .ok records) :
    resolve schema (some s) queryType .root 0 values .components =
      ⟨.ok (.many (records.map fun r => .one (.record r))), 2⟩ := by
  have hask : Resolver.inquire schema queryType .root values .components =
      .ok (.ask (.components (limitIn values))) := by
    cases hlimit : Assoc.get? values "limit" with
    | none => simp only [Resolver.inquire, limitIn, hlimit]
    | some d => cases d <;> simp only [Resolver.inquire, limitIn, hlimit]
  simp [resolve, hask, Resolver.fetches, Question.answer, h, Except.map, Except.mapError]

theorem resolve_component_of_byId {id : String} {c : Record}
    (hid : Assoc.get? values "id" = some (.text id))
    (h : Component.byId s (unquote id) = .ok (some c)) :
    resolve schema (some s) queryType .root 0 values .component =
      ⟨.ok (.one (.record c)), 2⟩ := by
  simp [resolve, Resolver.inquire, hid, Resolver.fetches, Question.answer, h, Except.map,
    Except.mapError, Found.ofRecord?]

theorem complete_component (round : Nat) (h : Shaped found tablePrefix schema)
    (owner field : String) (answer : String → Source → Outcome) (c : Record) :
    complete schema round owner field answer (.named Component.typeName) (.one (.record c)) =
      answer Component.typeName (.record c) := by
  have hlookup := lookup_component h
  rw [componentType] at hlookup
  simp only [complete, objectOutcome, hlookup]

theorem complete_components (round : Nat) (h : Shaped found tablePrefix schema)
    (owner field : String) (answer : String → Source → Outcome) (records : List Record) :
    complete schema round owner field answer
        (.nonNull (.list (.nonNull (.named Component.typeName))))
        (.many (records.map fun r => .one (.record r))) =
      .required (.items (records.map fun r =>
        .required (answer Component.typeName (.record r)))) := by
  simp only [complete, List.map_map, Function.comp_def]
  refine congrArg (Outcome.required ∘ Outcome.items) (List.map_congr_left fun r _ => ?_)
  rw [← complete_component round h owner field answer r]
  simp only [complete]

theorem named_of_componentType (known : List String) (tablePrefix : String) :
    ∀ f ∈ (componentType known tablePrefix).fields, ∃ type, f.type = .named type := by
  intro f hf
  rcases List.mem_append.mp hf with hf | hf
  · obtain ⟨⟨field, kind | target⟩, -, hfield⟩ := List.mem_filterMap.mp hf
    · obtain rfl := Option.some.inj hfield
      exact ⟨_, rfl⟩
    · simp [scalarField?] at hfield
  · split_ifs at hf
    · simp at hf
    · obtain rfl := List.mem_singleton.mp hf
      exact ⟨_, rfl⟩

theorem breach_component (h : Shaped found tablePrefix schema) {g : Grouping} (hdoc : 0 < doc.size)
    (hg : Grouping.ofSelections schema doc vars Component.typeName selections = .ok g)
    (c : Record) : (answerObject ⟨schema, doc, vars, some s⟩ doc.size round selections
      Component.typeName (.record c)).breach = none := by
  obtain ⟨room, hroom⟩ := Nat.exists_eq_add_one.mpr hdoc
  have hquery : (componentType (Assoc.keys found) tablePrefix).name ≠ queryType := by
    rw [componentType, TypeDef.name]
    decide
  rw [hroom]
  exact breach_of_named (lookup_component h) hquery (named_of_componentType _ _) hg

end Root

/-! ### A list and its items -/

/-- What is asked of components: a selection with its fragments, and values for the variables. -/
structure ComponentQuery where
  fragments : List Fragment
  declared : List VariableDef
  given : Variables
  selections : List Selection

namespace ComponentQuery

/-- The operation that puts it to one root field. -/
def operation (q : ComponentQuery) (field : String) (arguments : List Argument) : Operation :=
  ⟨.query, none, q.declared, [], [.field none field arguments [] q.selections]⟩

def document (q : ComponentQuery) (field : String) (arguments : List Argument) : Document :=
  .operation (q.operation field arguments) :: q.fragments.map .fragment

def response (q : ComponentQuery) (schema : Schema) (s : Store) (field : String)
    (arguments : List Argument) : Response :=
  executeOperation schema (some s) (q.document field arguments) (q.operation field arguments)
    q.given

theorem alike_document (q : ComponentQuery) (field field' : String)
    (arguments arguments' : List Argument) :
    (q.document field arguments).Alike (q.document field' arguments') :=
  ⟨rfl, rfl⟩

theorem size_document_pos (q : ComponentQuery) (field : String) (arguments : List Argument) :
    0 < (q.document field arguments).size := by
  change 0 < 1 + Selection.sizes q.selections + Selection.sizes _
  omega

end ComponentQuery

/-- The arguments of a root field have some values. -/
def RootArguments (schema : Schema) (vars : Variables) (field : String) (arguments : List Argument)
    (values : Variables) : Prop :=
  ∃ f, Schema.field? Schema.rootType field = some f ∧
    argumentValues schema vars f.args arguments = .ok values

/-- The answer of one component, with its faults in their places below it. -/
structure Answer where
  data : Datum
  faults : List PlacedFault

namespace Answer

def ofOutcome (o : Outcome) : Answer := ⟨o.data, o.faults []⟩

/-- The response with the answer of one component. -/
def alone (a : Answer) : Response :=
  ⟨.object [("component", a.data)], [], a.faults.map (.below [.key "component"])⟩

/-- The response with the answers of some components in a list. -/
def together (as : List Answer) : Response :=
  ⟨.object [("components", .list (as.map data))], [],
    as.zipIdx.flatMap fun (a, i) => a.faults.map (.below [.key "components", .index i])⟩

end Answer

section Agreement

variable {found : List (String × Layout)} {tablePrefix : String} {schema : Schema} {s : Store}
  {q : ComponentQuery} {vars values : Variables} {arguments : List Argument} {c : Record}
  {g : Grouping}

/-- What a query answers of a component, wherever it is put. -/
def ComponentQuery.outcome (q : ComponentQuery) (schema : Schema) (s : Store) (vars : Variables)
    (c : Record) : Outcome :=
  let doc := q.document "component" []
  answerObject ⟨schema, doc, vars, some s⟩ doc.size 2 q.selections Component.typeName (.record c)

theorem outcome_eq (field : String) (arguments : List Argument) (c : Record) :
    answerObject ⟨schema, q.document field arguments, vars, some s⟩
        (q.document field arguments).size 2 q.selections Component.typeName (.record c) =
      q.outcome schema s vars c := by
  have halike := q.alike_document field "component" arguments []
  rw [ComponentQuery.outcome, answerObject_of_alike halike, halike.size]

theorem breach_outcome (h : Shaped found tablePrefix schema)
    (hg : Grouping.ofSelections schema (q.document "component" []) vars Component.typeName
      q.selections = .ok g) (c : Record) : (q.outcome schema s vars c).breach = none :=
  breach_component h (q.size_document_pos _ _) hg c

theorem run_component (h : Shaped found tablePrefix schema) {id : String}
    (hc : Component.byId s (unquote id) = .ok (some c))
    (hvalues : RootArguments schema vars "component" arguments [("id", .text id)]) :
    Execution.run ⟨schema, q.document "component" arguments, vars, some s⟩
        (q.operation "component" arguments).selections =
      .object queryType .root [("component", q.outcome schema s vars c)] := by
  obtain ⟨f, hf, hvalues⟩ := hvalues
  obtain rfl : f = rootFields[0] := (Option.some.inj hf).symm
  have hresult : resolve schema (some s) queryType .root 0 [("id", .text id)] .component =
      ⟨.ok (.one (.record c)), 2⟩ :=
    resolve_component_of_byId rfl hc
  have hanswer := complete_component 2 h queryType "component"
    (answerObject ⟨schema, q.document "component" arguments, vars, some s⟩
      (q.document "component" arguments).size 2 q.selections) c
  rw [outcome_eq] at hanswer
  rw [ComponentQuery.operation, run_field h hf hvalues hresult, ← hanswer]
  rfl

theorem run_components (h : Shaped found tablePrefix schema) {records : List Record}
    (hrecords : Component.list s (limitIn values) = .ok records)
    (hvalues : RootArguments schema vars "components" arguments values) :
    Execution.run ⟨schema, q.document "components" arguments, vars, some s⟩
        (q.operation "components" arguments).selections =
      .object queryType .root [("components", .required (.items (records.map fun c =>
        .required (q.outcome schema s vars c))))] := by
  obtain ⟨f, hf, hvalues⟩ := hvalues
  obtain rfl : f = rootFields[1] := (Option.some.inj hf).symm
  have hanswer := complete_components 2 h queryType "components"
    (answerObject ⟨schema, q.document "components" arguments, vars, some s⟩
      (q.document "components" arguments).size 2 q.selections) records
  simp only [outcome_eq] at hanswer
  rw [ComponentQuery.operation, run_field h hf hvalues (resolve_components_of_list hrecords),
    ← hanswer]
  rfl

theorem response_eq (hvars : variableValues schema q.declared q.given = some vars) (field : String)
    (arguments : List Argument) :
    q.response schema s field arguments =
      .ofOutcome (Execution.run ⟨schema, q.document field arguments, vars, some s⟩
        (q.operation field arguments).selections) := by
  simp only [ComponentQuery.response, executeOperation, ComponentQuery.operation, hvars]

theorem response_component (h : Shaped found tablePrefix schema)
    (hvars : variableValues schema q.declared q.given = some vars) {id : String}
    (hc : Component.byId s (unquote id) = .ok (some c))
    (hvalues : RootArguments schema vars "component" arguments [("id", .text id)]) :
    q.response schema s "component" arguments =
      (Answer.ofOutcome (q.outcome schema s vars c)).alone := by
  have hbreaks : (q.outcome schema s vars c).breaks = false := breaks_answerObject _ _ _
  have hfaults := Outcome.faults_append [.key "component"] [] (q.outcome schema s vars c)
  rw [response_eq hvars, run_component h hc hvalues, ofOutcome_of_one hbreaks, Answer.alone,
    Answer.ofOutcome, ← hfaults]
  rfl

theorem response_components (h : Shaped found tablePrefix schema)
    (hvars : variableValues schema q.declared q.given = some vars)
    (hg : Grouping.ofSelections schema (q.document "component" []) vars Component.typeName
      q.selections = .ok g) {records : List Record}
    (hrecords : Component.list s (limitIn values) = .ok records)
    (hvalues : RootArguments schema vars "components" arguments values) :
    q.response schema s "components" arguments =
      Answer.together (records.map fun c => .ofOutcome (q.outcome schema s vars c)) := by
  have hitems : ∀ item ∈ records.map fun c => Outcome.required (q.outcome schema s vars c),
      item.breaks = false := by
    intro item hitem
    obtain ⟨c, -, rfl⟩ := List.mem_map.mp hitem
    simp [Outcome.breaks, breach_outcome h hg c]
  have hbreaks : (Outcome.required (.items (records.map fun c =>
      .required (q.outcome schema s vars c)))).breaks = false := by
    simp [Outcome.breaks, Outcome.breach, Outcome.breachAmong_eq_none hitems]
  rw [response_eq hvars, run_components h hrecords hvalues, ofOutcome_of_one hbreaks, Outcome.data,
    Outcome.data_items hitems, Outcome.faults, Outcome.faults_items hitems, Answer.together]
  have hplaces : ∀ c i, (Outcome.required (q.outcome schema s vars c)).faults
      ([.key "components"] ++ [.index i]) =
        (Answer.ofOutcome (q.outcome schema s vars c)).faults.map
          (.below [.key "components", .index i]) :=
    fun c i => Outcome.faults_append [.key "components", .index i] [] (q.outcome schema s vars c)
  simp only [List.zipIdx_map, List.flatMap_map, Prod.map_fst, Prod.map_snd, id, hplaces,
    List.map_map]
  rfl

end Agreement

/-- A list of components answers each of them as the root answers it by its id, with the same faults
in the same order, and a limit takes a first part of it. -/
theorem components_agree_with_component {built : Store} {tablePrefix : String} {schema : Schema}
    (h : Schema.ofStore built tablePrefix = .ok schema) {s : Store} {ids : List String}
    {records : List Record} (hcatalog : Component.Catalog s ids records)
    (hquotes : ∀ id ∈ ids, ¬Wrapped id) {q : ComponentQuery} {vars : Variables}
    (hvars : variableValues schema q.declared q.given = some vars) {g : Grouping}
    (hg : Grouping.ofSelections schema (q.document "component" []) vars Component.typeName
      q.selections = .ok g) :
    ∃ answers : List Answer, answers.length = ids.length ∧
      (∀ arguments values, RootArguments schema vars "components" arguments values →
        (∀ k, limitIn values = some k → -2147483648 ≤ k ∧ k ≤ 2147483647) →
          ∃ listed, q.response schema s "components" arguments = Answer.together listed ∧
            listed <+: answers ∧
            listed.length = Component.takenOf (limitIn values) ids.length) ∧
      ∀ (i : Nat) (id : String), ids[i]? = some id → ∃ a : Answer, answers[i]? = some a ∧
        ∀ arguments, RootArguments schema vars "component" arguments [("id", .text id)] →
          q.response schema s "component" arguments = a.alone := by
  obtain ⟨-, found, -, -, hshaped⟩ := ofStore_shaped h
  refine ⟨records.map fun c => .ofOutcome (q.outcome schema s vars c), ?_, ?_, ?_⟩
  · rw [List.length_map, hcatalog.length_eq]
  · intro arguments values hvalues hlimit
    have hrecords : Component.list s (limitIn values) = .ok _ :=
      hcatalog.list_eq fun k hk => (hlimit k hk).2.trans (by decide)
    -- every item is a whole answer, so the answers are cut off where the records are
    refine ⟨_, response_components hshaped hvars hg hrecords hvalues, ?_, ?_⟩
    · exact List.IsPrefix.map _ ( List.take_prefix _ _)
    · rw [List.length_map, List.length_take, hcatalog.length_eq, min_eq_left]
      exact Component.takenOf_le _ _
  · intro i id hi
    obtain ⟨c, hc, hbyId⟩ := hcatalog.exists_byId hi
    have hunquoted : unquote id = id :=
      unquote_eq_self_iff.mpr (hquotes id (List.mem_of_getElem? hi))
    refine ⟨_, by rw [List.getElem?_map, hc, Option.map_some], fun arguments hvalues => ?_⟩
    exact response_component hshaped hvars (hunquoted.symm ▸ hbyId) hvalues

section Worlds

/-- The data of a component row with an id and a stamp of its creation. -/
def stampedRow (id stamp : Datum) : List Datum :=
  [id, .text "Position", .text "0x9", .text "0x8", .text "0x7", .text "x: Felt", stamp]

def stamped (id stamp : Datum) : Store :=
  Store.empty.create "components" Component.columns [stampedRow id stamp]

/-- The ids of components. -/
def idsAlone : ComponentQuery := ⟨[], [], [], [.field none "id" [] [] []]⟩

/-- The ids of components on a condition that is left without a value. -/
def idsIncluded : ComponentQuery where
  fragments := []
  declared := [⟨"v", .named "Boolean", some (.bool true), []⟩]
  given := [("v", .null)]
  selections := [.field none "id" [] [⟨"include", [⟨"if", .variable "v"⟩]⟩] []]

def idArgument (id : String) : List Argument := [⟨"id", .string id false⟩]

/-- A list of one component has one item, which is answered like the component of an id. -/
def ListsAlike (schema : Schema) (s : Store) (q : ComponentQuery) (id : String) : Prop :=
  ∃ a, q.response schema s "components" [] = Answer.together [a] ∧
    q.response schema s "component" (idArgument id) = a.alone

def Response.part? (r : Response) (label : String) : Option Datum :=
  match r.data with
  | .object fields => Assoc.get? fields label
  | _ => none

/-- Whether a list has one item, and that is null if and only if another answer is. -/
def listsAlike? (list one : Response) : Bool :=
  match list.part? "components", one.part? "component" with
  | some (.list [item]), some single => item.isNull == single.isNull
  | _, _ => false

theorem ListsAlike.listsAlike? {schema : Schema} {s : Store} {q : ComponentQuery} {id : String}
    (h : ListsAlike schema s q id) : listsAlike? (q.response schema s "components" [])
      (q.response schema s "component" (idArgument id)) = true := by
  obtain ⟨a, hlist, hone⟩ := h
  rw [hlist, hone]
  simp [Query.listsAlike?, Response.part?, Answer.together, Answer.alone, Assoc.get?]

/-- What a client sees of a response: its data as JSON and the wordings of its faults. -/
def Response.shown (r : Response) : String × List String :=
  (Json.written r.data, r.faults.map fun f => f.fault.message)

/-- A world of one component whose row passes its checks, and a valid query for which the list and
the component of an id disagree, with the responses to both. -/
def ListsOtherwise (s : Store) (q : ComponentQuery) (id : String)
    (list one : String × List String) : Prop :=
  (∃ row, Component.rowsInOrder s Component.columns = .ok [row] ∧ Component.Valid row ∧
      Component.readText (Assoc.get? row "id") = .ok id) ∧
    ∃ schema, Schema.ofStore s "storage_" = .ok schema ∧
      valid schema (q.document "components" []) = true ∧
      (q.response schema s "components" []).shown = list ∧
      (q.response schema s "component" (idArgument id)).shown = one ∧ ¬ListsAlike schema s q id

theorem table_stamped (id stamp : Datum) : (stamped id stamp).table Component.tableName =
    .ok ⟨"components", Component.columns,
      [⟨1, stampedRow (Store.kept id) (Store.kept stamp)⟩]⟩ :=
  Store.table_of_cons (Store.sameName_iff.mpr rfl)

theorem listsOtherwise_of_answers {id stamp : Datum} {q : ComponentQuery}
    {list one : String × List String}
    (hid : Component.readText (some (Store.kept id)) = .ok "0x1")
    (hstamp : (Component.readStamp (some (Store.kept stamp))).toOption.isSome = true)
    (hanswers : ((Schema.ofStore (stamped id stamp) "storage_").toOption.map fun schema =>
      let listed := q.response schema (stamped id stamp) "components" []
      let single := q.response schema (stamped id stamp) "component" (idArgument "0x1")
      (valid schema (q.document "components" []), listed.shown, single.shown,
        listsAlike? listed single)) =
      some (true, list, one, false)) : ListsOtherwise (stamped id stamp) q "0x1" list one := by
  constructor
  · have hrows : Component.rowsInOrder (stamped id stamp) Component.columns = .ok _ :=
      Component.rowsInOrder_of_sorted (table_stamped id stamp) rfl rfl rfl
        (List.pairwise_singleton _ _)
    obtain ⟨moment, hmoment⟩ := exists_eq_ok hstamp
    exact ⟨_, hrows, Component.valid_zip hid hmoment, hid⟩
  · obtain ⟨schema, hschema, hanswers⟩ := Option.map_eq_some_iff.mp hanswers
    obtain ⟨hvalid, hshown⟩ := Prod.mk.inj hanswers
    obtain ⟨hlist, hshown⟩ := Prod.mk.inj hshown
    obtain ⟨hone, hother⟩ := Prod.mk.inj hshown
    refine ⟨schema, toOption_eq_some_iff.mp hschema, hvalid, hlist, hone, fun halike => ?_⟩
    rw [halike.listsAlike?] at hother
    exact absurd hother (by decide)

end Worlds

/-- A stamp out of the years of texts and a condition without a value leave the list without data
and the component of an id null. A component whose id is stored in bytes is in the list, and is not
found by its id. -/
theorem lists_otherwise :
    ListsOtherwise (stamped (.text "0x1") (.text "0001-01-01T00:00:00+01:00")) idsAlone "0x1"
        ("null", ["date value out of range"])
        ("\x7b\"component\": null\x7d", ["date value out of range"]) ∧
      ListsOtherwise (stamped (.blob "0x1".toUTF8.toList) (.int 1)) idsAlone "0x1"
        ("\x7b\"components\": [\x7b\"id\": \"0x1\"\x7d]\x7d", [])
        ("\x7b\"component\": null\x7d", []) ∧
      ListsOtherwise (stamped (.text "0x1") (.int 1)) idsIncluded "0x1"
        ("null", ["Argument 'if' of non-null type 'Boolean!' must not be null."])
        ("\x7b\"component\": null\x7d",
          ["Argument 'if' of non-null type 'Boolean!' must not be null."]) := by
  refine ⟨listsOtherwise_of_answers rfl ?_ ?_, listsOtherwise_of_answers ?_ ?_ ?_,
    listsOtherwise_of_answers rfl ?_ ?_⟩
  all_goals decide +kernel

/-- Two components under a schema of one: in a list, in a list of one and by their ids. -/
theorem two_components_agree :
    let built := stamped (.text "0x1") (.int 1)
    let s := built.insert "components" [stampedRow (.text "0x2") (.int 2)]
    ∃ schema a b, Schema.ofStore built "storage_" = .ok schema ∧
      idsAlone.response schema s "components" [] = Answer.together [a, b] ∧
      idsAlone.response schema s "components" [⟨"limit", .int "1"⟩] = Answer.together [a] ∧
      idsAlone.response schema s "component" (idArgument "0x1") = a.alone ∧
      idsAlone.response schema s "component" (idArgument "0x2") = b.alone := by
  intro built s
  obtain ⟨schema, hschema⟩ : ∃ schema, Schema.ofStore built "storage_" = .ok schema :=
    exists_eq_ok (by decide +kernel)
  have hrows : Component.rowsInOrder s Component.columns = .ok _ :=
    Component.rowsInOrder_of_sorted rfl rfl rfl rfl (by decide)
  obtain ⟨records, hrecords⟩ : ∃ records, ([stampedRow (.text "0x1") (.int 1),
      stampedRow (.text "0x2") (.int 2)].map Component.columns.zip).mapM Component.ofRow =
        .ok records :=
    exists_eq_ok (by decide +kernel)
  have hcatalog : Component.Catalog s ["0x1", "0x2"] records :=
    ⟨⟨_, hrows, hrecords, rfl⟩, by decide⟩
  have hquotes : ∀ id ∈ ["0x1", "0x2"], ¬Wrapped id := by
    simp only [← unquote_eq_self_iff]
    decide +kernel
  obtain ⟨answers, hlength, hlists, hone⟩ := components_agree_with_component (q := idsAlone)
    hschema hcatalog hquotes rfl (ofSelections_of_field Component.typeName)
  obtain ⟨a, b, rfl⟩ := List.length_eq_two.mp hlength
  obtain ⟨all, hall, hleading, hcount⟩ := hlists [] [] ⟨rootFields[1], rfl, rfl⟩ (by decide)
  obtain rfl : all = [a, b] := hleading.eq_of_length hcount
  obtain ⟨first, hfirst, hleading, hcount⟩ := hlists [⟨"limit", .int "1"⟩] [("limit", .int 1)]
    ⟨rootFields[1], rfl, rfl⟩ (by decide)
  obtain rfl : first = [a] :=
    (List.prefix_iff_eq_take.mp hleading).trans (congrArg (List.take · [a, b]) hcount)
  obtain ⟨a', ha, hwhole⟩ := hone 0 "0x1" rfl
  obtain rfl := Option.some.inj ha
  obtain ⟨b', hb, hother⟩ := hone 1 "0x2" rfl
  obtain rfl := Option.some.inj hb
  exact ⟨schema, _, _, hschema, hall, hfirst, hwhole _ ⟨rootFields[0], rfl, rfl⟩,
    hother _ ⟨rootFields[0], rfl, rfl⟩⟩

end WorldQuery.Query
