import WorldQuery.Proofs.Query.Fields
import WorldQuery.Proofs.Query.Nodes
import WorldQuery.Proofs.Schema.Lookup
import WorldQuery.Proofs.Storage.Provenance

/-!
# Records are answered as their own types

Whatever the content of the store is when a query is executed, the fields of an object type are
resolved from records of that type: `Fits` is the invariant, and `resolve_fits` says that every
resolver hands it on. The tag of a record guards the union of storage types, a comparison of names
guards references.
-/

namespace WorldQuery.Query

open Name Schema Success

/-- What the fields of a type may be resolved from. -/
def Fits (s : Store) (tablePrefix type : String) : Source → Prop
  | .root => type = queryType
  | .node _ => type ∈ metaNames
  | .record r => r.tag = some type ∧
      if type = Component.typeName then Component.Recorded s r
      else IsSchemaName type ∧
        Storage.Owned s (tableName (Statement.spelled tablePrefix) type) type r

variable {s : Store} {found : List (String × Layout)} {tablePrefix : String} {schema : Schema}
  {source source' : Source} {type : String}

/-! ### Types of places -/

theorem answeredAs_component (h : Shaped found tablePrefix schema)
    (hanswered : AnsweredAs schema Component.typeName source type) : type = Component.typeName := by
  cases hanswered with
  | object => rfl
  | member hlookup =>
    rw [lookup_component h] at hlookup
    simp [componentType] at hlookup

theorem answeredAs_storage (h : Shaped found tablePrefix schema) {target : String}
    (htarget : target ∈ Assoc.keys found)
    (hanswered : AnsweredAs schema (typeName target) source type) : type = typeName target := by
  cases hanswered with
  | object => rfl
  | member hlookup =>
    obtain ⟨entry, hentry, rfl⟩ := List.mem_map.mp htarget
    rw [lookup_storage h hentry] at hlookup
    simp [storageType] at hlookup

/-- An object type that is none of those describing the schema has the name of one of its parts. -/
theorem name_of_lookup (h : Shaped found tablePrefix schema) {name type description : String}
    {fields : List FieldDef} (hlookup : schema.lookup name = some (.object type description fields))
    (hmeta : name ∉ metaNames) :
    name ∈ [Component.typeName, queryType] ∨ name ∈ (Assoc.keys found).map Name.typeName := by
  have hobject := (lookup_eq_object h hlookup).resolve_left hmeta
  rcases mem_objectTypes.mp hobject with heq | ⟨entry, hentry, heq⟩ | heq
  · obtain rfl := congrArg TypeDef.name heq
    exact Or.inl List.mem_cons_self
  · have hname := (congrArg TypeDef.name heq).trans (name_storageType _ _ _)
    exact Or.inr (List.mem_map.mpr ⟨entry.1, List.mem_map_of_mem hentry, hname.symm⟩)
  · obtain rfl := congrArg TypeDef.name heq
    exact Or.inl (List.mem_cons_of_mem _ List.mem_cons_self)

theorem not_mem_typeNames (h : Shaped found tablePrefix schema) {name : String}
    (hname : name ∈ takenNames) : name ∉ (Assoc.keys found).map Name.typeName := by
  intro hmem
  obtain ⟨kept, hkept, heq⟩ := List.mem_map.mp hmem
  exact h.admissible.ne_of_mem_takenNames hkept hname heq

theorem answeredAs_union (h : Shaped found tablePrefix schema)
    (hanswered : AnsweredAs schema ObjectDef.storageUnion source type) :
    ∃ r, source = .record r ∧ r.tag = some type ∧
      type ∈ (Assoc.keys found).map Name.typeName := by
  cases hanswered with
  | object hlookup =>
    rcases name_of_lookup h hlookup (by decide +kernel) with hname | hname
    · exact absurd hname (by decide)
    · exact absurd hname (not_mem_typeNames h (by decide))
  | member hlookup hmember =>
    obtain ⟨-, rfl⟩ := lookup_eq_union h hlookup
    unfold memberType at hmember
    split at hmember
    · next r =>
      split at hmember
      · simp at hmember
      · next tag htag =>
        split at hmember
        · simp at hmember
        · split_ifs at hmember with hobject hcontains
          obtain rfl := Except.ok.inj hmember
          exact ⟨r, rfl, htag, by simpa using hcontains⟩
    · simp at hmember

theorem answeredAs_introspection (h : Shaped found tablePrefix schema) {base : String}
    (hbase : base ∈ scalarNames ++ metaNames) (hanswered : AnsweredAs schema base source type) :
    type ∈ metaNames := by
  cases hanswered with
  | object hlookup =>
    by_contra hmeta
    have hscalar : type ∈ scalarNames := (List.mem_append.mp hbase).resolve_right hmeta
    rcases name_of_lookup h hlookup hmeta with hname | hname
    · have hapart : ∀ name ∈ scalarNames, name ∉ [Component.typeName, queryType] := by decide
      exact hapart type hscalar hname
    · exact not_mem_typeNames h (mem_takenNames_of_mem_scalarNames hscalar) hname
  | member hlookup =>
    obtain ⟨rfl, -⟩ := lookup_eq_union h hlookup
    exact absurd hbase (by decide +kernel)

/-! ### What resolvers find -/

theorem not_has_ofValue {v : Value} : ¬ (Found.ofValue v).Has source := by
  cases v <;> rintro ⟨⟩

theorem eq_record_of_has {r? : Option Record} (h : (Found.ofRecord? r?).Has source) :
    ∃ r, r? = some r ∧ source = .record r := by
  cases r? with
  | none => cases h
  | some r =>
    cases h
    exact ⟨r, rfl, rfl⟩

theorem eq_node_of_has {v : MetaValue} (h : (Found.ofMeta v).Has source) :
    ∃ n, source = .node n := by
  cases v with
  | node n =>
    cases h
    exact ⟨n, rfl⟩
  | nodes ns =>
    obtain _ | ⟨hitem, hhas⟩ := h
    obtain ⟨n, -, rfl⟩ := List.mem_map.mp hitem
    cases hhas
    exact ⟨n, rfl⟩
  | words ws =>
    obtain _ | ⟨hitem, hhas⟩ := h
    obtain ⟨w, -, rfl⟩ := List.mem_map.mp hitem
    cases hhas
  | nothing => cases h
  | text s => cases h
  | flag b => cases h

theorem askMeta_has {owner part : String} {args : Variables}
    (h : (Resolver.askMeta schema owner source part args).Has source') :
    ∃ n, source' = .node n := by
  unfold Resolver.askMeta at h
  split_ifs at h
  · cases h
  · cases h
    exact ⟨_, rfl⟩
  · split at h
    · split_ifs at h
      · cases h
        exact ⟨_, rfl⟩
      · cases h
    · cases h
  · split at h
    · exact eq_node_of_has h
    · cases h

/-- A result is found at once, or it is the answer to a question. -/
theorem resolve_eq_ok {owner : String} {round : Nat} {args : Variables} {resolver : Resolver}
    {result : Found}
    (h : (resolve schema (some s) owner source round args resolver).result = .ok result) :
    resolver.inquire schema owner source args = .ok (.found result) ∨
      ∃ q, resolver.inquire schema owner source args = .ok (.ask q) ∧ q.answer s = .ok result := by
  unfold resolve at h
  dsimp only at h
  split at h
  · simp at h
  · next hinquire =>
    obtain rfl := Except.ok.inj h
    exact Or.inl hinquire
  · next q hinquire => exact Or.inr ⟨q, hinquire, mapError_eq_ok_iff.mp h⟩

theorem follow_eq_some {field target owner : String} {known : List String} {r : Record}
    (h : Question.follow s field target known tablePrefix owner = .ok (some r)) :
    Storage.ofComponent s tablePrefix known owner = .ok (some r) ∧
      r.tag = some (typeName target) := by
  obtain ⟨found, hfound, h⟩ := bind_eq_ok_iff.mp h
  cases found with
  | none => simp [pure_eq_ok_iff] at h
  | some r' =>
    simp only at h
    split_ifs at h with htag
    obtain rfl := Option.some.inj (pure_eq_ok_iff.mp h)
    exact ⟨hfound, htag⟩

section Finds

variable {owner : String} {round : Nat} {args : Variables} {result : Found}

theorem resolve_value {field : String}
    (hresult : (resolve schema (some s) owner source round args (.value field)).result =
      .ok result) : ¬ result.Has source' := by
  rcases resolve_eq_ok hresult with hfound | ⟨q, hask, -⟩
  · simp only [Resolver.inquire] at hfound
    split at hfound
    · split at hfound
      · obtain rfl := Inquiry.found.inj (Except.ok.inj hfound)
        exact not_has_ofValue
      · simp at hfound
    · simp at hfound
  · simp only [Resolver.inquire] at hask
    split at hask
    · split at hask <;> simp at hask
    · simp at hask

theorem resolve_component
    (hresult : (resolve schema (some s) owner source round args .component).result = .ok result)
    (hhas : result.Has source') : ∃ r, source' = .record r ∧ Component.Recorded s r := by
  rcases resolve_eq_ok hresult with hfound | ⟨q, hask, hanswer⟩
  · simp only [Resolver.inquire] at hfound
    split at hfound <;> simp at hfound
  · simp only [Resolver.inquire] at hask
    split at hask
    · obtain rfl := Inquiry.ask.inj (Except.ok.inj hask)
      obtain ⟨r?, hr, rfl⟩ := map_eq_ok_iff.mp hanswer
      obtain ⟨r, rfl, rfl⟩ := eq_record_of_has hhas
      exact ⟨r, rfl, Component.byId_recorded hr⟩
    · obtain rfl := Inquiry.ask.inj (Except.ok.inj hask)
      obtain ⟨row, -, hthrow⟩ := bind_eq_ok_iff.mp hanswer
      exact absurd hthrow throw_ne_ok
    · simp at hask

theorem resolve_components
    (hresult : (resolve schema (some s) owner source round args .components).result = .ok result)
    (hhas : result.Has source') : ∃ r, source' = .record r ∧ Component.Recorded s r := by
  have hlist : ∀ limit, Question.answer s (.components limit) = .ok result →
      ∃ r, source' = .record r ∧ Component.Recorded s r := by
    intro limit hanswer
    obtain ⟨records, hrecords, rfl⟩ := map_eq_ok_iff.mp hanswer
    obtain _ | ⟨hitem, hone⟩ := hhas
    obtain ⟨r, hr, rfl⟩ := List.mem_map.mp hitem
    cases hone
    exact ⟨r, rfl, Component.list_recorded hrecords r hr⟩
  rcases resolve_eq_ok hresult with hfound | ⟨q, hask, hanswer⟩
  · simp only [Resolver.inquire] at hfound
    split at hfound <;> simp at hfound
  · simp only [Resolver.inquire] at hask
    split at hask
    · obtain rfl := Inquiry.ask.inj (Except.ok.inj hask)
      exact hlist _ hanswer
    · obtain rfl := Inquiry.ask.inj (Except.ok.inj hask)
      exact hlist _ hanswer

theorem resolve_storage {known : List String}
    (hresult : (resolve schema (some s) owner source round args
      (.storage known tablePrefix)).result = .ok result) (hhas : result.Has source') :
    ∃ component id name layout r, source = .record component ∧
      component.get? "id" = some (.text id) ∧ component.get? "name" = some (.text name) ∧
      source' = .record r ∧
      Storage.byColumn s tablePrefix Storage.ownerColumn id name layout = .ok (some r) := by
  rcases resolve_eq_ok hresult with hfound | ⟨q, hask, hanswer⟩
  · simp only [Resolver.inquire] at hfound
    split at hfound
    · obtain ⟨q, -, hq⟩ := map_eq_ok_iff.mp (mapError_eq_ok_iff.mp hfound)
      simp at hq
    · simp at hfound
  · simp only [Resolver.inquire] at hask
    split at hask
    · next component =>
      obtain ⟨q', hq', heq⟩ := map_eq_ok_iff.mp (mapError_eq_ok_iff.mp hask)
      obtain rfl := Inquiry.ask.inj heq
      obtain ⟨id, name, definition, layout, rfl, hid, hname, -, -⟩ := askStorage_eq_ok_iff.mp hq'
      obtain ⟨r?, hr, rfl⟩ := map_eq_ok_iff.mp hanswer
      obtain ⟨r, rfl, rfl⟩ := eq_record_of_has hhas
      exact ⟨component, id, name, layout, r, rfl, hid, hname, rfl, hr⟩
    · simp at hask

theorem resolve_reference {field target : String} {known : List String}
    (hresult : (resolve schema (some s) owner source round args
      (.reference field target known tablePrefix)).result = .ok result)
    (hhas : result.Has source') :
    ∃ id r, source' = .record r ∧ r.tag = some (typeName target) ∧
      Storage.ofComponent s tablePrefix known id = .ok (some r) := by
  rcases resolve_eq_ok hresult with hfound | ⟨q, hask, hanswer⟩
  · simp only [Resolver.inquire] at hfound
    split at hfound
    · have hnothing := mapError_eq_ok_iff.mp hfound
      unfold Resolver.askReference at hnothing
      split at hnothing
      · simp at hnothing
      · obtain rfl := Inquiry.found.inj (Except.ok.inj hnothing)
        cases hhas
      · obtain ⟨id, -, hid⟩ := map_eq_ok_iff.mp hnothing
        simp at hid
    · simp at hfound
  · simp only [Resolver.inquire] at hask
    split at hask
    · have hquestion := mapError_eq_ok_iff.mp hask
      unfold Resolver.askReference at hquestion
      split at hquestion
      · simp at hquestion
      · simp at hquestion
      · obtain ⟨id, -, heq⟩ := map_eq_ok_iff.mp hquestion
        obtain rfl := Inquiry.ask.inj heq
        obtain ⟨r?, hr, rfl⟩ := map_eq_ok_iff.mp hanswer
        obtain ⟨r, rfl, rfl⟩ := eq_record_of_has hhas
        obtain ⟨hrecord, htag⟩ := follow_eq_some hr
        exact ⟨id, r, rfl, htag, hrecord⟩
    · simp at hask

theorem resolve_introspection {part : String}
    (hresult : (resolve schema (some s) owner source round args (.introspection part)).result =
      .ok result) (hhas : result.Has source') : ∃ n, source' = .node n := by
  rcases resolve_eq_ok hresult with hfound | ⟨q, hask, -⟩
  · obtain rfl := Inquiry.found.inj (Except.ok.inj hfound)
    exact askMeta_has hhas
  · simp [Resolver.inquire] at hask

end Finds

/-! ### One step -/

theorem fits_component {r : Record} (hrecorded : Component.Recorded s r) :
    Fits s tablePrefix Component.typeName (.record r) := by
  refine ⟨hrecorded.tag_eq, ?_⟩
  rw [if_pos rfl]
  exact hrecorded

theorem fits_storage (h : Shaped found tablePrefix schema) {name componentId id : String}
    (hname : typeName name ∈ (Assoc.keys found).map Name.typeName) {r : Record} {layout : Layout}
    (hlisted : Component.Listed s componentId name)
    (hid : unquote id = componentId ∨ unquote id = unquote componentId)
    (hr : Storage.byColumn s tablePrefix Storage.ownerColumn id name layout = .ok (some r)) :
    Fits s tablePrefix (typeName name) (.record r) := by
  have hschemaName : IsSchemaName (typeName name) := by
    obtain ⟨kept, hkept, heq⟩ := List.mem_map.mp hname
    rw [← heq]
    exact h.admissible.isSchemaName kept hkept
  have hne : typeName name ≠ Component.typeName := by
    intro heq
    rw [heq] at hname
    exact not_mem_typeNames h (by decide) hname
  refine ⟨Storage.byColumn_tag hr, ?_⟩
  rw [if_neg hne]
  exact ⟨hschemaName, Storage.byColumn_owned hlisted hid hschemaName hr⟩

/-- Whatever a field of an object finds fits the type that it is answered as. -/
theorem resolve_fits (h : Shaped found tablePrefix schema) {owner : TypeDef} {name : String}
    {f : FieldDef} {args : Variables} {round : Nat} {result : Found}
    (hfits : Fits s tablePrefix owner.name source) (howner : schema.lookup owner.name = some owner)
    (hf : Schema.field? owner name = some f)
    (hresult : (resolve schema (some s) owner.name source round args f.resolver).result =
      .ok result)
    (hhas : result.Has source') (hanswered : AnsweredAs schema f.type.base source' type) :
    Fits s tablePrefix type source' := by
  have hfield := fieldOf_of_field? h howner hf
  generalize f.resolver = resolver at hfield hresult
  generalize f.type.base = base at hfield hanswered
  cases hfield with
  | value field => exact absurd hhas (resolve_value hresult)
  | component =>
    obtain ⟨r, rfl, hrecorded⟩ := resolve_component hresult hhas
    obtain rfl := answeredAs_component h hanswered
    exact fits_component hrecorded
  | components =>
    obtain ⟨r, rfl, hrecorded⟩ := resolve_components hresult hhas
    obtain rfl := answeredAs_component h hanswered
    exact fits_component hrecorded
  | storage hcomponent =>
    obtain ⟨component, id, name, layout, r, rfl, hid, hname, rfl, hr⟩ :=
      resolve_storage hresult hhas
    have hrecorded : Component.Recorded s component := by
      have hrecord := hfits.2
      rwa [if_pos hcomponent] at hrecord
    obtain ⟨r', heq, htag, hmember⟩ := answeredAs_union h hanswered
    obtain rfl := Source.record.inj heq
    obtain rfl : typeName name = type := by
      simpa [Storage.byColumn_tag hr] using htag
    exact fits_storage h hmember (hrecorded.listed hid hname) (Or.inr rfl) hr
  | @reference field target htarget =>
    obtain ⟨id, r, rfl, htag, hr⟩ := resolve_reference hresult hhas
    obtain rfl := answeredAs_storage h htarget hanswered
    obtain ⟨name, layout, hlisted, hbyColumn⟩ := Storage.ofComponent_eq_some hr
    have hname : typeName name = typeName target := by
      simpa [Storage.byColumn_tag hbyColumn] using htag
    rw [← hname]
    refine fits_storage h ?_ hlisted (Or.inl rfl) hbyColumn
    rw [hname]
    exact List.mem_map_of_mem htarget
  | introspection part hbase =>
    obtain ⟨n, rfl⟩ := resolve_introspection hresult hhas
    exact answeredAs_introspection h hbase hanswered

/-! ### Executions -/

/-- Every object of an execution fits its type, whatever became of the store since the schema was
built. -/
theorem run_fits (h : Shaped found tablePrefix schema) {doc : Document} {vars : Variables}
    {selections : List Selection} {node : String × Source}
    (hnode : node ∈ (Execution.run ⟨schema, doc, vars, some s⟩ selections).nodes) :
    Fits s tablePrefix node.1 node.2 := by
  have hroot : Fits s tablePrefix queryType .root := rfl
  refine nodes_of_step (x := ⟨schema, doc, vars, some s⟩) (P := Fits s tablePrefix) ?_ hroot hnode
  intro owner source name f args round result source' type hfits howner hf hresult hhas hanswered
  exact resolve_fits h hfits howner hf hresult hhas hanswered

/-- Executed on any later store, a schema answers the fields of an object type other than the root
from records tagged with its name. A record of a storage type was decoded from the table of its
type, for a component of the table of components whose name has that type. That table is the one of
the prefix exactly if the prefix keeps its backslashes: otherwise its name lacks some of them. -/
theorem run_records_of_types {built : Store} (h : Schema.ofStore built tablePrefix = .ok schema)
    (s : Store) (doc : Document) (vars : Variables) (selections : List Selection) :
    ∀ node ∈ (Execution.run ⟨schema, doc, vars, some s⟩ selections).nodes,
      node.1 = queryType ∨ node.1 ∈ metaNames ∨ ∃ r, node.2 = .record r ∧ r.tag = some node.1 ∧
        (node.1 = Component.typeName ∧ Component.Recorded s r ∨
          node.1 ≠ Component.typeName ∧
          (Statement.KeepsBackslashes tablePrefix →
            Storage.Owned s (tableName tablePrefix node.1) node.1 r) ∧
          (¬Statement.KeepsBackslashes tablePrefix →
            Storage.Owned s (tableName (Statement.spelled tablePrefix) node.1) node.1 r ∧
              Store.sameName (tableName (Statement.spelled tablePrefix) node.1)
                (tableName tablePrefix node.1) = false)) := by
  obtain ⟨-, found, -, -, hshaped⟩ := ofStore_shaped h
  rintro ⟨type, source⟩ hnode
  have hfits := run_fits hshaped hnode
  cases source with
  | root => exact Or.inl hfits
  | node n => exact Or.inr (Or.inl hfits)
  | record r =>
    obtain ⟨htag, hrecord⟩ := hfits
    refine Or.inr (Or.inr ⟨r, rfl, htag, ?_⟩)
    split_ifs at hrecord with hcomponent
    · exact Or.inl ⟨hcomponent, hrecord⟩
    · obtain ⟨hschemaName, howned⟩ := hrecord
      have hself : typeName type = type := by
        obtain ⟨id, name, owner, t, row, layout, -, rfl, -⟩ := howned
        exact typeName_typeName hschemaName
      refine Or.inr ⟨hcomponent, fun hkeeps => ?_, fun hdrops => ⟨howned, ?_⟩⟩
      · rwa [Statement.spelled_eq_self_iff.mpr hkeeps] at howned
      · rw [← Bool.not_eq_true, Storage.sameName_tableName_iff (hself.symm ▸ hschemaName)]
        exact mt Statement.spelled_eq_self_iff.mp hdrops

/-- A backslash is lost: the record of a position is read from another table than that of the
prefix, although both are there. -/
theorem run_record_without_backslash :
    let built := Store.empty.create "components" Component.columns
      [[.text "0x1", .text "Position", .text "0x9", .text "0x8", .text "0x7", .text "x: Felt",
        .int 1]]
    let s := (built.create "a\\:b_position" ["component_id", "x"]
      [[.text "0x1", .text "0x1"]]).create "a:b_position" ["component_id", "x"]
      [[.text "0x1", .text "0x2"]]
    let selections : List Selection :=
      [.field none "component" [⟨"id", .string "0x1" false⟩] []
        [.field none "storage" [] [] [.group (some "Position") [] [.field none "x" [] [] []]]]]
    let r : Record := ⟨[("x", .text "0x2")], some "Position"⟩
    ∃ schema, Schema.ofStore built "a\\:b_" = .ok schema ∧
      ("Position", r) ∈ (Execution.run ⟨schema, [.operation ⟨.query, none, [], [], selections⟩], [],
        some s⟩ selections).records ∧
      tableName "a\\:b_" "Position" = "a\\:b_position" ∧
      Storage.Owned s "a:b_position" "Position" r := by
  intro built s selections r
  have hrecords : ((Schema.ofStore built "a\\:b_").toOption.map fun schema =>
      (Execution.run ⟨schema, [.operation ⟨.query, none, [], [], selections⟩], [], some s⟩
        selections).records.contains ("Position", r)) = some true := by
    decide +kernel
  have hdrops : ¬Statement.KeepsBackslashes "a\\:b_" := fun hkeeps =>
    absurd (hkeeps ['a'] ['b', '_'] (by decide)) (by decide +kernel)
  have htable : tableName (Statement.spelled "a\\:b_") "Position" = "a:b_position" := by
    decide +kernel
  cases hschema : Schema.ofStore built "a\\:b_" with
  | error fault => simp [hschema, Except.toOption] at hrecords
  | ok schema =>
    have hrecord : ("Position", r) ∈ (Execution.run ⟨schema,
        [.operation ⟨.query, none, [], [], selections⟩], [], some s⟩ selections).records := by
      simpa [hschema, Except.toOption] using hrecords
    refine ⟨schema, rfl, hrecord, by decide +kernel, ?_⟩
    rcases run_records_of_types hschema s _ [] selections _ (Outcome.mem_records.mp hrecord) with
      hroot | hmeta | ⟨r', hr, -, ⟨hcomponent, -⟩ | ⟨-, -, howned⟩⟩
    · exact absurd hroot (by decide)
    · exact absurd hmeta (by decide +kernel)
    · exact absurd hcomponent (by decide)
    · obtain rfl := Source.record.inj hr
      exact htable ▸ (howned hdrops).1

end WorldQuery.Query
