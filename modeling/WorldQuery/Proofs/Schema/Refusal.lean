import WorldQuery.Proofs.Schema.Shape

/-!
# When a build fails

Kept names that do not make a schema are refused by the assembly itself: a name is no name of the
schema language, or is taken by a type or by the union. There is one exception. `Float` is a scalar
of the schema language that is not among the registered ones, so a type of that name is registered,
and then refused as a redefinition: `ofStorage_of_takesFloat`, `ofStorage_of_not_takesFloat`.
-/

namespace WorldQuery.Schema

open Success

/-- What registration asks of kept names. -/
structure Registers (names : List String) : Prop where
  nodup : (Component.typeName :: names.map Name.typeName).Nodup
  names : ∀ name ∈ names, Name.IsSchemaName (Name.typeName name) ∧
    Name.typeName name ≠ queryType ∧ Name.typeName name ∉ scalarNames

/-- Names that are registered, one of them as the type `Float`. -/
def TakesFloat (names : List String) : Prop :=
  Registers names ∧ ∃ name ∈ names, Name.typeName name = "Float"

variable {found : List (String × Layout)} {tablePrefix : String}

theorem registerAll_of_registers (h : Registers (Assoc.keys found)) (tablePrefix : String) :
    registerAll [] (objectDefs found tablePrefix) = .ok (objectDefs found tablePrefix) :=
  registerAll_objectDefs_iff.mpr ⟨h.nodup, h.names, rfl⟩

theorem nature_of_register {objects : List ObjectDef} {o : ObjectDef} {fault : BuildFault}
    (h : register objects o = .error fault) : fault.nature = .assembly := by
  unfold register at h
  split at h
  · obtain rfl := Except.error.inj h
    rfl
  · split_ifs at h
    obtain rfl := Except.error.inj h
    rfl

theorem nature_of_registerAll {done objects : List ObjectDef} {fault : BuildFault}
    (h : registerAll done objects = .error fault) : fault.nature = .assembly := by
  induction objects generalizing done with
  | nil => simp [registerAll] at h
  | cons o rest ih =>
    rw [registerAll] at h
    cases hregister : register done o with
    | error cause =>
      rw [hregister] at h
      obtain rfl := Except.error.inj h
      exact nature_of_register hregister
    | ok next =>
      rw [hregister] at h
      exact ih h

/-! ### Reserved names -/

theorem checkReserved_eq_error {name : String} {fault : BuildFault}
    (h : checkReserved name = .error fault) : fault = .reserved name ∧ name ∈ reservedNames := by
  unfold checkReserved at h
  split_ifs at h with hreserved
  exact ⟨(Except.error.inj h).symm, List.contains_iff_mem.mp hreserved⟩

theorem eq_float_of_reserved {names : List String} {name : String}
    (hmem : name ∈ Component.typeName :: names.map Name.typeName) (h : name ∈ reservedNames) :
    name = "Float" ∧ ∃ declared ∈ names, Name.typeName declared = "Float" := by
  rcases List.mem_cons.mp hmem with rfl | hmem
  · exact absurd h (by decide)
  · obtain ⟨declared, hdeclared, rfl⟩ := List.mem_map.mp hmem
    by_cases hfloat : Name.typeName declared = "Float"
    · exact ⟨hfloat, declared, hdeclared, hfloat⟩
    · exact absurd h (not_mem_reservedNames hfloat)

theorem forIn_checkReserved (names : List String) :
    (forIn (Component.typeName :: names.map Name.typeName) PUnit.unit fun name _ => do
        checkReserved name; pure (ForInStep.yield PUnit.unit)) =
      if ∃ name ∈ names, Name.typeName name = "Float" then .error (.reserved "Float")
      else .ok PUnit.unit := by
  cases hloop : (forIn (Component.typeName :: names.map Name.typeName) PUnit.unit fun name _ => do
      checkReserved name; pure (ForInStep.yield PUnit.unit)) with
  | ok u =>
    have hall := forIn_check_iff.mp hloop
    rw [if_neg]
    rintro ⟨name, hname, hfloat⟩
    have hcheck := hall _ (List.mem_cons_of_mem _ (List.mem_map_of_mem hname))
    rw [hfloat] at hcheck
    exact checkReserved_eq_ok_iff.mp hcheck (by decide)
  | error fault =>
    obtain ⟨name, hname, hcheck⟩ := exists_of_forIn_check_eq_error hloop
    obtain ⟨rfl, hreserved⟩ := checkReserved_eq_error hcheck
    obtain ⟨rfl, hfloat⟩ := eq_float_of_reserved hname hreserved
    rw [if_pos hfloat]

/-! ### Builds that fail -/

theorem build_of_float (h : ∃ name ∈ Assoc.keys found, Name.typeName name = "Float") :
    build (objectDefs found tablePrefix) = .error (.reserved "Float") := by
  unfold build
  rw [typeNames_objectDefs]
  dsimp only
  rw [forIn_checkReserved, if_pos h]
  rfl

theorem gatherUnions_of_taken {objectNames : List String} {u : UnionSpec}
    (h : u.name ∈ objectNames) (done rest : List UnionSpec) :
    gatherUnions objectNames done (u :: rest) = .error (.unionTaken u.name) := by
  have htaken : (scalarNames.contains u.name || objectNames.contains u.name ||
      done.any (·.name == u.name)) = true := by
    rw [Bool.or_eq_true, Bool.or_eq_true, List.contains_iff_mem, List.contains_iff_mem]
    exact Or.inl (Or.inr h)
  rw [gatherUnions, if_pos htaken]
  rfl

theorem build_of_union (hfloat : ¬∃ name ∈ Assoc.keys found, Name.typeName name = "Float")
    (h : ∃ name ∈ Assoc.keys found, Name.typeName name = ObjectDef.storageUnion) :
    build (objectDefs found tablePrefix) = .error (.unionTaken ObjectDef.storageUnion) := by
  obtain ⟨name, hname, htype⟩ := h
  have hne : Assoc.keys found ≠ [] := List.ne_nil_of_mem hname
  have hunions : gatherUnions (Component.typeName :: (Assoc.keys found).map Name.typeName) []
      (storageUnions (Assoc.keys found)) = .error (.unionTaken ObjectDef.storageUnion) := by
    rw [storageUnions, if_neg hne]
    apply gatherUnions_of_taken
    exact List.mem_cons_of_mem _ (List.mem_map.mpr ⟨name, hname, htype⟩)
  unfold build
  rw [typeNames_objectDefs, unions_objectDefs]
  dsimp only
  rw [forIn_checkReserved, if_neg hfloat, hunions]
  rfl

/-! ### The schema of discovered objects -/

variable {definitions : List (String × List String)}

theorem ofStorage_of_takesFloat (h : TakesFloat (Assoc.keys (Discovery.kept definitions))) :
    ofStorage (Discovery.objects definitions tablePrefix) tablePrefix =
      .error (.reserved "Float") := by
  rw [ofStorage_objects, registerAll_of_registers h.1]
  exact build_of_float h.2

theorem ofStorage_of_not_takesFloat (hnodup : (Assoc.keys definitions).Nodup)
    (h : ¬TakesFloat (Assoc.keys (Discovery.kept definitions))) :
    (∃ schema, ofStorage (Discovery.objects definitions tablePrefix) tablePrefix = .ok schema) ∨
      ∃ fault, ofStorage (Discovery.objects definitions tablePrefix) tablePrefix = .error fault ∧
        fault.nature = .assembly := by
  cases hregistered : registerAll [] (objectDefs (Discovery.kept definitions) tablePrefix) with
  | error fault =>
    refine Or.inr ⟨fault, ?_, nature_of_registerAll hregistered⟩
    rw [ofStorage_objects, hregistered]
    rfl
  | ok registered =>
    obtain ⟨hdistinct, hnames, rfl⟩ := registerAll_objectDefs_iff.mp hregistered
    have hfloat : ¬∃ name ∈ Assoc.keys (Discovery.kept definitions), Name.typeName name = "Float" :=
      fun hfloat => h ⟨⟨hdistinct, hnames⟩, hfloat⟩
    by_cases hunion : ∃ name ∈ Assoc.keys (Discovery.kept definitions),
        Name.typeName name = ObjectDef.storageUnion
    · refine Or.inr ⟨.unionTaken ObjectDef.storageUnion, ?_, rfl⟩
      rw [ofStorage_objects, hregistered]
      exact build_of_union hfloat hunion
    · left
      obtain ⟨hcomponent, hnodupNames⟩ := List.nodup_cons.mp hdistinct
      refine (exists_ofStorage_objects_iff hnodup).mpr
        ⟨hnodupNames, fun name hname => (hnames name hname).1, fun name hname => ?_⟩
      apply not_mem_takenNames (hnames name hname).2.1
      · exact fun heq => hcomponent (heq ▸ List.mem_map_of_mem hname)
      · exact fun heq => hunion ⟨name, hname, heq⟩
      · exact (hnames name hname).2.2
      · exact not_mem_reservedNames fun heq => hfloat ⟨name, hname, heq⟩

/-- A store of texts has a schema or is refused by the assembly, unless it takes `Float`. -/
theorem ofStore_of_textual {s : Store} (h : Component.Textual s) (tablePrefix : String) :
    ∃ storage, Discovery.ofStore s tablePrefix = .ok storage ∧
      (TakesFloat (storage.filterMap ObjectDef.declaredName?) →
        Schema.ofStore s tablePrefix = .error (.build (.reserved "Float"))) ∧
      (¬TakesFloat (storage.filterMap ObjectDef.declaredName?) →
        (∃ schema, Schema.ofStore s tablePrefix = .ok schema) ∨
          ∃ fault, Schema.ofStore s tablePrefix = .error (.build fault) ∧
            fault.nature = .assembly) := by
  obtain ⟨storage, hstorage⟩ := Discovery.exists_ofStore_of_textual h tablePrefix
  obtain ⟨definitions, hnodup, rfl⟩ := Discovery.ofStore_eq_objects hstorage
  have hschema : Schema.ofStore s tablePrefix =
      (ofStorage (Discovery.objects definitions tablePrefix) tablePrefix).mapError .build := by
    rw [Schema.ofStore, hstorage]
    rfl
  refine ⟨_, hstorage, ?_, ?_⟩
  · intro hfloat
    rw [Discovery.filterMap_declaredName?_objects] at hfloat
    rw [hschema, ofStorage_of_takesFloat hfloat]
    rfl
  · intro hfloat
    rw [Discovery.filterMap_declaredName?_objects] at hfloat
    rw [hschema]
    rcases ofStorage_of_not_takesFloat hnodup hfloat with ⟨schema, hok⟩ | ⟨fault, herror, hnature⟩
    · exact Or.inl ⟨schema, mapError_eq_ok_iff.mpr hok⟩
    · refine Or.inr ⟨fault, ?_, hnature⟩
      rw [herror]
      rfl

end WorldQuery.Schema
