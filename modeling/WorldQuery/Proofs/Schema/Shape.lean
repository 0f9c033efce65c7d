import WorldQuery.Proofs.Discovery.Rows
import WorldQuery.Proofs.Schema.Collecting
import WorldQuery.Proofs.Schema.Types

/-!
# The shape of a schema

Objects discovered in a store make a schema exactly if the type names of the kept names are
`Admissible`: different from each other, spelled as the schema language wants them, and not taken.
The schema then has the types of `objectTypes` in their order, the union of the storage types if
there are any, and scalars besides; `ofStorage_shape` says so.
-/

namespace WorldQuery.Schema

open Success

/-- Names that no storage type may have. -/
def takenNames : List String :=
  [queryType, Component.typeName, ObjectDef.storageUnion, "Address", "Felt", "DateTime", "String",
    "ID", "Int", "Boolean", "Float"]

/-- What the type names of kept names must be like. -/
structure Admissible (names : List String) : Prop where
  nodup : (names.map Name.typeName).Nodup
  isSchemaName : ∀ name ∈ names, Name.IsSchemaName (Name.typeName name)
  free : ∀ name ∈ names, Name.typeName name ∉ takenNames

instance decidableAdmissible (names : List String) : Decidable (Admissible names) :=
  decidable_of_iff ((names.map Name.typeName).Nodup ∧
      (∀ name ∈ names, Name.IsSchemaName (Name.typeName name)) ∧
        ∀ name ∈ names, Name.typeName name ∉ takenNames)
    ⟨fun ⟨hnodup, hnames, hfree⟩ => ⟨hnodup, hnames, hfree⟩,
      fun h => ⟨h.nodup, h.isSchemaName, h.free⟩⟩

def objectTypes (found : List (String × Layout)) (tablePrefix : String) : List TypeDef :=
  componentType (Assoc.keys found) tablePrefix ::
    (found.map (storageType (Assoc.keys found) tablePrefix) ++ [rootType])

def storageUnions (known : List String) : List UnionSpec :=
  if known = [] then [] else [⟨ObjectDef.storageUnion, known.map Name.typeName⟩]

variable {found : List (String × Layout)} {tablePrefix : String}

def objectDefs (found : List (String × Layout)) (tablePrefix : String) : List ObjectDef :=
  ObjectDef.component (Assoc.keys found) tablePrefix ::
    found.map fun (name, layout) =>
      ObjectDef.storage name layout (Assoc.keys found) tablePrefix

theorem registrable_storage_iff {name : String} {layout : Layout} {known : List String} :
    Registrable (ObjectDef.storage name layout known tablePrefix) ↔
      Name.IsSchemaName (Name.typeName name) ∧ Name.typeName name ≠ queryType ∧
        Name.typeName name ∉ scalarNames := Iff.rfl

theorem mem_objectDefs {o : ObjectDef} :
    o ∈ objectDefs found tablePrefix ↔
      o = ObjectDef.component (Assoc.keys found) tablePrefix ∨
        ∃ entry ∈ found, o = ObjectDef.storage entry.1 entry.2 (Assoc.keys found) tablePrefix := by
  simp only [objectDefs, List.mem_cons, List.mem_map, eq_comm]

theorem typeNames_objectDefs (found : List (String × Layout)) (tablePrefix : String) :
    (objectDefs found tablePrefix).map (·.typeName) =
      Component.typeName :: (Assoc.keys found).map Name.typeName := by
  simp [objectDefs, Assoc.keys, ObjectDef.component, ObjectDef.storage, Function.comp_def]

theorem unions_objectDefs (found : List (String × Layout)) (tablePrefix : String) :
    (objectDefs found tablePrefix).flatMap (·.unions) = storageUnions (Assoc.keys found) := by
  have hnone : ((found.map fun (name, layout) =>
      ObjectDef.storage name layout (Assoc.keys found) tablePrefix).flatMap (·.unions)) = [] := by
    refine List.flatMap_eq_nil_iff.mpr fun o ho => ?_
    obtain ⟨entry, -, rfl⟩ := List.mem_map.mp ho
    rfl
  rw [objectDefs, List.flatMap_cons, hnone, List.append_nil, storageUnions]
  simp only [ObjectDef.component, List.isEmpty_iff]

theorem resolvers_objectDefs (found : List (String × Layout)) (tablePrefix : String) :
    (objectDefs found tablePrefix).flatMap (·.resolvers) = ObjectDef.componentResolvers := by
  have hnone : ((found.map fun (name, layout) => ObjectDef.storage name layout (Assoc.keys found)
      tablePrefix).flatMap (·.resolvers)) = [] := by
    refine List.flatMap_eq_nil_iff.mpr fun o ho => ?_
    obtain ⟨entry, -, rfl⟩ := List.mem_map.mp ho
    rfl
  rw [objectDefs, List.flatMap_cons, hnone, List.append_nil]
  rfl

theorem gatherRoot_componentResolvers :
    gatherRoot [] ObjectDef.componentResolvers = .ok rootFields := rfl

/-! ### What the names must be like -/

theorem registerAll_objectDefs_iff {registered : List ObjectDef} :
    registerAll [] (objectDefs found tablePrefix) = .ok registered ↔
      (Component.typeName :: (Assoc.keys found).map Name.typeName).Nodup ∧
        (∀ name ∈ Assoc.keys found, Name.IsSchemaName (Name.typeName name) ∧
          Name.typeName name ≠ queryType ∧ Name.typeName name ∉ scalarNames) ∧
        registered = objectDefs found tablePrefix := by
  have hname : checkName Component.typeName = .ok () := rfl
  have hcomponent : Registrable (ObjectDef.component (Assoc.keys found) tablePrefix) :=
    ⟨checkName_eq_ok_iff.mp hname, (by decide : Component.typeName ≠ queryType),
      (by decide : Component.typeName ∉ scalarNames)⟩
  rw [registerAll_eq_ok_iff (by simp), List.nil_append, typeNames_objectDefs]
  constructor
  · rintro ⟨hall, hnodup, rfl⟩
    refine ⟨hnodup, fun name hname => ?_, rfl⟩
    obtain ⟨entry, hentry, rfl⟩ := List.mem_map.mp hname
    exact registrable_storage_iff.mp (hall _ (mem_objectDefs.mpr (Or.inr ⟨entry, hentry, rfl⟩)))
  · rintro ⟨hnodup, hall, rfl⟩
    refine ⟨fun o ho => ?_, hnodup, rfl⟩
    rcases mem_objectDefs.mp ho with rfl | ⟨entry, hentry, rfl⟩
    · exact hcomponent
    · exact registrable_storage_iff.mpr (hall entry.1 (List.mem_map_of_mem hentry))

theorem not_mem_takenNames {name : String} (hquery : name ≠ queryType)
    (hcomponent : name ≠ Component.typeName) (hstorage : name ≠ ObjectDef.storageUnion)
    (hscalar : name ∉ scalarNames) (hreserved : name ∉ reservedNames) : name ∉ takenNames := by
  simp only [takenNames, scalarNames, reservedNames, Scalar.all, Scalar.name, List.map_cons,
    List.map_nil, List.mem_cons, not_or] at *
  tauto

theorem mem_takenNames_of_mem_scalarNames {name : String} (h : name ∈ scalarNames) :
    name ∈ takenNames := by
  revert name
  decide

theorem admissible_of_ofStorage {schema : Schema}
    (h : build (objectDefs found tablePrefix) = .ok schema)
    (hregistered : registerAll [] (objectDefs found tablePrefix) =
      .ok (objectDefs found tablePrefix)) :
    Admissible (Assoc.keys found) := by
  obtain ⟨hnodup, hnames, -⟩ := registerAll_objectDefs_iff.mp hregistered
  obtain ⟨hcomponent, hnodup⟩ := List.nodup_cons.mp hnodup
  refine ⟨hnodup, fun name hname => (hnames name hname).1, fun name hname => ?_⟩
  have hne : Assoc.keys found ≠ [] := List.ne_nil_of_mem hname
  have htype : Name.typeName name ∈ (Assoc.keys found).map Name.typeName :=
    List.mem_map_of_mem hname
  unfold build at h
  rw [typeNames_objectDefs, unions_objectDefs, storageUnions, if_neg hne] at h
  obtain ⟨u, hreserved, h⟩ := bind_eq_ok_iff.mp h
  obtain ⟨unions, hunions, -⟩ := bind_eq_ok_iff.mp h
  simp only [forIn_check_iff, checkReserved_eq_ok_iff] at hreserved
  rw [gatherUnions_cons_eq_ok_iff] at hunions
  obtain ⟨-, hstorage, -⟩ := hunions
  refine not_mem_takenNames (hnames name hname).2.1 ?_ ?_ (hnames name hname).2.2
    (hreserved _ (List.mem_cons_of_mem _ htype))
  · exact fun heq => hcomponent (heq ▸ htype)
  · exact fun heq => hstorage (List.mem_cons_of_mem _ (heq ▸ htype))

/-! ### Assembling admissible names -/

theorem Admissible.not_mem_scalarNames {names : List String} (h : Admissible names) {name : String}
    (hname : name ∈ names) : Name.typeName name ∉ scalarNames :=
  fun hscalar => h.free name hname (mem_takenNames_of_mem_scalarNames hscalar)

theorem Admissible.ne_of_mem_takenNames {names : List String} (h : Admissible names)
    {name taken : String} (hname : name ∈ names) (htaken : taken ∈ takenNames) :
    Name.typeName name ≠ taken := by
  rintro rfl
  exact h.free name hname htaken

theorem not_mem_reservedNames {name : String} (h : Name.typeName name ≠ "Float") :
    Name.typeName name ∉ reservedNames := by
  have hreserved : ∀ r ∈ reservedNames, r = "Float" ∨ '_' ∈ r.toList := by decide
  intro hmem
  rcases hreserved _ hmem with hfloat | hunderscore
  · exact h hfloat
  · rw [Name.typeName, String.toList_ofList] at hunderscore
    exact Name.underscore_not_mem_typeChars name.toList hunderscore

theorem Admissible.not_mem_objectNames {names : List String} (h : Admissible names)
    {taken : String} (htaken : taken ∈ takenNames) (hne : taken ≠ Component.typeName) :
    taken ∉ Component.typeName :: names.map Name.typeName := by
  intro hmem
  rcases List.mem_cons.mp hmem with rfl | hmem
  · exact hne rfl
  · obtain ⟨name, hname, heq⟩ := List.mem_map.mp hmem
    exact h.ne_of_mem_takenNames hname htaken heq

theorem Admissible.gatherUnions_eq {names : List String} (h : Admissible names) :
    gatherUnions (Component.typeName :: names.map Name.typeName) [] (storageUnions names) =
      .ok (storageUnions names) := by
  unfold storageUnions
  split_ifs with hnil
  · rfl
  · have hname : checkName ObjectDef.storageUnion = .ok () := rfl
    have hscalar : ObjectDef.storageUnion ∉ scalarNames := by decide
    have hreserved : ObjectDef.storageUnion ∉ reservedNames := by decide
    have hfree : ObjectDef.storageUnion ∉ Component.typeName :: names.map Name.typeName :=
      h.not_mem_objectNames (by decide) (by decide)
    exact gatherUnions_cons_eq_ok_iff.mpr ⟨hscalar, hfree, by simp,
      fun member hmember => List.mem_cons_of_mem _ hmember, hreserved,
      checkName_eq_ok_iff.mp hname, rfl⟩

def schemaNames (known : List String) : List String :=
  scalarNames ++ (Component.typeName :: known.map Name.typeName) ++
    (storageUnions known).map (·.name)

theorem checkReferences_component (known : List String) (tablePrefix : String) :
    checkReferences (schemaNames known) (ObjectDef.component known tablePrefix) = .ok () := by
  rw [checkReferences_eq_ok_iff]
  have hdirect : ∀ entry ∈ Component.fields, entry.2.name ∈ scalarNames := by decide
  have hresolvers : ∀ entry ∈ ObjectDef.componentResolvers.flatMap fun spec =>
      (spec.name, spec.type) :: spec.arguments.map fun arg => (arg.name, arg.type),
      entry.2.name ∈ scalarNames ++ [Component.typeName] := by decide
  have hsub : scalarNames ++ [Component.typeName] ⊆ schemaNames known := by
    intro name hname
    simp only [schemaNames, List.mem_append, List.mem_cons] at hname ⊢
    tauto
  have hstorage : ∀ spec ∈ ObjectDef.storageFields known tablePrefix,
      spec.name = "storage" ∧ spec.type = .object ObjectDef.storageUnion ∧ spec.arguments = [] ∧
        known ≠ [] := by
    intro spec hspec
    unfold ObjectDef.storageFields at hspec
    split_ifs at hspec with hempty
    · simp at hspec
    · obtain rfl := List.mem_singleton.mp hspec
      exact ⟨rfl, rfl, rfl, by simpa using hempty⟩
  constructor
  · intro spec hspec
    rw [(hstorage spec hspec).1]
    exact (by decide : "storage" ∉ Assoc.keys Component.fields)
  · intro entry hentry
    rcases List.mem_append.mp hentry with hentry | hentry
    · exact hsub (List.mem_append_left _ (hdirect entry hentry))
    · rw [List.flatMap_append] at hentry
      rcases List.mem_append.mp hentry with hentry | hentry
      · obtain ⟨spec, hspec, hentry⟩ := List.mem_flatMap.mp hentry
        obtain ⟨-, htype, hargs, hne⟩ := hstorage spec hspec
        rw [hargs] at hentry
        obtain rfl := List.mem_singleton.mp hentry
        rw [htype]
        refine List.mem_append_right _ ?_
        simp [storageUnions, hne, TypeRef.name]
      · exact hsub (hresolvers entry hentry)

theorem checkReferences_storage {known : List String} {layout : Layout} {name : String}
    (h : Layout.WellFormed known layout) :
    checkReferences (schemaNames known) (ObjectDef.storage name layout known tablePrefix) =
      .ok () := by
  rw [checkReferences_eq_ok_iff]
  have hnested : ∀ spec ∈ (ObjectDef.storage name layout known tablePrefix).nested,
      ∃ target ∈ known, spec.type = .object (Name.typeName target) ∧ spec.arguments = [] := by
    intro spec hspec
    obtain ⟨⟨field, type⟩, hmem, hfield⟩ := List.mem_filterMap.mp hspec
    cases type with
    | scalar kind => simp [ObjectDef.referenceField] at hfield
    | object target =>
      obtain rfl := Option.some.inj hfield
      exact ⟨target, h.references field target hmem, rfl, rfl⟩
  constructor
  · have hpresentable : Presentable (ObjectDef.storage name layout known tablePrefix) :=
      presentable_storage h
    have hnodup := hpresentable.nodup
    intro spec hspec hdirect
    rw [List.nodup_append] at hnodup
    exact hnodup.2.2 _ hdirect _ (List.mem_map_of_mem hspec) rfl
  · intro entry hentry
    rcases List.mem_append.mp hentry with hentry | hentry
    · obtain ⟨field, kind | target⟩ := entry
      · have hkind : kind.name ∈ scalarNames := by cases kind <;> decide
        exact List.mem_append_left _ (List.mem_append_left _ hkind)
      · simp [ObjectDef.storage, TypeRef.isScalar] at hentry
    · rw [show (ObjectDef.storage name layout known tablePrefix).resolvers = [] from rfl,
        List.append_nil] at hentry
      obtain ⟨spec, hspec, hentry⟩ := List.mem_flatMap.mp hentry
      obtain ⟨target, htarget, htype, hargs⟩ := hnested spec hspec
      rw [hargs] at hentry
      obtain rfl := List.mem_singleton.mp hentry
      rw [htype]
      refine List.mem_append_left _ (List.mem_append_right _ (List.mem_cons_of_mem _ ?_))
      exact List.mem_map_of_mem htarget

theorem build_eq {objects : List ObjectDef} {unions : List UnionSpec} {root : List FieldDef}
    {types extra : List TypeDef}
    (hreserved : ∀ o ∈ objects, o.typeName ∉ reservedNames)
    (hunions : gatherUnions (objects.map (·.typeName)) [] (objects.flatMap (·.unions)) =
      .ok unions)
    (hreferences : ∀ o ∈ objects, checkReferences
      (scalarNames ++ objects.map (·.typeName) ++ unions.map (·.name)) o = .ok ())
    (hroot : gatherRoot [] (objects.flatMap (·.resolvers)) = .ok root) (hne : root ≠ [])
    (htypes : addObjects unions [] objects = .ok types)
    (hnames : ∀ f ∈ root, Name.IsSchemaName f.name)
    (hextra : addMentioned unions types (mentioned root) = types ++ extra)
    (hquery : queryType ∉ (types ++ extra).map TypeDef.name)
    (hviolations : ∀ t ∈ addMentioned unions (types ++ .object queryType "" root :: extra)
      [Scalar.boolean.name, Scalar.string.name], violationsOf t = []) :
    build objects = .ok ⟨addMentioned unions (types ++ .object queryType "" root :: extra)
      [Scalar.boolean.name, Scalar.string.name]⟩ := by
  have htypes' : withRoot unions types root =
      addMentioned unions (types ++ .object queryType "" root :: extra)
        [Scalar.boolean.name, Scalar.string.name] := by
    rw [withRoot, hextra, List.drop_left]
  refine build_eq_ok_iff.mpr ⟨unions, types, root, ?_, by rw [htypes']⟩
  exact ⟨hreserved, hunions, hreferences, hroot, hne, htypes, hnames, by rwa [hextra],
    by rwa [htypes']⟩

theorem map_typeOf_objectDefs (found : List (String × Layout)) (tablePrefix : String) :
    (objectDefs found tablePrefix).map typeOf =
      componentType (Assoc.keys found) tablePrefix ::
        found.map (storageType (Assoc.keys found) tablePrefix) := by
  rw [objectDefs, List.map_cons, typeOf_component, List.map_map]
  congr 2
  funext ⟨name, layout⟩
  exact typeOf_storage _ _ name layout

theorem presentable_of_mem_objectDefs
    (hwf : ∀ entry ∈ found, Layout.WellFormed (Assoc.keys found) entry.2) {o : ObjectDef}
    (ho : o ∈ objectDefs found tablePrefix) : Presentable o := by
  rcases mem_objectDefs.mp ho with rfl | ⟨entry, hentry, rfl⟩
  · exact presentable_component _ _
  · exact presentable_storage (hwf entry hentry)

theorem plainType?_storageUnions {known : List String} {name : String}
    (hscalar : name ∉ scalarNames) (hunion : name ≠ ObjectDef.storageUnion) :
    plainType? (storageUnions known) name = none := by
  refine plainType?_eq_none hscalar ?_
  unfold storageUnions
  split_ifs <;> simp [hunion]

theorem plainType?_storageUnion {known : List String} (hne : known ≠ []) :
    plainType? (storageUnions known) ObjectDef.storageUnion =
      some (.union ObjectDef.storageUnion (known.map Name.typeName)) := by
  simp only [storageUnions, if_neg hne]
  rfl

theorem Admissible.plainType?_typeName {names : List String} (h : Admissible names) {o : ObjectDef}
    (ho : o.typeName ∈ Component.typeName :: names.map Name.typeName) :
    plainType? (storageUnions names) o.typeName = none := by
  rcases List.mem_cons.mp ho with heq | hmem
  · rw [heq]
    exact plainType?_storageUnions (by decide) (by decide)
  · obtain ⟨name, hname, heq⟩ := List.mem_map.mp hmem
    rw [← heq]
    exact plainType?_storageUnions (h.not_mem_scalarNames hname)
      (h.ne_of_mem_takenNames hname (by decide))

theorem repeatedMembers_of_nodup (union : String) {seen members : List String}
    (h : (seen ++ members).Nodup) : repeatedMembers union seen members = [] := by
  induction members generalizing seen with
  | nil => rfl
  | cons m rest ih =>
    have hperm : (seen ++ m :: rest).Perm (m :: seen ++ rest) := List.perm_middle
    have hnew : m ∉ seen := by
      have := hperm.nodup_iff.mp h
      rw [List.cons_append, List.nodup_cons] at this
      exact fun hmem => this.1 (List.mem_append_left _ hmem)
    rw [repeatedMembers, if_neg (by simpa using hnew)]
    exact ih (hperm.nodup_iff.mp h)

theorem violationsOf_assembled {types : List TypeDef} (hadm : Admissible (Assoc.keys found))
    (hwf : ∀ entry ∈ found, Layout.WellFormed (Assoc.keys found) entry.2)
    (h : Assembled (storageUnions (Assoc.keys found)) (objectTypes found tablePrefix) types)
    {t : TypeDef} (ht : t ∈ types) : violationsOf t = [] := by
  cases hobject : t.isObject with
  | true =>
    have hmem := h.mem_objects.mpr ⟨ht, hobject⟩
    rcases List.mem_cons.mp hmem with rfl | hmem
    · exact violationsOf_componentType _ _
    rcases List.mem_append.mp hmem with hmem | hmem
    · obtain ⟨⟨name, layout⟩, hentry, rfl⟩ := List.mem_map.mp hmem
      exact violationsOf_storageType (hwf _ hentry)
    · obtain rfl := List.mem_singleton.mp hmem
      exact violationsOf_rootType
  | false =>
    have hplain := h.plain t ht hobject
    unfold plainType? at hplain
    cases hkind : Scalar.ofName? t.name with
    | some kind =>
      rw [hkind] at hplain
      have hscalar : ∀ kind ∈ Scalar.all, reservedName kind.name = [] := by decide
      have hname : kind.name = t.name := by simpa using List.find?_some hkind
      rw [← Option.some.inj hplain, ← hname]
      simpa [violationsOf, TypeDef.name] using hscalar kind (List.mem_of_find?_eq_some hkind)
    | none =>
      rw [hkind] at hplain
      obtain ⟨u, hu, rfl⟩ := Option.map_eq_some_iff.mp hplain
      have hmem := List.mem_of_find?_eq_some hu
      unfold storageUnions at hmem
      split_ifs at hmem with hnil
      · simp at hmem
      obtain rfl := List.mem_singleton.mp hmem
      have hmembers : ((Assoc.keys found).map Name.typeName).isEmpty = false := by simpa using hnil
      have hname : reservedName ObjectDef.storageUnion = [] := rfl
      have hrepeated : repeatedMembers ObjectDef.storageUnion []
          ((Assoc.keys found).map Name.typeName) = [] :=
        repeatedMembers_of_nodup _ (by simpa using hadm.nodup)
      simp only [violationsOf, TypeDef.name, hname, hmembers, hrepeated]
      rfl

theorem Admissible.nodup_objectNames (hadm : Admissible (Assoc.keys found)) :
    ((objectDefs found tablePrefix).map (·.typeName)).Nodup := by
  rw [typeNames_objectDefs]
  refine List.nodup_cons.mpr ⟨fun hmem => ?_, hadm.nodup⟩
  obtain ⟨name, hname, heq⟩ := List.mem_map.mp hmem
  exact hadm.ne_of_mem_takenNames hname (by decide) heq

theorem Admissible.not_reserved (hadm : Admissible (Assoc.keys found)) {o : ObjectDef}
    (ho : o ∈ objectDefs found tablePrefix) : o.typeName ∉ reservedNames := by
  rcases mem_objectDefs.mp ho with rfl | ⟨entry, hentry, rfl⟩
  · exact (by decide : Component.typeName ∉ reservedNames)
  · exact not_mem_reservedNames
      (hadm.ne_of_mem_takenNames (List.mem_map_of_mem hentry) (by decide))

theorem checkReferences_objectDefs
    (hwf : ∀ entry ∈ found, Layout.WellFormed (Assoc.keys found) entry.2) {o : ObjectDef}
    (ho : o ∈ objectDefs found tablePrefix) :
    checkReferences (schemaNames (Assoc.keys found)) o = .ok () := by
  rcases mem_objectDefs.mp ho with rfl | ⟨entry, hentry, rfl⟩
  · exact checkReferences_component _ _
  · exact checkReferences_storage (hwf entry hentry)

theorem storageUnion_mem_mentioned (tablePrefix : String) (hne : Assoc.keys found ≠ []) :
    ObjectDef.storageUnion ∈
      mentioned (typeOf (ObjectDef.component (Assoc.keys found) tablePrefix)).fields := by
  rw [typeOf_component, mentioned, List.mem_flatMap]
  refine ⟨storageField (Assoc.keys found) tablePrefix, ?_, List.mem_cons_self⟩
  simp [componentType, TypeDef.fields, hne]

theorem build_objectDefs (hadm : Admissible (Assoc.keys found))
    (hwf : ∀ entry ∈ found, Layout.WellFormed (Assoc.keys found) entry.2) :
    ∃ types, build (objectDefs found tablePrefix) = .ok ⟨types⟩ ∧
      Assembled (storageUnions (Assoc.keys found)) (objectTypes found tablePrefix) types ∧
      (Assoc.keys found ≠ [] → .union ObjectDef.storageUnion
        ((Assoc.keys found).map Name.typeName) ∈ types) := by
  have hnames := typeNames_objectDefs found tablePrefix
  have hnodup : ((objectDefs found tablePrefix).map (·.typeName)).Nodup := hadm.nodup_objectNames
  have hquery : queryType ∉ (objectDefs found tablePrefix).map (·.typeName) := by
    rw [hnames]
    exact hadm.not_mem_objectNames (by decide) (by decide)
  have hplainQuery : plainType? (storageUnions (Assoc.keys found)) queryType = none :=
    plainType?_storageUnions (by decide) (by decide)
  have hmake : ∀ o ∈ objectDefs found tablePrefix, makeType o = .ok (typeOf o) :=
    fun o ho => makeType_of_presentable (presentable_of_mem_objectDefs hwf ho)
  have hplain : ∀ o ∈ objectDefs found tablePrefix,
      plainType? (storageUnions (Assoc.keys found)) (typeOf o).name = none :=
    fun o ho => hadm.plainType?_typeName (hnames ▸ List.mem_map_of_mem ho)
  obtain ⟨types, htypes, -, hassembled, hmentioned⟩ := addObjects_assembled hmake (fun o _ => rfl)
    hplain (by simpa [Function.comp_def, typeOf, TypeDef.name] using hnodup) (Assembled.nil _)
  obtain ⟨extra, hextra, hextra'⟩ := exists_addMentioned (storageUnions (Assoc.keys found)) types
    (mentioned rootFields)
  have hothers := hassembled.addMentioned (mentioned rootFields)
  rw [hextra] at hothers
  have hqueryNew : queryType ∉ (([] ++ (objectDefs found tablePrefix).map typeOf).map
      TypeDef.name) := by
    simpa [Function.comp_def, typeOf, TypeDef.name] using hquery
  have hroot := hothers.insertObject hextra' (o := rootType) rfl hqueryNew hplainQuery
  have hall := hroot.addMentioned [Scalar.boolean.name, Scalar.string.name]
  rw [List.nil_append, map_typeOf_objectDefs] at hall
  have hunions : gatherUnions ((objectDefs found tablePrefix).map (·.typeName)) []
      ((objectDefs found tablePrefix).flatMap (·.unions)) =
        .ok (storageUnions (Assoc.keys found)) := by
    rw [hnames, unions_objectDefs]
    exact hadm.gatherUnions_eq
  have hfieldNames : ∀ f ∈ rootFields, Name.IsSchemaName f.name := by decide
  have hviolations := fun t ht => violationsOf_assembled hadm hwf hall (t := t) ht
  refine ⟨_, build_eq (fun o ho => hadm.not_reserved ho) hunions ?_ ?_ (by simp [rootFields]) htypes
    hfieldNames hextra (hothers.not_mem_names hqueryNew hplainQuery) hviolations, hall, ?_⟩
  · rw [hnames]
    exact fun o ho => checkReferences_objectDefs hwf ho
  · rw [resolvers_objectDefs]
    exact gatherRoot_componentResolvers
  · intro hne
    have hmem := hmentioned _ (mem_objectDefs.mpr (Or.inl rfl)) _
      (storageUnion_mem_mentioned tablePrefix hne) _ (plainType?_storageUnion hne)
    exact subset_addMentioned (List.mem_append_left _ hmem)

/-! ### Schemas of stores -/

/-- The schema of some kept names: their object types, the union over them, scalars besides. -/
structure Shaped (found : List (String × Layout)) (tablePrefix : String) (schema : Schema) :
    Prop where
  admissible : Admissible (Assoc.keys found)
  wellFormed : ∀ entry ∈ found, Layout.WellFormed (Assoc.keys found) entry.2
  assembled : Assembled (storageUnions (Assoc.keys found)) (objectTypes found tablePrefix)
    schema.types
  union_mem : Assoc.keys found ≠ [] →
    .union ObjectDef.storageUnion ((Assoc.keys found).map Name.typeName) ∈ schema.types

theorem ofStorage_objects (definitions : List (String × List String)) (tablePrefix : String) :
    ofStorage (Discovery.objects definitions tablePrefix) tablePrefix =
      registerAll [] (objectDefs (Discovery.kept definitions) tablePrefix) >>= build := by
  rw [ofStorage, Discovery.filterMap_declaredName?_objects]
  rfl

variable {definitions : List (String × List String)}

theorem ofStorage_objects_shaped (hnodup : (Assoc.keys definitions).Nodup) {schema : Schema}
    (h : ofStorage (Discovery.objects definitions tablePrefix) tablePrefix = .ok schema) :
    Shaped (Discovery.kept definitions) tablePrefix schema := by
  rw [ofStorage_objects] at h
  obtain ⟨registered, hregistered, hbuild⟩ := bind_eq_ok_iff.mp h
  obtain rfl := (registerAll_objectDefs_iff.mp hregistered).2.2
  have hadm := admissible_of_ofStorage hbuild hregistered
  have hwf : ∀ entry ∈ Discovery.kept definitions,
      Layout.WellFormed (Assoc.keys (Discovery.kept definitions)) entry.2 :=
    fun entry hentry => Discovery.wellFormed_of_mem_kept hnodup hentry
  obtain ⟨types, htypes, hassembled, hunion⟩ := build_objectDefs hadm hwf
  rw [hbuild] at htypes
  obtain rfl := Except.ok.inj htypes
  exact ⟨hadm, hwf, hassembled, hunion⟩

theorem exists_ofStorage_objects_iff (hnodup : (Assoc.keys definitions).Nodup) :
    (∃ schema, ofStorage (Discovery.objects definitions tablePrefix) tablePrefix = .ok schema) ↔
      Admissible (Assoc.keys (Discovery.kept definitions)) := by
  constructor
  · rintro ⟨schema, h⟩
    exact (ofStorage_objects_shaped hnodup h).admissible
  · intro hadm
    have hwf : ∀ entry ∈ Discovery.kept definitions,
        Layout.WellFormed (Assoc.keys (Discovery.kept definitions)) entry.2 :=
      fun entry hentry => Discovery.wellFormed_of_mem_kept hnodup hentry
    have hbuild : ∃ types,
        build (objectDefs (Discovery.kept definitions) tablePrefix) = .ok ⟨types⟩ := by
      obtain ⟨types, htypes, -⟩ := build_objectDefs hadm hwf
      exact ⟨types, htypes⟩
    obtain ⟨types, htypes⟩ := hbuild
    refine ⟨⟨types⟩, ?_⟩
    rw [ofStorage_objects, bind_eq_ok_iff]
    refine ⟨_, registerAll_objectDefs_iff.mpr ⟨?_, fun name hname => ?_, rfl⟩, htypes⟩
    · rw [← typeNames_objectDefs _ tablePrefix]
      exact hadm.nodup_objectNames
    · exact ⟨hadm.isSchemaName name hname, hadm.ne_of_mem_takenNames hname (by decide),
        hadm.not_mem_scalarNames hname⟩

theorem ofStore_shaped {s : Store} {schema : Schema}
    (h : Schema.ofStore s tablePrefix = .ok schema) :
    ∃ storage found, Discovery.ofStore s tablePrefix = .ok storage ∧
      storage.filterMap (·.declaredName?) = Assoc.keys found ∧ Shaped found tablePrefix schema := by
  obtain ⟨storage, hstorage, hschema⟩ := bind_eq_ok_iff.mp h
  rw [mapError_eq_ok_iff] at hstorage hschema
  obtain ⟨definitions, hnodup, rfl⟩ := Discovery.ofStore_eq_objects hstorage
  exact ⟨_, _, hstorage, Discovery.filterMap_declaredName?_objects _ _,
    ofStorage_objects_shaped hnodup hschema⟩

theorem ofStore_eq_ok_iff {s : Store} {rows : List (String × String)}
    (h : Component.Declares s rows) {schema : Schema} :
    Schema.ofStore s tablePrefix = .ok schema ↔
      ofStorage (Discovery.objects (Component.history rows) tablePrefix) tablePrefix =
        .ok schema := by
  rw [Schema.ofStore, Discovery.ofStore_of_declares h tablePrefix]
  exact mapError_eq_ok_iff

theorem exists_ofStore_shaped {s : Store} {rows : List (String × String)}
    (h : Component.Declares s rows)
    (hadm : Admissible (Assoc.keys (Discovery.kept (Component.history rows)))) :
    ∃ schema, Schema.ofStore s tablePrefix = .ok schema ∧
      Shaped (Discovery.kept (Component.history rows)) tablePrefix schema := by
  have hnodup := Component.keys_history_nodup rows
  obtain ⟨schema, hschema⟩ := (exists_ofStorage_objects_iff hnodup).mpr hadm
  exact ⟨schema, (ofStore_eq_ok_iff h).mpr hschema, ofStorage_objects_shaped hnodup hschema⟩

theorem Shaped.union_mem_iff {schema : Schema} (h : Shaped found tablePrefix schema)
    {union : String} {members : List String} :
    .union union members ∈ schema.types ↔
      Assoc.keys found ≠ [] ∧ union = ObjectDef.storageUnion ∧
        members = (Assoc.keys found).map Name.typeName := by
  constructor
  · intro hmem
    have hplain := h.assembled.plain _ hmem rfl
    unfold plainType? at hplain
    cases hkind : Scalar.ofName? (TypeDef.union union members).name with
    | some kind => simp [hkind] at hplain
    | none =>
      rw [hkind] at hplain
      obtain ⟨u, hu, heq⟩ := Option.map_eq_some_iff.mp hplain
      have hmem := List.mem_of_find?_eq_some hu
      unfold storageUnions at hmem
      split_ifs at hmem with hnil
      · simp at hmem
      obtain rfl := List.mem_singleton.mp hmem
      obtain ⟨rfl, rfl⟩ := TypeDef.union.inj heq
      exact ⟨hnil, rfl, rfl⟩
  · rintro ⟨hne, rfl, rfl⟩
    exact h.union_mem hne

/-- A store makes a schema exactly if its kept names are admissible; the schema then has the object
types of these names in their order, and the union over them if there are any. Every kept name has
the layout of the last of its definitions that can be read. -/
theorem ofStore_exactly {s : Store} {rows : List (String × String)}
    (h : Component.Declares s rows) (tablePrefix : String) :
    let found := Discovery.kept (Component.history rows)
    Discovery.ofStore s tablePrefix = .ok (Discovery.objects (Component.history rows) tablePrefix) ∧
      (∀ entry ∈ found, Discovery.LastReadable (Assoc.keys found) rows entry.1 entry.2) ∧
      ((∃ schema, Schema.ofStore s tablePrefix = .ok schema) ↔ Admissible (Assoc.keys found)) ∧
      ∀ schema, Schema.ofStore s tablePrefix = .ok schema →
        schema.types.filter TypeDef.isObject = objectTypes found tablePrefix ∧
          (schema.types.map TypeDef.name).Nodup ∧
          ∀ union members, .union union members ∈ schema.types ↔
            Assoc.keys found ≠ [] ∧ union = ObjectDef.storageUnion ∧
              members = (Assoc.keys found).map Name.typeName := by
  intro found
  have hnodup := Component.keys_history_nodup rows
  refine ⟨Discovery.ofStore_of_declares h tablePrefix, ?_, ?_, ?_⟩
  · exact fun entry hentry => Discovery.lastReadable_of_mem_kept hentry
  · simp only [ofStore_eq_ok_iff h]
    exact exists_ofStorage_objects_iff hnodup
  · intro schema hs
    have hshaped := ofStorage_objects_shaped hnodup ((ofStore_eq_ok_iff h).mp hs)
    exact ⟨hshaped.assembled.filter_isObject, hshaped.assembled.nodup, fun union members =>
      hshaped.union_mem_iff⟩

/-- A type with a scalar, and one that refers to it. -/
theorem ofStore_player_at_position :
    let s := Store.empty.create "components" Component.columns
      [[.text "0x1", .text "position", .text "0x9", .text "0x8", .text "0x7", .text "x: Felt",
          .int 1],
        [.text "0x2", .text "player", .text "0x9", .text "0x8", .text "0x7",
          .text "at: position, name: String", .int 2]]
    Component.Declares s [("position", "x: Felt"), ("player", "at: position, name: String")] ∧
      ∃ schema, Schema.ofStore s "storage_" = .ok schema ∧
        schema.types.filter TypeDef.isObject = objectTypes
          [("position", [("x", .scalar .felt)]),
            ("player", [("at", .object "position"), ("name", .scalar .string)])] "storage_" := by
  intro s
  have hdeclares : Component.Declares s
      [("position", "x: Felt"), ("player", "at: position, name: String")] :=
    ⟨_, Component.rowsInOrder_of_sorted rfl rfl rfl rfl (by decide), rfl⟩
  have hkept : Discovery.kept (Component.history
      [("position", "x: Felt"), ("player", "at: position, name: String")]) =
        [("position", [("x", .scalar .felt)]),
          ("player", [("at", .object "position"), ("name", .scalar .string)])] := by
    decide +kernel
  obtain ⟨-, -, hiff, hshape⟩ := ofStore_exactly hdeclares "storage_"
  rw [hkept] at hiff hshape
  have hadmissible : Admissible ["position", "player"] := by
    refine ⟨by decide +kernel, fun name hname => ?_, by decide +kernel⟩
    rw [← checkName_eq_ok_iff (u := ())]
    revert name
    decide +kernel
  obtain ⟨schema, hschema⟩ := hiff.mpr hadmissible
  exact ⟨hdeclares, schema, hschema, (hshape schema hschema).1⟩

end WorldQuery.Schema
