import WorldQuery.Proofs.Layout.Reading
import WorldQuery.Proofs.Schema.Assembly

/-!
# Types of discovered objects

The types that the assembly makes of the component object, of storage objects and of the root are
written out here field by field. `typeOf_component` and `typeOf_storage` say that the assembly makes
exactly these, and `violationsOf_storageType` that the schema language has nothing against them.
-/

namespace WorldQuery.Schema

open Success

def scalarField? : String × TypeRef → Option FieldDef
  | (field, .scalar kind) => some ⟨field, .named kind.name, [], "", .value field⟩
  | (_, .object _) => none

/-- The field of a reference in a layout: it has the type of the name that it refers to. -/
def recordField? (known : List String) (tablePrefix : String) :
    String × TypeRef → Option FieldDef
  | (_, .scalar _) => none
  | (field, .object target) =>
    some
      ⟨field, .named (Name.typeName target), [], "", .reference field target known tablePrefix⟩

/-- The type of a discovered name: scalars first, then references, each in order of declaration. -/
def storageType (known : List String) (tablePrefix : String) (entry : String × Layout) : TypeDef :=
  .object (Name.typeName entry.1) ""
    (entry.2.filterMap scalarField? ++ entry.2.filterMap (recordField? known tablePrefix))

theorem name_storageType (known : List String) (tablePrefix : String) (entry : String × Layout) :
    (storageType known tablePrefix entry).name = Name.typeName entry.1 := by
  rw [storageType, TypeDef.name]

def storageField (known : List String) (tablePrefix : String) : FieldDef :=
  ⟨"storage", .named ObjectDef.storageUnion, [], "Storage record owned by this component",
    .storage known tablePrefix⟩

def componentType (known : List String) (tablePrefix : String) : TypeDef :=
  .object Component.typeName ""
    (Component.fields.filterMap scalarField? ++
      if known = [] then [] else [storageField known tablePrefix])

def rootFields : List FieldDef :=
  [⟨"component", .named Component.typeName,
      [⟨"id", .nonNull (.named Scalar.id.name), "", none⟩], "Look up a component by id",
      .component⟩,
    ⟨"components", .nonNull (.list (.nonNull (.named Component.typeName))),
      [⟨"limit", .named Scalar.int.name, "", none⟩], "All components, oldest first", .components⟩]

def rootType : TypeDef := .object queryType "" rootFields

/-! ### The fields of an object -/

/-- The field that reads a value of its own record. -/
def directField (entry : String × TypeRef) : FieldDef :=
  ⟨entry.1, .named entry.2.name, [], "", .value entry.1⟩

def nestedField (spec : FieldSpec) : FieldDef :=
  ⟨spec.name, outputType spec, [], spec.description, spec.resolver⟩

theorem makeField_of_no_arguments {spec : FieldSpec} (h : spec.arguments = []) :
    makeField spec = .ok (nestedField spec) := by
  unfold makeField
  rw [h]
  rfl

/-- What makes the fields of an object a type as they stand. -/
structure Presentable (o : ObjectDef) : Prop where
  no_arguments : ∀ spec ∈ o.nested, spec.arguments = []
  nodup : (Assoc.keys o.fields ++ o.nested.map (·.name)).Nodup
  names : ∀ name ∈ Assoc.keys o.fields ++ o.nested.map (·.name), Name.IsSchemaName name

theorem makeFields_of_presentable {o : ObjectDef} (h : Presentable o) :
    makeFields o = .ok (o.fields.map directField ++ o.nested.map nestedField) := by
  have hnested : (o.nested.mapM fun spec => (makeField spec).map fun f => (spec.name, f)) =
      .ok (o.nested.map fun spec => (spec.name, nestedField spec)) := by
    refine mapM_map fun spec hspec => ?_
    rw [makeField_of_no_arguments (h.no_arguments spec hspec)]
    rfl
  have hkeys : (Assoc.keys ((o.fields.map fun entry => (entry.1, directField entry)) ++
      o.nested.map fun spec => (spec.name, nestedField spec))).Nodup := by
    simpa [Assoc.keys, Function.comp_def] using h.nodup
  unfold makeFields
  rw [hnested]
  change Except.ok ((Assoc.ofList ((o.fields.map fun entry => (entry.1, directField entry)) ++
    o.nested.map fun spec => (spec.name, nestedField spec))).map (·.2)) = _
  rw [Assoc.ofList_of_nodup hkeys]
  simp [Function.comp_def]

/-- The type of an object whose fields stand as they are. -/
def typeOf (o : ObjectDef) : TypeDef :=
  .object o.typeName "" (o.fields.map directField ++ o.nested.map nestedField)

theorem makeType_of_presentable {o : ObjectDef} (h : Presentable o) :
    makeType o = .ok (typeOf o) := by
  have hnames :
      checkFieldNames (o.fields.map directField ++ o.nested.map nestedField) = .ok () := by
    refine checkFieldNames_eq_ok_iff.mpr fun f hf => h.names f.name ?_
    rcases List.mem_append.mp hf with hf | hf
    · obtain ⟨entry, hentry, rfl⟩ := List.mem_map.mp hf
      exact List.mem_append_left _ (List.mem_map_of_mem hentry)
    · obtain ⟨spec, hspec, rfl⟩ := List.mem_map.mp hf
      exact List.mem_append_right _ (List.mem_map_of_mem hspec)
  unfold makeType
  rw [makeFields_of_presentable h]
  change (checkFieldNames _ >>= _) = _
  rw [hnames]
  rfl

theorem violationsOf_object {name description : String} {fields : List FieldDef}
    (hname : reservedName name = []) (hne : fields ≠ [])
    (hfields : ∀ f ∈ fields, reservedName f.name = [] ∧ f.args = []) :
    violationsOf (.object name description fields) = [] := by
  have hempty : fields.isEmpty = false := by simpa using hne
  have hnone : (fields.flatMap fun f =>
      reservedName f.name ++ f.args.flatMap fun a => reservedName a.name) = [] := by
    refine List.flatMap_eq_nil_iff.mpr fun f hf => ?_
    rw [(hfields f hf).1, (hfields f hf).2]
    rfl
  simp [violationsOf, TypeDef.name, hname, hempty, hnone]

/-! ### The component object -/

theorem presentable_component (known : List String) (tablePrefix : String) :
    Presentable (ObjectDef.component known tablePrefix) := by
  have hnames : ∀ name ∈ Assoc.keys Component.fields ++ ["storage"], Name.IsSchemaName name := by
    decide
  have hnodup : (Assoc.keys Component.fields ++ ["storage"]).Nodup := by decide
  cases known with
  | nil =>
    have hnil : (ObjectDef.component [] tablePrefix).nested = [] := rfl
    refine ⟨by simp [hnil], ?_, ?_⟩ <;> rw [hnil, List.map_nil, List.append_nil]
    · exact hnodup.of_append_left
    · exact fun name hname => hnames name (List.mem_append_left _ hname)
  | cons name rest =>
    refine ⟨?_, hnodup, hnames⟩
    intro spec hspec
    obtain rfl := List.mem_singleton.mp hspec
    rfl

theorem typeOf_component (known : List String) (tablePrefix : String) :
    typeOf (ObjectDef.component known tablePrefix) = componentType known tablePrefix := by
  cases known <;> rfl

/-! ### Storage objects -/

section Storage

variable {known : List String} {tablePrefix name : String} {layout : Layout}

theorem reservedName_of_isFieldName {field : String}
    (h : Layout.isFieldName field.toList = true) : reservedName field = [] := by
  unfold reservedName
  split
  · next rest heq => simp [heq, Layout.isFieldName] at h
  · rfl

theorem reservedName_typeName (name : String) : reservedName (Name.typeName name) = [] := by
  unfold reservedName
  split
  · next rest heq =>
    rw [Name.typeName, String.toList_ofList] at heq
    exact absurd (heq ▸ List.mem_cons_self) (Name.underscore_not_mem_typeChars name.toList)
  · rfl

theorem map_directField_filter (layout : Layout) :
    (layout.filter (·.2.isScalar)).map directField = layout.filterMap scalarField? := by
  induction layout with
  | nil => rfl
  | cons entry rest ih =>
    obtain ⟨field, kind | target⟩ := entry
    · rw [List.filter_cons_of_pos rfl, List.map_cons, ih]
      rfl
    · rw [List.filter_cons_of_neg (by simp [TypeRef.isScalar]), ih, List.filterMap_cons_none rfl]

theorem map_nestedField_references (known : List String) (tablePrefix : String) (layout : Layout) :
    (layout.filterMap (ObjectDef.referenceField known tablePrefix)).map nestedField =
      layout.filterMap (recordField? known tablePrefix) := by
  rw [List.map_filterMap]
  congr 1
  funext ⟨field, type⟩
  cases type <;> rfl

theorem fieldNames_perm (known : List String) (tablePrefix : String) (layout : Layout) :
    (Assoc.keys (layout.filter (·.2.isScalar)) ++
      (layout.filterMap (ObjectDef.referenceField known tablePrefix)).map (·.name)).Perm
        (Assoc.keys layout) := by
  induction layout with
  | nil => rfl
  | cons entry rest ih =>
    obtain ⟨field, kind | target⟩ := entry
    · rw [List.filter_cons_of_pos rfl, List.filterMap_cons_none rfl]
      exact ih.cons field
    · rw [List.filter_cons_of_neg (by simp [TypeRef.isScalar])]
      exact List.perm_middle.trans (ih.cons field)

theorem presentable_storage {names : List String} (h : Layout.WellFormed names layout) :
    Presentable (ObjectDef.storage name layout known tablePrefix) := by
  have hperm := fieldNames_perm known tablePrefix layout
  refine ⟨?_, hperm.nodup_iff.mpr h.nodup, ?_⟩
  · intro spec hspec
    obtain ⟨⟨field, type⟩, -, hfield⟩ := List.mem_filterMap.mp hspec
    cases type with
    | scalar kind => simp [ObjectDef.referenceField] at hfield
    | object target =>
      obtain rfl := Option.some.inj hfield
      rfl
  · intro field hfield
    exact Name.isSchemaName_of_isFieldName (h.isFieldName field (hperm.mem_iff.mp hfield))

theorem typeOf_storage (known : List String) (tablePrefix name : String) (layout : Layout) :
    typeOf (ObjectDef.storage name layout known tablePrefix) =
      storageType known tablePrefix (name, layout) := by
  rw [storageType, ← map_directField_filter, ← map_nestedField_references]
  rfl

theorem mem_fields_storageType {f : FieldDef}
    (h : f ∈ (storageType known tablePrefix (name, layout)).fields) :
    (∃ kind, (f.name, TypeRef.scalar kind) ∈ layout ∧
        f = ⟨f.name, .named kind.name, [], "", .value f.name⟩) ∨
      ∃ target, (f.name, TypeRef.object target) ∈ layout ∧
        f = ⟨f.name, .named (Name.typeName target), [], "",
          .reference f.name target known tablePrefix⟩ := by
  rcases List.mem_append.mp h with h | h
  · obtain ⟨⟨field, kind | target⟩, hmem, hf⟩ := List.mem_filterMap.mp h
    · obtain rfl := Option.some.inj hf
      exact Or.inl ⟨kind, hmem, rfl⟩
    · simp [scalarField?] at hf
  · obtain ⟨⟨field, kind | target⟩, hmem, hf⟩ := List.mem_filterMap.mp h
    · simp [recordField?] at hf
    · obtain rfl := Option.some.inj hf
      exact Or.inr ⟨target, hmem, rfl⟩

theorem fields_storageType_ne_nil (h : layout ≠ []) :
    (storageType known tablePrefix (name, layout)).fields ≠ [] := by
  obtain ⟨⟨field, kind | target⟩, rest, rfl⟩ := List.exists_cons_of_ne_nil h
  · simp [storageType, TypeDef.fields, scalarField?]
  · simp [storageType, TypeDef.fields, recordField?]

theorem violationsOf_storageType {names : List String} (h : Layout.WellFormed names layout) :
    violationsOf (storageType known tablePrefix (name, layout)) = [] := by
  refine violationsOf_object (reservedName_typeName name) (fields_storageType_ne_nil h.ne_nil)
    fun f hf => ?_
  rcases mem_fields_storageType hf with ⟨kind, hmem, heq⟩ | ⟨target, hmem, heq⟩
  · refine ⟨reservedName_of_isFieldName (h.isFieldName f.name ?_), by rw [heq]⟩
    exact List.mem_map.mpr ⟨_, hmem, rfl⟩
  · refine ⟨reservedName_of_isFieldName (h.isFieldName f.name ?_), by rw [heq]⟩
    exact List.mem_map.mpr ⟨_, hmem, rfl⟩

end Storage

theorem violationsOf_componentType (known : List String) (tablePrefix : String) :
    violationsOf (componentType known tablePrefix) = [] := by
  have hscalars : ∀ f ∈ Component.fields.filterMap scalarField?,
      reservedName f.name = [] ∧ f.args = [] := by decide
  refine violationsOf_object rfl (by simp [Component.fields, scalarField?]) fun f hf => ?_
  rcases List.mem_append.mp hf with hf | hf
  · exact hscalars f hf
  · split_ifs at hf
    · simp at hf
    · obtain rfl := List.mem_singleton.mp hf
      have hname : reservedName "storage" = [] := rfl
      exact ⟨hname, rfl⟩

theorem violationsOf_rootType : violationsOf rootType = [] := rfl

end WorldQuery.Schema
