import WorldQuery.Proofs.Schema.Shape
import WorldQuery.Schema.Meta

/-!
# Looking up types

A lookup among all types of a shaped schema finds an object of `objectTypes`, the union over the
storage types, a scalar, or a type that describes the schema. The fields of an object fit together
with their types: `FieldOf` gives, for every resolver, the type in whose place its finds are
answered.
-/

namespace WorldQuery.Schema

/-- The names of the types that describe a schema. -/
def metaNames : List String := Meta.types.map TypeDef.name

section Meta

theorem mem_metaTypes {t : TypeDef} (h : t ∈ Meta.types) :
    t.name ∈ metaNames ∧ t.members = [] ∧ t.name ∉ scalarNames ∧
      ∀ f ∈ t.fields, f.type.base ∈ scalarNames ++ metaNames ∧
        f.resolver = .introspection f.name := by
  revert t
  decide +kernel

theorem not_union_mem_metaTypes {union : String} {members : List String} :
    .union union members ∉ Meta.types := by
  simp [Meta.types, Meta.schemaType, Meta.typeType, Meta.kindType, Meta.fieldType,
    Meta.inputValueType, Meta.enumValueType, Meta.directiveType, Meta.locationType]

end Meta

variable {found : List (String × Layout)} {tablePrefix : String} {schema : Schema}

theorem mem_of_lookup {name : String} {t : TypeDef} (h : schema.lookup name = some t) :
    t.name = name ∧ (t ∈ schema.types ∨ t ∈ Meta.types) := by
  have hname : t.name = name := by simpa using List.find?_some h
  exact ⟨hname, List.mem_append.mp (List.mem_of_find?_eq_some h)⟩

theorem type?_of_mem (h : Shaped found tablePrefix schema) {t : TypeDef} (ht : t ∈ schema.types) :
    schema.type? t.name = some t := by
  unfold type?
  cases hfind : schema.types.find? (·.name == t.name) with
  | none => exact absurd (List.find?_eq_none.mp hfind t ht) (by simp)
  | some u =>
    have hname : u.name = t.name := by simpa using List.find?_some hfind
    have hu := List.mem_of_find?_eq_some hfind
    rw [List.inj_on_of_nodup_map h.assembled.nodup hu ht hname]

theorem lookup_of_mem (h : Shaped found tablePrefix schema) {t : TypeDef} (ht : t ∈ schema.types) :
    schema.lookup t.name = some t := by
  have htype := type?_of_mem h ht
  unfold type? at htype
  unfold lookup allTypes
  rw [List.find?_append, htype]
  rfl

theorem lookup_eq_object (h : Shaped found tablePrefix schema) {name type description : String}
    {fields : List FieldDef}
    (hlookup : schema.lookup name = some (.object type description fields)) :
    name ∈ metaNames ∨ (.object name description fields) ∈ objectTypes found tablePrefix := by
  obtain ⟨hname, hmem⟩ := mem_of_lookup hlookup
  rcases hmem with hmem | hmem
  · obtain rfl : type = name := hname
    exact Or.inr (h.assembled.mem_objects.mpr ⟨hmem, rfl⟩)
  · exact Or.inl (hname ▸ (mem_metaTypes hmem).1)

theorem lookup_eq_union (h : Shaped found tablePrefix schema) {name union : String}
    {members : List String} (hlookup : schema.lookup name = some (.union union members)) :
    name = ObjectDef.storageUnion ∧ members = (Assoc.keys found).map Name.typeName := by
  obtain ⟨hname, hmem⟩ := mem_of_lookup hlookup
  rcases hmem with hmem | hmem
  · obtain ⟨-, rfl, hmembers⟩ := h.union_mem_iff.mp hmem
    exact ⟨hname.symm, hmembers⟩
  · exact absurd hmem not_union_mem_metaTypes

theorem mem_objectTypes {t : TypeDef} :
    t ∈ objectTypes found tablePrefix ↔
      t = componentType (Assoc.keys found) tablePrefix ∨
        (∃ entry ∈ found, t = storageType (Assoc.keys found) tablePrefix entry) ∨ t = rootType := by
  simp only [objectTypes, List.mem_cons, List.mem_append, List.mem_map, List.not_mem_nil, or_false,
    eq_comm]

theorem lookup_component (h : Shaped found tablePrefix schema) :
    schema.lookup Component.typeName = some (componentType (Assoc.keys found) tablePrefix) :=
  lookup_of_mem h (h.assembled.mem_objects.mp (mem_objectTypes.mpr (Or.inl rfl))).1

theorem lookup_root (h : Shaped found tablePrefix schema) :
    schema.lookup queryType = some rootType := by
  have hmem : rootType ∈ schema.types :=
    (h.assembled.mem_objects.mp (mem_objectTypes.mpr (Or.inr (Or.inr rfl)))).1
  exact lookup_of_mem h hmem

theorem lookup_storage (h : Shaped found tablePrefix schema) {entry : String × Layout}
    (hentry : entry ∈ found) : schema.lookup (Name.typeName entry.1) =
      some (storageType (Assoc.keys found) tablePrefix entry) := by
  have hmem : storageType (Assoc.keys found) tablePrefix entry ∈ schema.types :=
    (h.assembled.mem_objects.mp (mem_objectTypes.mpr (Or.inr (Or.inl ⟨entry, hentry, rfl⟩)))).1
  rw [← name_storageType (Assoc.keys found) tablePrefix entry]
  exact lookup_of_mem h hmem

theorem lookup_union (h : Shaped found tablePrefix schema) (hne : Assoc.keys found ≠ []) :
    schema.lookup ObjectDef.storageUnion =
      some (.union ObjectDef.storageUnion ((Assoc.keys found).map Name.typeName)) :=
  lookup_of_mem h (h.union_mem hne)

theorem storageTypes_eq (h : Shaped found tablePrefix schema) :
    schema.storageTypes = (Assoc.keys found).map Name.typeName := by
  unfold storageTypes
  by_cases hne : Assoc.keys found = []
  · rw [hne]
    cases htype : schema.type? ObjectDef.storageUnion with
    | none => rfl
    | some t =>
      cases t with
      | union union members =>
        exact absurd hne (h.union_mem_iff.mp (List.mem_of_find?_eq_some htype)).1
      | scalar name description => rfl
      | object name description fields => rfl
      | enum name description values => rfl
  · have htype := type?_of_mem h (h.union_mem hne)
    rw [TypeDef.name] at htype
    rw [htype]
    rfl

/-! ### Fields and their types -/

/-- How the fields of an owning type are resolved, and the named type at the bottom of their
types. -/
inductive FieldOf (found : List (String × Layout)) (tablePrefix owner : String) :
    Resolver → String → Prop where
  | value (field base : String) : FieldOf found tablePrefix owner (.value field) base
  | component : FieldOf found tablePrefix owner .component Component.typeName
  | components : FieldOf found tablePrefix owner .components Component.typeName
  | storage (h : owner = Component.typeName) :
    FieldOf found tablePrefix owner (.storage (Assoc.keys found) tablePrefix)
      ObjectDef.storageUnion
  | reference (field : String) {target : String} (h : target ∈ Assoc.keys found) :
    FieldOf found tablePrefix owner (.reference field target (Assoc.keys found) tablePrefix)
      (Name.typeName target)
  | introspection (part : String) {base : String} (h : base ∈ scalarNames ++ metaNames) :
    FieldOf found tablePrefix owner (.introspection part) base

theorem fieldOf_componentType {f : FieldDef}
    (hf : f ∈ (componentType (Assoc.keys found) tablePrefix).fields) :
    FieldOf found tablePrefix Component.typeName f.resolver f.type.base := by
  rcases List.mem_append.mp hf with hf | hf
  · obtain ⟨⟨field, kind | target⟩, -, hfield⟩ := List.mem_filterMap.mp hf
    · obtain rfl := Option.some.inj hfield
      exact .value _ _
    · simp [scalarField?] at hfield
  · split_ifs at hf
    · simp at hf
    · obtain rfl := List.mem_singleton.mp hf
      exact .storage rfl

theorem fieldOf_storageType (h : Shaped found tablePrefix schema) {entry : String × Layout}
    (hentry : entry ∈ found) {f : FieldDef} (owner : String)
    (hf : f ∈ (storageType (Assoc.keys found) tablePrefix entry).fields) :
    FieldOf found tablePrefix owner f.resolver f.type.base := by
  obtain ⟨name, layout⟩ := entry
  rcases mem_fields_storageType hf with ⟨kind, -, heq⟩ | ⟨target, hmem, heq⟩
  · rw [heq]
    exact .value _ _
  · rw [heq]
    exact .reference _ ((h.wellFormed _ hentry).references _ _ hmem)

theorem fieldOf_rootType {f : FieldDef} (owner : String) (hf : f ∈ rootType.fields) :
    FieldOf found tablePrefix owner f.resolver f.type.base := by
  rcases List.mem_pair.mp hf with rfl | rfl
  · exact .component
  · exact .components

/-- Every field that a type of a schema answers is of one of these forms. -/
theorem fieldOf_of_field? (h : Shaped found tablePrefix schema) {owner : TypeDef} {name : String}
    {f : FieldDef} (howner : schema.lookup owner.name = some owner)
    (hf : Schema.field? owner name = some f) :
    FieldOf found tablePrefix owner.name f.resolver f.type.base := by
  unfold Schema.field? at hf
  split_ifs at hf
  · obtain rfl := Option.some.inj hf
    exact .introspection _ (by decide +kernel)
  · obtain rfl := Option.some.inj hf
    exact .introspection _ (by decide +kernel)
  · obtain rfl := Option.some.inj hf
    exact .introspection _ (by decide +kernel)
  · have hmem : f ∈ owner.fields := List.mem_of_find?_eq_some hf
    rcases (mem_of_lookup howner).2 with howner | howner
    · have hobject : owner.isObject = true := by
        cases owner <;> simp [TypeDef.fields, TypeDef.isObject] at hmem ⊢
      rcases mem_objectTypes.mp (h.assembled.mem_objects.mpr ⟨howner, hobject⟩) with
        rfl | ⟨entry, hentry, rfl⟩ | rfl
      · exact fieldOf_componentType hmem
      · exact fieldOf_storageType h hentry _ hmem
      · exact fieldOf_rootType _ hmem
    · obtain ⟨hbase, hresolver⟩ := (mem_metaTypes howner).2.2.2 f hmem
      rw [hresolver]
      exact .introspection _ hbase

end WorldQuery.Schema
