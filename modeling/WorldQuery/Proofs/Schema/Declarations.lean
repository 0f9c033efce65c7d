import WorldQuery.Proofs.Schema.Collecting
import WorldQuery.Proofs.Schema.Types

/-!
# What becomes of declarations

An object declares direct fields, nested fields, unions and fields of the root, and fields declare
arguments. `declaredType` is the type with one field for every declaration. A schema has the type
`madeType` in its place: of several nested fields of one name, or arguments of one name, only the
last stands. Every other clash of names makes the build fail, as `NamesApart` holds of all that is
built.
-/

namespace WorldQuery.Schema

open Success

section Latest

variable {α : Type} {name : α → String} {items : List α}

/-- The items that a table by their names keeps: of several of one name, the last in the place of
the first. -/
def latest (name : α → String) (items : List α) : List α :=
  (Assoc.ofList (items.map fun item => (name item, item))).map (·.2)

theorem nodup_latest (name : α → String) (items : List α) :
    ((latest name items).map name).Nodup := by
  have hkeys : (latest name items).map name =
      Assoc.keys (Assoc.ofList (items.map fun item => (name item, item))) := by
    rw [latest, Assoc.keys, List.map_map]
    refine List.map_congr_left fun entry hentry => ?_
    obtain ⟨item, -, rfl⟩ := List.mem_map.mp (Assoc.ofList_subset _ hentry)
    rfl
  rw [hkeys]
  exact Assoc.nodup_keys_ofList _

theorem latest_eq_self_iff : latest name items = items ↔ (items.map name).Nodup := by
  constructor
  · intro h
    rw [← h]
    exact nodup_latest name items
  · intro h
    have hkeys : Assoc.keys (items.map fun item => (name item, item)) = items.map name := by
      simp [Assoc.keys]
    rw [latest, Assoc.ofList_of_nodup (hkeys ▸ h), List.map_map]
    exact List.map_id items

end Latest

/-! ### Arguments and fields -/

/-- An argument of a specification, with its description. -/
def declaredArgument (spec : FieldSpec) (arg : ArgumentSpec) : ArgDef :=
  ⟨arg.name, if arg.required then .nonNull (.named arg.type.name) else .named arg.type.name,
    spec.argumentDescription arg.name, none⟩

def declaredField (spec : FieldSpec) : FieldDef :=
  ⟨spec.name, outputType spec, spec.arguments.map (declaredArgument spec), spec.description,
    spec.resolver⟩

def madeField (spec : FieldSpec) : FieldDef :=
  { declaredField spec with
    args := latest ArgDef.name (spec.arguments.map (declaredArgument spec)) }

theorem makeArgument_eq_ok {spec : FieldSpec} {arg : ArgumentSpec} {entry : String × ArgDef}
    (h : makeArgument spec arg = .ok entry) : entry = (arg.name, declaredArgument spec arg) := by
  unfold makeArgument at h
  split at h
  · exact (Except.ok.inj h).symm
  · cases h

theorem makeField_eq_ok {spec : FieldSpec} {f : FieldDef} (h : makeField spec = .ok f) :
    f = madeField spec := by
  unfold makeField at h
  obtain ⟨pairs, hpairs, h⟩ := bind_eq_ok_iff.mp h
  obtain ⟨-, -, h⟩ := bind_eq_ok_iff.mp h
  obtain rfl := pure_eq_ok_iff.mp h
  obtain rfl : pairs = spec.arguments.map fun arg => (arg.name, declaredArgument spec arg) :=
    eq_map_of_mapM_eq_ok hpairs fun arg _ entry => makeArgument_eq_ok
  simp only [madeField, declaredField, latest, List.map_map]
  rfl

theorem madeField_eq_declaredField_iff {spec : FieldSpec} :
    madeField spec = declaredField spec ↔ (spec.arguments.map (·.name)).Nodup := by
  have hnames : (spec.arguments.map (declaredArgument spec)).map ArgDef.name =
      spec.arguments.map (·.name) := by
    rw [List.map_map]
    rfl
  rw [← hnames, ← latest_eq_self_iff]
  simp [madeField, declaredField]

/-! ### Types -/

def declaredType (o : ObjectDef) : TypeDef :=
  .object o.typeName "" (o.fields.map directField ++ o.nested.map declaredField)

def madeType (o : ObjectDef) : TypeDef :=
  .object o.typeName ""
    (o.fields.map directField ++ latest FieldDef.name (o.nested.map madeField))

def declaredRoot (objects : List ObjectDef) : TypeDef :=
  .object queryType "" ((objects.flatMap (·.resolvers)).map declaredField)

def madeRoot (objects : List ObjectDef) : TypeDef :=
  .object queryType "" ((objects.flatMap (·.resolvers)).map madeField)

theorem makeFields_eq_ok {o : ObjectDef} {fields : List FieldDef}
    (hkeys : (Assoc.keys o.fields).Nodup)
    (hnested : ∀ spec ∈ o.nested, spec.name ∉ Assoc.keys o.fields)
    (h : makeFields o = .ok fields) :
    fields = o.fields.map directField ++ latest FieldDef.name (o.nested.map madeField) := by
  unfold makeFields at h
  obtain ⟨nested, hmade, h⟩ := bind_eq_ok_iff.mp h
  obtain rfl := pure_eq_ok_iff.mp h
  obtain rfl : nested = o.nested.map fun spec => (spec.name, madeField spec) := by
    refine eq_map_of_mapM_eq_ok hmade fun spec _ entry hentry => ?_
    obtain ⟨f, hf, rfl⟩ := map_eq_ok_iff.mp hentry
    rw [makeField_eq_ok hf]
  have hdirect : Assoc.keys (o.fields.map fun entry => (entry.1, directField entry)) =
      Assoc.keys o.fields := by
    simp [Assoc.keys, Function.comp_def]
  change (Assoc.ofList ((o.fields.map fun entry => (entry.1, directField entry)) ++
    o.nested.map fun spec => (spec.name, madeField spec))).map (·.2) = _
  rw [Assoc.ofList_append (hdirect ▸ hkeys), List.map_append]
  · simp only [latest, List.map_map]
    rfl
  · rw [hdirect]
    intro key hkey
    obtain ⟨entry, hentry, rfl⟩ := List.mem_map.mp hkey
    obtain ⟨spec, hspec, rfl⟩ := List.mem_map.mp hentry
    exact hnested spec hspec

theorem makeType_eq_ok {o : ObjectDef} {t : TypeDef} (hkeys : (Assoc.keys o.fields).Nodup)
    (hnested : ∀ spec ∈ o.nested, spec.name ∉ Assoc.keys o.fields) (h : makeType o = .ok t) :
    t = madeType o := by
  unfold makeType at h
  obtain ⟨fields, hfields, h⟩ := bind_eq_ok_iff.mp h
  obtain ⟨-, -, h⟩ := bind_eq_ok_iff.mp h
  obtain rfl := pure_eq_ok_iff.mp h
  rw [makeFields_eq_ok hkeys hnested (mapError_eq_ok_iff.mp hfields)]
  rfl

/-- No two nested fields of an object, and no two arguments of a field, have one name. -/
structure Unrepeated (o : ObjectDef) : Prop where
  nested : (o.nested.map (·.name)).Nodup
  arguments : ∀ spec ∈ o.nested ++ o.resolvers, (spec.arguments.map (·.name)).Nodup

theorem map_madeField_eq_iff {specs : List FieldSpec} :
    specs.map madeField = specs.map declaredField ↔
      ∀ spec ∈ specs, (spec.arguments.map (·.name)).Nodup := by
  simp only [List.map_inj_left, madeField_eq_declaredField_iff]

theorem madeType_eq_declaredType_iff {o : ObjectDef} :
    madeType o = declaredType o ↔
      (o.nested.map (·.name)).Nodup ∧
        ∀ spec ∈ o.nested, (spec.arguments.map (·.name)).Nodup := by
  have hdeclared : (o.nested.map declaredField).map FieldDef.name = o.nested.map (·.name) := by
    rw [List.map_map]
    rfl
  have hmade : (o.nested.map madeField).map FieldDef.name = o.nested.map (·.name) := by
    rw [List.map_map]
    rfl
  have hfields : madeType o = declaredType o ↔
      latest FieldDef.name (o.nested.map madeField) = o.nested.map declaredField := by
    simp [madeType, declaredType]
  rw [hfields, ← map_madeField_eq_iff]
  constructor
  · intro h
    have hnodup := nodup_latest FieldDef.name (o.nested.map madeField)
    rw [h, hdeclared] at hnodup
    rw [latest_eq_self_iff.mpr (hmade ▸ hnodup)] at h
    exact ⟨hnodup, h⟩
  · rintro ⟨hnodup, h⟩
    rw [latest_eq_self_iff.mpr (hmade ▸ hnodup), h]

/-- Nothing is missing from the types of objects exactly if nothing is declared repeatedly. -/
theorem map_madeType_eq_iff {objects : List ObjectDef} :
    objects.map madeType ++ [madeRoot objects] =
        objects.map declaredType ++ [declaredRoot objects] ↔
      ∀ o ∈ objects, Unrepeated o := by
  have hroot : madeRoot objects = declaredRoot objects ↔
      ∀ o ∈ objects, ∀ spec ∈ o.resolvers, (spec.arguments.map (·.name)).Nodup := by
    rw [← List.forall_mem_flatMap, ← map_madeField_eq_iff]
    simp [madeRoot, declaredRoot]
  have htypes : objects.map madeType = objects.map declaredType ↔
      ∀ o ∈ objects, (o.nested.map (·.name)).Nodup ∧
        ∀ spec ∈ o.nested, (spec.arguments.map (·.name)).Nodup := by
    simp only [List.map_inj_left, madeType_eq_declaredType_iff]
  constructor
  · intro h
    obtain ⟨hobjects, hlast⟩ := List.append_inj' h rfl
    intro o ho
    obtain ⟨hnested, harguments⟩ := htypes.mp hobjects o ho
    refine ⟨hnested, fun spec hspec => ?_⟩
    rcases List.mem_append.mp hspec with hspec | hspec
    · exact harguments spec hspec
    · exact hroot.mp (List.singleton_inj.mp hlast) o ho spec hspec
  · intro h
    rw [htypes.mpr fun o ho => ⟨(h o ho).nested, fun spec hspec =>
        (h o ho).arguments spec (List.mem_append_left _ hspec)⟩,
      hroot.mpr fun o ho spec hspec => (h o ho).arguments spec (List.mem_append_right _ hspec)]

/-! ### What a build checks -/

theorem gatherRoot_eq_ok {done root : List FieldDef} {specs : List FieldSpec}
    (hdone : (done.map FieldDef.name).Nodup) (h : gatherRoot done specs = .ok root) :
    root = done ++ specs.map madeField ∧ (root.map FieldDef.name).Nodup := by
  induction specs generalizing done with
  | nil =>
    obtain rfl : done = root := Except.ok.inj h
    exact ⟨by simp, hdone⟩
  | cons spec specs ih =>
    rw [gatherRoot] at h
    split_ifs at h with htaken
    · exact absurd h throw_ne_ok
    obtain ⟨f, hf, h⟩ := bind_eq_ok_iff.mp h
    obtain rfl := makeField_eq_ok (mapError_eq_ok_iff.mp hf)
    have hnew : (madeField spec).name ∉ done.map FieldDef.name := by
      simpa [madeField, declaredField] using htaken
    have hnodup : ((done ++ [madeField spec]).map FieldDef.name).Nodup := by
      rw [List.map_append, List.map_singleton]
      exact hdone.append (by simp) (by simpa using hnew)
    simpa using ih hnodup h

theorem gatherUnions_eq_ok {objectNames : List String} {done rest unions : List UnionSpec}
    (hdone : (done.map (·.name)).Nodup) (h : gatherUnions objectNames done rest = .ok unions) :
    unions = done ++ rest ∧ (unions.map (·.name)).Nodup ∧
      ∀ u ∈ rest, u.name ∉ scalarNames ∧ u.name ∉ objectNames := by
  induction rest generalizing done with
  | nil =>
    obtain rfl : done = unions := Except.ok.inj h
    exact ⟨by simp, hdone, by simp⟩
  | cons u rest ih =>
    obtain ⟨hscalar, hobject, hnew, -, -, -, h⟩ := gatherUnions_cons_eq_ok_iff.mp h
    have hnodup : ((done ++ [u]).map (·.name)).Nodup := by
      rw [List.map_append, List.map_singleton]
      exact hdone.append (by simp) (by simpa using hnew)
    obtain ⟨rfl, hall, hrest⟩ := ih hnodup h
    exact ⟨by simp, hall, List.forall_mem_cons.mpr ⟨⟨hscalar, hobject⟩, hrest⟩⟩

/-- Names of objects that do not get into each other's way. -/
structure NamesApart (objects : List ObjectDef) : Prop where
  types : (objects.map (·.typeName)).Nodup
  free : ∀ o ∈ objects, o.typeName ≠ queryType ∧ o.typeName ∉ scalarNames
  fields : ∀ o ∈ objects, ∀ spec ∈ o.nested, spec.name ∉ Assoc.keys o.fields
  root : ((objects.flatMap (·.resolvers)).map (·.name)).Nodup
  unions : ((objects.flatMap (·.unions)).map (·.name)).Nodup
  unions_free : ∀ u ∈ objects.flatMap (·.unions),
    u.name ∉ scalarNames ∧ u.name ∉ objects.map (·.typeName)

section Gathered

variable {objects : List ObjectDef} {unions : List UnionSpec} {types : List TypeDef}
  {root : List FieldDef}

theorem Gathered.namesApart (h : Gathered objects unions types root)
    (hnodup : (objects.map (·.typeName)).Nodup) (hregistrable : ∀ o ∈ objects, Registrable o) :
    NamesApart objects := by
  obtain ⟨rfl, hunions, hfree⟩ := gatherUnions_eq_ok (by simp) h.unions_eq
  obtain ⟨rfl, hroot⟩ := gatherRoot_eq_ok (by simp) h.root_eq
  refine ⟨hnodup, fun o ho => (hregistrable o ho).2, fun o ho => ?_, ?_, hunions, hfree⟩
  · exact (checkReferences_eq_ok_iff.mp (h.references o ho)).1
  · rw [List.nil_append, List.map_map] at hroot
    exact hroot

theorem Gathered.unions_eq_flatMap (h : Gathered objects unions types root) :
    unions = objects.flatMap (·.unions) :=
  (gatherUnions_eq_ok (by simp) h.unions_eq).1

theorem Gathered.root_eq_map (h : Gathered objects unions types root) :
    root = (objects.flatMap (·.resolvers)).map madeField :=
  (gatherRoot_eq_ok (by simp) h.root_eq).1

theorem Gathered.makeType_eq (h : Gathered objects unions types root)
    (hkeys : ∀ o ∈ objects, (Assoc.keys o.fields).Nodup) {o : ObjectDef} (ho : o ∈ objects) :
    makeType o = .ok (madeType o) := by
  obtain ⟨made, hmade⟩ := exists_makeType_of_addObjects h.types_eq o ho
  have hnested := (checkReferences_eq_ok_iff.mp (h.references o ho)).1
  rw [hmade, makeType_eq_ok (hkeys o ho) hnested hmade]

/-- The types of the objects are all there, and with them what their fields mention. -/
theorem Gathered.assembled (h : Gathered objects unions types root) (hapart : NamesApart objects)
    (hkeys : ∀ o ∈ objects, (Assoc.keys o.fields).Nodup) :
    Assembled unions (objects.map madeType) types ∧
      ∀ o ∈ objects, ∀ name ∈ mentioned (madeType o).fields, ∀ t,
        plainType? unions name = some t → t ∈ types := by
  have hnames : (objects.map madeType).map TypeDef.name = objects.map (·.typeName) := by
    rw [List.map_map]
    rfl
  have hplain : ∀ o ∈ objects, plainType? unions (madeType o).name = none := by
    intro o ho
    refine plainType?_eq_none (hapart.free o ho).2 fun hmem => ?_
    obtain ⟨u, hu, heq⟩ := List.mem_map.mp hmem
    rw [h.unions_eq_flatMap] at hu
    refine (hapart.unions_free u hu).2 ?_
    rw [heq]
    exact List.mem_map.mpr ⟨o, ho, rfl⟩
  have hmake : ∀ o ∈ objects, makeType o = .ok (madeType o) := fun o ho => h.makeType_eq hkeys ho
  obtain ⟨all, hall, -, hassembled, hmentioned⟩ := addObjects_assembled hmake (fun _ _ => rfl)
    hplain (by simpa [hnames] using hapart.types) (Assembled.nil unions)
  obtain rfl : all = types := Except.ok.inj (hall.symm.trans h.types_eq)
  exact ⟨by simpa using hassembled, hmentioned⟩

theorem Gathered.union_mem_iff (h : Gathered objects unions types root)
    (hapart : NamesApart objects) (hkeys : ∀ o ∈ objects, (Assoc.keys o.fields).Nodup)
    {u : UnionSpec} (hu : u ∈ objects.flatMap (·.unions)) :
    TypeDef.union u.name u.members ∈ withRoot unions types root ↔
      (∃ o ∈ objects, u.name ∈ mentioned (madeType o).fields) ∨ u.name ∈ mentioned root := by
  obtain ⟨hassembled, hmentioned⟩ := h.assembled hapart hkeys
  have hscalar := (hapart.unions_free u hu).1
  have hplain : plainType? unions u.name = some (.union u.name u.members) := by
    rw [h.unions_eq_flatMap]
    exact plainType?_of_mem hapart.unions hu hscalar
  constructor
  · intro hmem
    have htypes : TypeDef.union u.name u.members ∈ types →
        ∃ o ∈ objects, u.name ∈ mentioned (madeType o).fields := by
      intro ht
      obtain ht | ⟨o, ho, made, hmade, hname⟩ := mem_addObjects h.types_eq ht rfl
      · simp at ht
      · rw [h.makeType_eq hkeys ho] at hmade
        obtain rfl := Except.ok.inj hmade
        exact ⟨o, ho, hname⟩
    obtain ⟨extra, hextra, -, hroot⟩ := exists_withRoot unions types root
    rw [hroot] at hmem
    rcases mem_addMentioned hmem with ht | ⟨hname, -⟩
    · have hothers : TypeDef.union u.name u.members ∈
          addMentioned unions types (mentioned root) := by
        rw [hextra]
        simpa using ht
      rcases mem_addMentioned hothers with ht | ⟨hname, -⟩
      · exact Or.inl (htypes ht)
      · exact Or.inr hname
    · have hscalars : [Scalar.boolean.name, Scalar.string.name] ⊆ scalarNames := by decide
      exact absurd (hscalars hname) hscalar
  · rintro (⟨o, ho, hname⟩ | hname)
    · exact addMentioned_subset_withRoot
        (subset_addMentioned (hmentioned o ho _ hname _ hplain))
    · refine addMentioned_subset_withRoot ?_
      exact (hassembled.addMentioned (mentioned root)).mem_of_name
        (name_mem_addMentioned hname hplain) hplain

end Gathered

/-- What a schema keeps of the objects that it is built from. A clash of names makes the build
fail, except a clash between nested fields of one object or between arguments of one field. What is
built has a type for every object and the root, and these have every declared field and argument
exactly if all objects are `Unrepeated`. A union is there as soon as a field mentions it. -/
theorem build_declarations {given : List ObjectDef}
    (hkeys : ∀ o ∈ given, (Assoc.keys o.fields).Nodup) :
    (¬NamesApart given → ∃ fault, (registerAll [] given >>= build) = .error fault) ∧
      ∀ s, (registerAll [] given >>= build) = .ok s →
        (s.types.map TypeDef.name).Nodup ∧
        s.types.filter TypeDef.isObject = given.map madeType ++ [madeRoot given] ∧
        (s.types.filter TypeDef.isObject = given.map declaredType ++ [declaredRoot given] ↔
          ∀ o ∈ given, Unrepeated o) ∧
        ∀ u ∈ given.flatMap (·.unions), TypeDef.union u.name u.members ∈ s.types ↔
          ∃ t ∈ s.types, u.name ∈ mentioned t.fields := by
  have hbuilt {s : Schema} (h : (registerAll [] given >>= build) = .ok s) :
      NamesApart given ∧ ∃ unions types root, Gathered given unions types root ∧
        s = ⟨withRoot unions types root⟩ := by
    obtain ⟨objects, hregistered, hbuild⟩ := bind_eq_ok_iff.mp h
    obtain ⟨hregistrable, hnodup, rfl⟩ := (registerAll_eq_ok_iff (by simp)).mp hregistered
    rw [List.nil_append] at hnodup
    obtain ⟨unions, types, root, hgathered, rfl⟩ := build_eq_ok_iff.mp hbuild
    exact ⟨hgathered.namesApart hnodup hregistrable, unions, types, root, hgathered, rfl⟩
  constructor
  · intro hclash
    cases hresult : (registerAll [] given >>= build) with
    | error fault => exact ⟨fault, rfl⟩
    | ok s => exact absurd (hbuilt hresult).1 hclash
  · intro s h
    obtain ⟨hapart, unions, types, root, hgathered, rfl⟩ := hbuilt h
    obtain ⟨hassembled, -⟩ := hgathered.assembled hapart hkeys
    have hobjects : (withRoot unions types root).filter TypeDef.isObject =
        given.map madeType ++ [madeRoot given] := by
      rw [filter_isObject_withRoot, hassembled.filter_isObject, hgathered.root_eq_map, madeRoot]
    refine ⟨nodup_withRoot hassembled.nodup hgathered.query, hobjects, ?_, fun u hu => ?_⟩
    · rw [hobjects]
      exact map_madeType_eq_iff
    · rw [hgathered.union_mem_iff hapart hkeys hu, mem_mentioned_iff, hobjects,
        hgathered.root_eq_map]
      simp [madeRoot, TypeDef.fields]

/-- An object with two nested fields of one name. -/
def repeatingObject : ObjectDef where
  form := .custom
  name := "t"
  typeName := "T"
  fields := [("a", .scalar .felt)]
  nested :=
    [{ name := "b", type := .scalar .felt, many := false, nonNull := false, description := ""
       arguments := [], resolver := .unset },
     { name := "b", type := .scalar .string, many := false, nonNull := false, description := ""
       arguments := [], resolver := .unset }]
  unions := []
  resolvers :=
    [{ name := "t", type := .object "T", many := false, nonNull := false, description := ""
       arguments := [], resolver := .unset }]

theorem build_repeatingObject :
    ∃ s, (registerAll [] [repeatingObject] >>= build) = .ok s ∧
      (s.type? "T").map (fun t => t.fields.map fun f => (f.name, f.type)) =
        some [("a", .named "Felt"), ("b", .named "String")] ∧
      s.types.filter TypeDef.isObject ≠
        [repeatingObject].map declaredType ++ [declaredRoot [repeatingObject]] := by
  have hkeys : ∀ o ∈ [repeatingObject], (Assoc.keys o.fields).Nodup := by decide
  refine ⟨_, rfl, rfl, fun h => ?_⟩
  have hunrepeated := ((build_declarations hkeys).2 _ rfl).2.2.1.mp h
  exact absurd (hunrepeated repeatingObject (by simp)).nested (by decide)

end WorldQuery.Schema
