import WorldQuery.Proofs.Assoc
import WorldQuery.Proofs.Name.TypeName
import WorldQuery.Proofs.Success
import WorldQuery.Schema.Build

/-!
# What a successful assembly has checked

Each step of the assembly succeeds exactly if the names that it looks at are in order.
`registerAll_eq_ok_iff` and `build_eq_ok_iff` list the conditions for a whole schema; every later
fact about schemas starts from them.
-/

namespace WorldQuery.Schema

open Success

theorem checkName_eq_ok_iff {name : String} {u : Unit} :
    checkName name = .ok u ↔ Name.IsSchemaName name := by
  unfold checkName Name.IsSchemaName
  cases name.toList with
  | nil => simp
  | cons c rest =>
    cases hrest : rest.all Layout.isNamePart
    · have hnone : ¬ ∀ d ∈ rest, Layout.isNamePart d = true := by
        simpa [List.all_eq_false] using hrest
      simp [hrest, hnone]
    · have hall : ∀ d ∈ rest, Layout.isNamePart d = true := by simpa using hrest
      cases hc : Layout.isNameStart c
      · simp [hrest, hc]
      · simpa [hrest, hc] using hall

instance decidableIsSchemaName (name : String) : Decidable (Name.IsSchemaName name) :=
  decidable_of_iff (checkName name = .ok ()) checkName_eq_ok_iff

theorem checkReserved_eq_ok_iff {name : String} {u : Unit} :
    checkReserved name = .ok u ↔ name ∉ reservedNames := by
  unfold checkReserved
  by_cases h : name ∈ reservedNames <;> simp [h]

theorem register_eq_ok_iff {objects registered : List ObjectDef} {o : ObjectDef} :
    register objects o = .ok registered ↔
      Name.IsSchemaName o.typeName ∧ o.typeName ∉ objects.map (·.typeName) ∧
        o.typeName ≠ queryType ∧ o.typeName ∉ scalarNames ∧ registered = objects ++ [o] := by
  unfold register
  rw [← checkName_eq_ok_iff (u := ())]
  cases checkName o.typeName with
  | error fault => simp
  | ok u =>
    by_cases hany : o.typeName ∈ objects.map (·.typeName)
    · have hany' : (objects.any (·.typeName == o.typeName)) = true := by
        simpa [List.any_eq_true, List.mem_map] using hany
      simp [hany, hany']
    · have hany' : (objects.any (·.typeName == o.typeName)) = false := by
        simpa [List.any_eq_false, List.mem_map] using hany
      by_cases hquery : o.typeName = queryType
      · simp [hquery]
      · by_cases hscalar : o.typeName ∈ scalarNames
        · simp [hscalar]
        · have hfree : (objects.any (·.typeName == o.typeName) || o.typeName == queryType ||
              scalarNames.contains o.typeName) = false := by
            simp [hany', hquery, hscalar]
          simp only [hfree, Bool.false_eq_true, if_false, Except.ok.injEq, true_and, hany, hquery,
            hscalar, not_false_eq_true, ne_eq]
          exact eq_comm

/-- What an object's type name must be to be registered. -/
def Registrable (o : ObjectDef) : Prop :=
  Name.IsSchemaName o.typeName ∧ o.typeName ≠ queryType ∧ o.typeName ∉ scalarNames

theorem registerAll_eq_ok_iff {done objects registered : List ObjectDef}
    (hdone : (done.map (·.typeName)).Nodup) :
    registerAll done objects = .ok registered ↔
      (∀ o ∈ objects, Registrable o) ∧ ((done ++ objects).map (·.typeName)).Nodup ∧
        registered = done ++ objects := by
  induction objects generalizing done with
  | nil => simp [registerAll, hdone, eq_comm]
  | cons o rest ih =>
    rw [registerAll, bind_eq_ok_iff]
    constructor
    · rintro ⟨next, hnext, hrest⟩
      obtain ⟨hname, hnew, hquery, hscalar, rfl⟩ := register_eq_ok_iff.mp hnext
      have hnodup : ((done ++ [o]).map (·.typeName)).Nodup := by
        rw [List.map_append, List.map_singleton]
        exact hdone.append (by simp) (by simpa using hnew)
      obtain ⟨hall, hnodup', rfl⟩ := (ih hnodup).mp hrest
      refine ⟨?_, by simpa using hnodup', by simp⟩
      intro p hp
      rcases List.mem_cons.mp hp with rfl | hp
      · exact ⟨hname, hquery, hscalar⟩
      · exact hall p hp
    · rintro ⟨hall, hnodup, rfl⟩
      obtain ⟨hname, hquery, hscalar⟩ := hall o (by simp)
      have hnodup' : ((done ++ [o] ++ rest).map (·.typeName)).Nodup := by simpa using hnodup
      have hfirst : ((done ++ [o]).map (·.typeName)).Nodup := by
        rw [List.map_append] at hnodup'
        exact hnodup'.of_append_left
      have hnew : o.typeName ∉ done.map (·.typeName) := by
        rw [List.map_append, List.map_singleton, List.nodup_append] at hfirst
        exact fun hmem => hfirst.2.2 _ hmem _ (by simp) rfl
      exact ⟨done ++ [o], register_eq_ok_iff.mpr ⟨hname, hnew, hquery, hscalar, rfl⟩,
        (ih hfirst).mpr ⟨fun p hp => hall p (by simp [hp]), hnodup', by simp⟩⟩

theorem gatherUnions_cons_eq_ok_iff {objectNames : List String} {done rest unions : List UnionSpec}
    {u : UnionSpec} :
    gatherUnions objectNames done (u :: rest) = .ok unions ↔
      u.name ∉ scalarNames ∧ u.name ∉ objectNames ∧ u.name ∉ done.map (·.name) ∧
        (∀ member ∈ u.members, member ∈ objectNames) ∧ u.name ∉ reservedNames ∧
        Name.IsSchemaName u.name ∧ gatherUnions objectNames (done ++ [u]) rest = .ok unions := by
  rw [gatherUnions]
  have htaken : (scalarNames.contains u.name || objectNames.contains u.name ||
      done.any (·.name == u.name)) = true ↔
        u.name ∈ scalarNames ∨ u.name ∈ objectNames ∨ u.name ∈ done.map (·.name) := by
    rw [Bool.or_eq_true, Bool.or_eq_true, List.contains_iff_mem, List.contains_iff_mem,
      or_assoc]
    simp only [List.any_eq_true, List.mem_map, beq_iff_eq]
  split_ifs with h
  · rw [htaken] at h
    simp only [bind_eq_ok_iff, throw_ne_ok, false_and, exists_false, false_iff]
    tauto
  · rw [htaken] at h
    simp only [bind_eq_ok_iff, forIn_throw_iff, mapError_eq_ok_iff, checkReserved_eq_ok_iff,
      checkName_eq_ok_iff, Bool.not_eq_false', List.contains_iff_mem]
    constructor
    · rintro ⟨-, hmembers, -, hreserved, -, hname, hrest⟩
      exact ⟨by tauto, by tauto, by tauto, hmembers, hreserved, hname, hrest⟩
    · rintro ⟨-, -, -, hmembers, hreserved, hname, hrest⟩
      exact ⟨⟨⟩, hmembers, ⟨⟩, hreserved, ⟨⟩, hname, hrest⟩

theorem checkReferences_eq_ok_iff {known : List String} {o : ObjectDef} {u : Unit} :
    checkReferences known o = .ok u ↔
      (∀ spec ∈ o.nested, spec.name ∉ Assoc.keys o.fields) ∧
        ∀ field ∈ references o, field.2.name ∈ known := by
  unfold checkReferences
  simp only [bind_eq_ok_iff, forIn_throw_iff, pure_eq_ok_iff]
  simp only [Assoc.has_eq_false_iff, Bool.not_eq_false', List.contains_iff_mem]
  constructor
  · rintro ⟨-, hnested, -, hrefs, -⟩
    exact ⟨hnested, hrefs⟩
  · rintro ⟨hnested, hrefs⟩
    exact ⟨⟨⟩, hnested, ⟨⟩, hrefs, trivial⟩

theorem checkFieldNames_eq_ok_iff {fields : List FieldDef} {u : Unit} :
    checkFieldNames fields = .ok u ↔ ∀ f ∈ fields, Name.IsSchemaName f.name := by
  unfold checkFieldNames
  simp only [bind_eq_ok_iff, forIn_check_iff, mapError_eq_ok_iff, checkName_eq_ok_iff,
    pure_eq_ok_iff, and_true, exists_const]

/-! ### The whole assembly -/

/-- The types of a schema: those of the objects, the root before what only the root mentions, and
the scalars that every schema has. -/
def withRoot (unions : List UnionSpec) (types : List TypeDef) (root : List FieldDef) :
    List TypeDef :=
  addMentioned unions
    (types ++ .object queryType "" root ::
      (addMentioned unions types (mentioned root)).drop types.length)
    [Scalar.boolean.name, Scalar.string.name]

/-- What is gathered from objects that pass every check of the assembly. -/
structure Gathered (objects : List ObjectDef) (unions : List UnionSpec) (types : List TypeDef)
    (root : List FieldDef) : Prop where
  not_reserved : ∀ o ∈ objects, o.typeName ∉ reservedNames
  unions_eq :
    gatherUnions (objects.map (·.typeName)) [] (objects.flatMap (·.unions)) = .ok unions
  references : ∀ o ∈ objects,
    checkReferences (scalarNames ++ objects.map (·.typeName) ++ unions.map (·.name)) o = .ok ()
  root_eq : gatherRoot [] (objects.flatMap (·.resolvers)) = .ok root
  root_ne_nil : root ≠ []
  types_eq : addObjects unions [] objects = .ok types
  isSchemaName : ∀ f ∈ root, Name.IsSchemaName f.name
  query : queryType ∉ (addMentioned unions types (mentioned root)).map TypeDef.name
  violations : ∀ t ∈ withRoot unions types root, violationsOf t = []

theorem build_eq_ok_iff {objects : List ObjectDef} {s : Schema} :
    build objects = .ok s ↔
      ∃ unions types root, Gathered objects unions types root ∧
        s = ⟨withRoot unions types root⟩ := by
  have hquery (types : List TypeDef) : (types.any (·.name == queryType)) = true ↔
      queryType ∈ types.map TypeDef.name := by
    simp only [List.any_eq_true, List.mem_map, beq_iff_eq]
  have hreserved : (∀ o ∈ objects, o.typeName ∉ reservedNames) ↔
      ∀ name ∈ objects.map (·.typeName), checkReserved name = .ok () := by
    simp only [checkReserved_eq_ok_iff, List.forall_mem_map]
  unfold build
  simp only [bind_eq_ok_iff, forIn_check_iff, List.isEmpty_iff]
  constructor
  · rintro ⟨-, hnames, unions, hunions, -, hreferences, root, hroot, h⟩
    split_ifs at h with hnil
    · simp only [bind_eq_ok_iff, throw_ne_ok, false_and, exists_false] at h
    simp only [bind_eq_ok_iff] at h
    obtain ⟨types, htypes, u, hfields, h⟩ := h
    split at h
    · simp only [bind_eq_ok_iff, throw_ne_ok, false_and, exists_false] at h
    next htaken =>
    split_ifs at h with hviolations
    obtain rfl := pure_eq_ok_iff.mp h
    exact ⟨unions, types, root,
      ⟨hreserved.mpr hnames, hunions, hreferences, hroot, hnil, htypes,
        checkFieldNames_eq_ok_iff.mp hfields, mt (hquery _).mpr htaken,
        List.flatMap_eq_nil_iff.mp hviolations⟩, rfl⟩
  · rintro ⟨unions, types, root, h, rfl⟩
    refine ⟨⟨⟩, hreserved.mp h.not_reserved, unions, h.unions_eq, ⟨⟩, h.references, root,
      h.root_eq, ?_⟩
    rw [if_neg h.root_ne_nil]
    simp only [bind_eq_ok_iff]
    refine ⟨types, h.types_eq, (), checkFieldNames_eq_ok_iff.mpr h.isSchemaName, ?_⟩
    rw [if_neg (mt (hquery _).mp h.query)]
    exact if_pos (List.flatMap_eq_nil_iff.mpr h.violations)

end WorldQuery.Schema
