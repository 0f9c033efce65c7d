import WorldQuery.Proofs.Schema.Assembly

/-!
# Collecting types

The list of types grows by objects and by the scalars and unions that they mention. `Assembled` is
what stays true of it: the objects stand in order of their registration, everything else is the
scalar or union of its name, and no name occurs twice.
-/

namespace WorldQuery.Schema

open Success

variable {unions : List UnionSpec} {objects types : List TypeDef} {names : List String}

theorem plainType?_eq_some {name : String} {t : TypeDef} (h : plainType? unions name = some t) :
    t.name = name ∧ t.isObject = false := by
  unfold plainType? at h
  cases hkind : Scalar.ofName? name with
  | some kind =>
    rw [hkind] at h
    obtain rfl := Option.some.inj h
    exact ⟨rfl, rfl⟩
  | none =>
    rw [hkind] at h
    obtain ⟨u, hu, rfl⟩ := Option.map_eq_some_iff.mp h
    have hname : u.name = name := by simpa using List.find?_some hu
    exact ⟨hname, rfl⟩

theorem ofName?_eq_none {name : String} (h : name ∉ scalarNames) : Scalar.ofName? name = none :=
  List.find?_eq_none.mpr fun kind hkind heq =>
    h (List.mem_map.mpr ⟨kind, hkind, by simpa using heq⟩)

theorem plainType?_eq_none {name : String} (hscalar : name ∉ scalarNames)
    (hunion : name ∉ unions.map (·.name)) : plainType? unions name = none := by
  have hkind := ofName?_eq_none hscalar
  have hfind : unions.find? (·.name == name) = none := by
    refine List.find?_eq_none.mpr fun u hu heq => hunion ?_
    exact List.mem_map.mpr ⟨u, hu, by simpa using heq⟩
  simp [plainType?, hkind, hfind]

theorem plainType?_of_mem {u : UnionSpec} (hnodup : (unions.map (·.name)).Nodup) (hu : u ∈ unions)
    (hscalar : u.name ∉ scalarNames) :
    plainType? unions u.name = some (.union u.name u.members) := by
  have hkind := ofName?_eq_none hscalar
  cases hfind : unions.find? (·.name == u.name) with
  | none => exact absurd (List.find?_eq_none.mp hfind u hu) (by simp)
  | some v =>
    have hname : v.name = u.name := by simpa using List.find?_some hfind
    obtain rfl := List.inj_on_of_nodup_map hnodup (List.mem_of_find?_eq_some hfind) hu hname
    simp [plainType?, hkind, hfind]

theorem addMentioned_cons (unions : List UnionSpec) (types : List TypeDef) (name : String)
    (names : List String) :
    addMentioned unions types (name :: names) =
      addMentioned unions (addMentioned unions types [name]) names := rfl

theorem addMentioned_singleton_of_none {name : String} (h : plainType? unions name = none) :
    addMentioned unions types [name] = types := by
  simp [addMentioned, h]

theorem addMentioned_singleton_of_some {name : String} {t : TypeDef}
    (h : plainType? unions name = some t) :
    addMentioned unions types [name] =
      if name ∈ types.map TypeDef.name then types else types ++ [t] := by
  have hany : (types.any (·.name == name)) = true ↔ name ∈ types.map TypeDef.name := by
    simp only [List.any_eq_true, List.mem_map, beq_iff_eq]
  simp only [addMentioned, List.foldl_cons, List.foldl_nil, h]
  by_cases hmem : name ∈ types.map TypeDef.name
  · rw [if_pos (hany.mpr hmem), if_pos hmem]
  · rw [if_neg (mt hany.mp hmem), if_neg hmem]

/-- What is added stands behind, and no object is among it. -/
theorem exists_addMentioned (unions : List UnionSpec) (types : List TypeDef)
    (names : List String) :
    ∃ extra, addMentioned unions types names = types ++ extra ∧
      ∀ t ∈ extra, t.isObject = false := by
  induction names generalizing types with
  | nil => exact ⟨[], by simp [addMentioned], by simp⟩
  | cons name names ih =>
    rw [addMentioned_cons]
    cases hplain : plainType? unions name with
    | none =>
      rw [addMentioned_singleton_of_none hplain]
      exact ih types
    | some t =>
      rw [addMentioned_singleton_of_some hplain]
      split_ifs
      · exact ih types
      · obtain ⟨extra, heq, hextra⟩ := ih (types ++ [t])
        refine ⟨t :: extra, by simp [heq], fun u hu => ?_⟩
        rcases List.mem_cons.mp hu with rfl | hu
        · exact (plainType?_eq_some hplain).2
        · exact hextra u hu

theorem subset_addMentioned : types ⊆ addMentioned unions types names := by
  obtain ⟨extra, heq, -⟩ := exists_addMentioned unions types names
  rw [heq]
  exact List.subset_append_left _ _

theorem filter_isObject_addMentioned (unions : List UnionSpec) (types : List TypeDef)
    (names : List String) :
    (addMentioned unions types names).filter TypeDef.isObject =
      types.filter TypeDef.isObject := by
  obtain ⟨extra, heq, hextra⟩ := exists_addMentioned unions types names
  have hnone : extra.filter TypeDef.isObject = [] :=
    List.filter_eq_nil_iff.mpr fun t ht => by simp [hextra t ht]
  rw [heq, List.filter_append, hnone, List.append_nil]

theorem mem_addMentioned {t : TypeDef} (h : t ∈ addMentioned unions types names) :
    t ∈ types ∨ t.name ∈ names ∧ plainType? unions t.name = some t := by
  induction names generalizing types with
  | nil => exact Or.inl h
  | cons name names ih =>
    rw [addMentioned_cons] at h
    rcases ih h with ht | ⟨hmem, ht⟩
    · cases hplain : plainType? unions name with
      | none =>
        rw [addMentioned_singleton_of_none hplain] at ht
        exact Or.inl ht
      | some u =>
        rw [addMentioned_singleton_of_some hplain] at ht
        split_ifs at ht
        · exact Or.inl ht
        · rcases List.mem_append.mp ht with ht | ht
          · exact Or.inl ht
          · obtain rfl := List.mem_singleton.mp ht
            rw [(plainType?_eq_some hplain).1]
            exact Or.inr ⟨List.mem_cons_self, hplain⟩
    · exact Or.inr ⟨List.mem_cons_of_mem _ hmem, ht⟩

theorem nodup_addMentioned (h : (types.map TypeDef.name).Nodup) (names : List String) :
    ((addMentioned unions types names).map TypeDef.name).Nodup := by
  induction names generalizing types with
  | nil => exact h
  | cons name names ih =>
    rw [addMentioned_cons]
    refine ih ?_
    cases hplain : plainType? unions name with
    | none => rwa [addMentioned_singleton_of_none hplain]
    | some t =>
      rw [addMentioned_singleton_of_some hplain]
      split_ifs with hmem
      · exact h
      · rw [List.map_append, List.map_singleton, (plainType?_eq_some hplain).1]
        exact h.append (by simp) (by simpa using hmem)

theorem name_mem_addMentioned {name : String} {t : TypeDef} (hname : name ∈ names)
    (hplain : plainType? unions name = some t) :
    name ∈ (addMentioned unions types names).map TypeDef.name := by
  induction names generalizing types with
  | nil => simp at hname
  | cons first names ih =>
    rw [addMentioned_cons]
    rcases List.mem_cons.mp hname with rfl | hname
    · refine List.map_subset _ subset_addMentioned ?_
      rw [addMentioned_singleton_of_some hplain]
      split_ifs with hmem
      · exact hmem
      · simp [(plainType?_eq_some hplain).1]
    · exact ih hname

/-- What stays true of the types while a schema is assembled from objects. -/
structure Assembled (unions : List UnionSpec) (objects types : List TypeDef) : Prop where
  filter_isObject : types.filter TypeDef.isObject = objects
  plain : ∀ t ∈ types, t.isObject = false → plainType? unions t.name = some t
  apart : ∀ t ∈ objects, plainType? unions t.name = none
  nodup : (types.map TypeDef.name).Nodup

theorem Assembled.nil (unions : List UnionSpec) : Assembled unions [] [] :=
  ⟨rfl, by simp, by simp, by simp⟩

theorem Assembled.addMentioned (h : Assembled unions objects types) (names : List String) :
    Assembled unions objects (addMentioned unions types names) where
  filter_isObject := by rw [filter_isObject_addMentioned, h.filter_isObject]
  plain t ht hobject := (mem_addMentioned ht).elim (fun ht => h.plain t ht hobject) And.right
  apart := h.apart
  nodup := nodup_addMentioned h.nodup names

theorem Assembled.mem_objects (h : Assembled unions objects types) {t : TypeDef} :
    t ∈ objects ↔ t ∈ types ∧ t.isObject = true := by
  rw [← h.filter_isObject, List.mem_filter]

theorem Assembled.not_mem_names (h : Assembled unions objects types) {name : String}
    (hobjects : name ∉ objects.map TypeDef.name) (hplain : plainType? unions name = none) :
    name ∉ types.map TypeDef.name := by
  intro hmem
  obtain ⟨t, ht, rfl⟩ := List.mem_map.mp hmem
  cases hobject : t.isObject with
  | true => exact hobjects (List.mem_map_of_mem (h.mem_objects.mpr ⟨ht, hobject⟩))
  | false => simp [h.plain t ht hobject] at hplain

theorem Assembled.insertObject {extra : List TypeDef}
    (h : Assembled unions objects (types ++ extra)) (hextra : ∀ t ∈ extra, t.isObject = false)
    {o : TypeDef} (ho : o.isObject = true)
    (hnew : o.name ∉ objects.map TypeDef.name) (hplain : plainType? unions o.name = none) :
    Assembled unions (objects ++ [o]) (types ++ o :: extra) := by
  have hperm : (types ++ o :: extra).Perm (o :: (types ++ extra)) := List.perm_middle
  have hnone : extra.filter TypeDef.isObject = [] := by
    rw [List.filter_eq_nil_iff]
    exact fun t ht => by simp [hextra t ht]
  have hobjects := h.filter_isObject
  rw [List.filter_append, hnone, List.append_nil] at hobjects
  refine ⟨?_, ?_, ?_, ?_⟩
  · rw [List.filter_append, List.filter_cons_of_pos ho, hnone, hobjects]
  · intro t ht ht'
    rcases List.mem_cons.mp (hperm.mem_iff.mp ht) with rfl | ht
    · simp [ho] at ht'
    · exact h.plain t ht ht'
  · intro t ht
    rcases List.mem_append.mp ht with ht | ht
    · exact h.apart t ht
    · obtain rfl := List.mem_singleton.mp ht
      exact hplain
  · rw [(hperm.map TypeDef.name).nodup_iff, List.map_cons, List.nodup_cons]
    exact ⟨h.not_mem_names hnew hplain, h.nodup⟩

theorem Assembled.addObject (h : Assembled unions objects types) {o : TypeDef}
    (ho : o.isObject = true) (hnew : o.name ∉ objects.map TypeDef.name)
    (hplain : plainType? unions o.name = none) :
    Assembled unions (objects ++ [o]) (types ++ [o]) :=
  Assembled.insertObject (by simpa using h) (by simp) ho hnew hplain

theorem Assembled.mem_of_name (h : Assembled unions objects types) {name : String} {t : TypeDef}
    (hmem : name ∈ types.map TypeDef.name) (hplain : plainType? unions name = some t) :
    t ∈ types := by
  obtain ⟨u, hu, rfl⟩ := List.mem_map.mp hmem
  cases hobject : u.isObject with
  | true => simp [h.apart u (h.mem_objects.mpr ⟨hu, hobject⟩)] at hplain
  | false =>
    rw [h.plain u hu hobject] at hplain
    exact Option.some.inj hplain ▸ hu

theorem isObject_of_makeType {o : ObjectDef} {t : TypeDef} (h : makeType o = .ok t) :
    t.isObject = true := by
  unfold makeType at h
  obtain ⟨fields, -, h⟩ := bind_eq_ok_iff.mp h
  obtain ⟨-, -, h⟩ := bind_eq_ok_iff.mp h
  obtain rfl := pure_eq_ok_iff.mp h
  rfl

theorem exists_makeType_of_addObjects {defs : List ObjectDef} {all : List TypeDef}
    (h : addObjects unions types defs = .ok all) : ∀ o ∈ defs, ∃ made, makeType o = .ok made := by
  induction defs generalizing types with
  | nil => simp
  | cons o defs ih =>
    rw [addObjects] at h
    obtain ⟨made, hmade, h⟩ := bind_eq_ok_iff.mp h
    exact List.forall_mem_cons.mpr ⟨⟨made, hmade⟩, ih h⟩

/-- Objects of which each makes a type are all added; so is what their fields mention. -/
theorem addObjects_assembled {defs : List ObjectDef} {make : ObjectDef → TypeDef}
    (hmake : ∀ o ∈ defs, makeType o = .ok (make o))
    (hobject : ∀ o ∈ defs, (make o).isObject = true)
    (hplain : ∀ o ∈ defs, plainType? unions (make o).name = none)
    (hnodup : ((objects ++ defs.map make).map TypeDef.name).Nodup)
    (h : Assembled unions objects types) :
    ∃ all, addObjects unions types defs = .ok all ∧ types ⊆ all ∧
      Assembled unions (objects ++ defs.map make) all ∧
      ∀ o ∈ defs, ∀ name ∈ mentioned (make o).fields, ∀ t,
        plainType? unions name = some t → t ∈ all := by
  induction defs generalizing objects types with
  | nil => exact ⟨types, rfl, List.Subset.refl _, by simpa using h, by simp⟩
  | cons o defs ih =>
    have hnew : (make o).name ∉ objects.map TypeDef.name := by
      rw [List.map_append, List.nodup_append] at hnodup
      exact fun hmem => hnodup.2.2 _ hmem _ (by simp) rfl
    have hstep := (h.addObject (hobject o (by simp)) hnew (hplain o (by simp))).addMentioned
      (mentioned (make o).fields)
    obtain ⟨all, hall, hsub, hassembled, hmentioned⟩ := ih
      (fun p hp => hmake p (List.mem_cons_of_mem o hp))
      (fun p hp => hobject p (List.mem_cons_of_mem o hp))
      (fun p hp => hplain p (List.mem_cons_of_mem o hp)) (by simpa using hnodup) hstep
    refine ⟨all, ?_, ?_, by simpa using hassembled, ?_⟩
    · rw [Schema.addObjects, hmake o (by simp)]
      exact hall
    · exact fun t ht => hsub (subset_addMentioned (List.mem_append_left _ ht))
    · intro p hp name hname t ht
      rcases List.mem_cons.mp hp with rfl | hp
      · exact hsub (hstep.mem_of_name (name_mem_addMentioned hname ht) ht)
      · exact hmentioned p hp name hname t ht

theorem mem_addObjects {defs : List ObjectDef} {all : List TypeDef}
    (h : addObjects unions types defs = .ok all) {t : TypeDef} (ht : t ∈ all)
    (hobject : t.isObject = false) :
    t ∈ types ∨ ∃ o ∈ defs, ∃ made, makeType o = .ok made ∧ t.name ∈ mentioned made.fields := by
  induction defs generalizing types with
  | nil =>
    obtain rfl : types = all := Except.ok.inj h
    exact Or.inl ht
  | cons o defs ih =>
    rw [addObjects] at h
    obtain ⟨made, hmade, h⟩ := bind_eq_ok_iff.mp h
    rcases ih h with ht | ⟨p, hp, made', hmade', hname⟩
    · rcases mem_addMentioned ht with ht | ⟨hname, -⟩
      · rcases List.mem_append.mp ht with ht | ht
        · exact Or.inl ht
        · obtain rfl := List.mem_singleton.mp ht
          exact absurd hobject (by simp [isObject_of_makeType hmade])
      · exact Or.inr ⟨o, List.mem_cons_self, made, hmade, hname⟩
    · exact Or.inr ⟨p, List.mem_cons_of_mem _ hp, made', hmade', hname⟩

/-! ### Adding the root -/

variable {root : List FieldDef}

theorem exists_withRoot (unions : List UnionSpec) (types : List TypeDef) (root : List FieldDef) :
    ∃ extra, addMentioned unions types (mentioned root) = types ++ extra ∧
      (∀ t ∈ extra, t.isObject = false) ∧
      withRoot unions types root =
        addMentioned unions (types ++ .object queryType "" root :: extra)
          [Scalar.boolean.name, Scalar.string.name] := by
  obtain ⟨extra, hextra, hplain⟩ := exists_addMentioned unions types (mentioned root)
  exact ⟨extra, hextra, hplain, by rw [withRoot, hextra, List.drop_left]⟩

theorem nodup_withRoot (h : (types.map TypeDef.name).Nodup)
    (hquery : queryType ∉ (addMentioned unions types (mentioned root)).map TypeDef.name) :
    ((withRoot unions types root).map TypeDef.name).Nodup := by
  have hothers : ((addMentioned unions types (mentioned root)).map TypeDef.name).Nodup :=
    nodup_addMentioned h (mentioned root)
  obtain ⟨extra, hextra, -, hroot⟩ := exists_withRoot unions types root
  rw [hextra] at hquery hothers
  have hperm : (types ++ .object queryType "" root :: extra).Perm
      (.object queryType "" root :: (types ++ extra)) := List.perm_middle
  rw [hroot]
  refine nodup_addMentioned ?_ _
  rw [(hperm.map TypeDef.name).nodup_iff, List.map_cons]
  exact List.nodup_cons.mpr ⟨hquery, hothers⟩

theorem filter_isObject_withRoot (unions : List UnionSpec) (types : List TypeDef)
    (root : List FieldDef) :
    (withRoot unions types root).filter TypeDef.isObject =
      types.filter TypeDef.isObject ++ [.object queryType "" root] := by
  obtain ⟨extra, -, hplain, hroot⟩ := exists_withRoot unions types root
  have hnone : extra.filter TypeDef.isObject = [] :=
    List.filter_eq_nil_iff.mpr fun t ht => by simp [hplain t ht]
  rw [hroot, filter_isObject_addMentioned, List.filter_append, List.filter_cons_of_pos rfl, hnone]

theorem addMentioned_subset_withRoot :
    addMentioned unions types (mentioned root) ⊆ withRoot unions types root := by
  obtain ⟨extra, hextra, -, hroot⟩ := exists_withRoot unions types root
  rw [hextra, hroot]
  refine List.Subset.trans ?_ subset_addMentioned
  exact List.append_subset.mpr ⟨List.subset_append_left _ _,
    List.Subset.trans (List.subset_cons_self _ _) (List.subset_append_right _ _)⟩

theorem mem_mentioned_iff {types : List TypeDef} {name : String} :
    (∃ t ∈ types, name ∈ mentioned t.fields) ↔
      ∃ t ∈ types.filter TypeDef.isObject, name ∈ mentioned t.fields := by
  constructor
  · rintro ⟨t, ht, hname⟩
    refine ⟨t, List.mem_filter.mpr ⟨ht, ?_⟩, hname⟩
    cases t <;> simp_all [TypeDef.fields, mentioned, TypeDef.isObject]
  · rintro ⟨t, ht, hname⟩
    exact ⟨t, (List.mem_filter.mp ht).1, hname⟩

end WorldQuery.Schema
