import WorldQuery.Proofs.Discovery.Growth
import WorldQuery.Proofs.Schema.Lookup

/-!
# Rows inserted into any table

Insertions only ever add to what is discovered. `Component.Grows` relates a store to what it may
become by them; the types of a schema are among those of a schema of the grown store.
-/

namespace WorldQuery

open Success

namespace Component

/-- What is read of the components of `s` is read of those of `s'` too. -/
def Grows (s s' : Store) : Prop :=
  ∀ names rows', rowsInOrder s' names = .ok rows' →
    ∃ rows, rowsInOrder s names = .ok rows ∧ rows ⊆ rows'

theorem Grows.refl (s : Store) : Grows s s := fun _ rows' h => ⟨rows', h, List.Subset.refl _⟩

theorem Grows.trans {s s' s'' : Store} (h : Grows s s') (h' : Grows s' s'') : Grows s s'' := by
  intro names rows'' hrows''
  obtain ⟨rows', hrows', hsub'⟩ := h' names rows'' hrows''
  obtain ⟨rows, hrows, hsub⟩ := h names rows' hrows'
  exact ⟨rows, hrows, List.Subset.trans hsub hsub'⟩

/-- An insertion leaves the table of components as it is, or puts rows at its end. -/
theorem grows_insert (s : Store) (name : String) (rows : List (List Datum)) :
    Grows s (s.insert name rows) := by
  intro names rows' hrows'
  obtain ⟨t', -, -, -, ht', -⟩ := exists_rowsInOrder_iff.mp ⟨rows', hrows'⟩
  obtain ⟨hreachable, hfound'⟩ := Store.table_eq_ok_iff.mp ht'
  rw [table?_insert, Option.map_eq_some_iff] at hfound'
  obtain ⟨t, hfound, heq⟩ := hfound'
  have ht : s.table tableName = .ok t := Store.table_eq_ok_iff.mpr ⟨hreachable, hfound⟩
  split_ifs at heq
  · have hinserted : (s.insert name rows).table tableName =
        .ok { t with rows := (t.insert rows).rows } := by
      rw [ht', ← heq]
      rfl
    exact exists_rowsInOrder_of_subset ht (List.subset_append_left _ _) hinserted hrows'
  · rw [← heq] at ht'
    exact exists_rowsInOrder_of_subset ht (List.Subset.refl _) ht' hrows'

end Component

namespace Discovery

variable {s s' : Store} {tablePrefix : String}

theorem declaredNames_subset (h : Component.Grows s s') {found found' : List ObjectDef}
    (hfound : ofStore s tablePrefix = .ok found) (hfound' : ofStore s' tablePrefix = .ok found') :
    found.filterMap ObjectDef.declaredName? ⊆ found'.filterMap ObjectDef.declaredName? := by
  obtain ⟨entries', hentries', -, rfl⟩ := ofStore_eq_ok_iff.mp hfound'
  obtain ⟨rows', hrows', rfl⟩ := Component.definitions_eq_ok_iff.mp hentries'
  obtain ⟨rows, hrows, hsub⟩ := h _ _ hrows'
  obtain ⟨-, rfl⟩ := (ofStore_eq_ok_iff_rows hrows).mp hfound
  rw [filterMap_declaredName?_objects, filterMap_declaredName?_objects]
  exact keys_kept_subset (List.map_subset _ hsub)

end Discovery

namespace Schema

variable {s s' : Store} {tablePrefix : String} {schema schema' : Schema}

theorem storageTypes_of_ofStore (h : Schema.ofStore s tablePrefix = .ok schema) :
    ∃ storage, Discovery.ofStore s tablePrefix = .ok storage ∧ schema.storageTypes =
      (storage.filterMap ObjectDef.declaredName?).map Name.typeName := by
  obtain ⟨storage, found, hstorage, hnames, hshaped⟩ := ofStore_shaped h
  exact ⟨storage, hstorage, by rw [storageTypes_eq hshaped, hnames]⟩

/-- What was discovered before is among the types of a schema of the grown store. -/
theorem typeName_mem_storageTypes (h : Component.Grows s s') {found : List ObjectDef}
    (hfound : Discovery.ofStore s tablePrefix = .ok found)
    (h' : Schema.ofStore s' tablePrefix = .ok schema') {name : String}
    (hname : name ∈ found.filterMap ObjectDef.declaredName?) :
    Name.typeName name ∈ schema'.storageTypes := by
  obtain ⟨storage', hstorage', htypes⟩ := storageTypes_of_ofStore h'
  rw [htypes]
  exact List.mem_map_of_mem (Discovery.declaredNames_subset h hfound hstorage' hname)

theorem storageTypes_subset (h : Component.Grows s s')
    (hs : Schema.ofStore s tablePrefix = .ok schema)
    (hs' : Schema.ofStore s' tablePrefix = .ok schema') :
    schema.storageTypes ⊆ schema'.storageTypes := by
  obtain ⟨storage, hstorage, htypes⟩ := storageTypes_of_ofStore hs
  rw [htypes]
  intro type htype
  obtain ⟨name, hname, rfl⟩ := List.mem_map.mp htype
  exact typeName_mem_storageTypes h hstorage hs' hname

end Schema

end WorldQuery
