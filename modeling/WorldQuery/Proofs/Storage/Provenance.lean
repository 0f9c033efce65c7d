import WorldQuery.Proofs.Component.Rows
import WorldQuery.Proofs.Name.SnakeCase
import WorldQuery.Proofs.Statement.Naming
import WorldQuery.Storage

/-!
# Where storage records come from

A storage record that was fetched is a row of the table that the statement names, and the row
belongs to a component of the table of components. `Storage.Owned` says so of a record and a type.
-/

namespace WorldQuery

open Name Success

theorem Statement.fetch_eq_ok_iff {s : Store} {columns : List String} {table column id : String}
    {found : Option Row} :
    Statement.fetch s columns table column id = .ok found ↔
      ∃ p t, s.reachable = true ∧ Prepared.of columns table column = .ok p ∧
        s.table p.table = .ok t ∧ columns.length ≤ columnLimit ∧ p.supplied = bindings ∧
        found = t.firstWhere columns p.column id := by
  unfold Statement.fetch
  cases hreachable : s.reachable with
  | false => simp [bind, Except.bind]
  | true =>
    simp only [if_true, bind_eq_ok_iff, true_and]
    refine exists_congr fun p => ?_
    by_cases hlimit : columnLimit < columns.length
    · simp [hlimit, throw_ne_ok]
    · by_cases hsupplied : p.supplied = bindings
      · simp only [hlimit, hsupplied, if_true, if_false, pure_eq_ok_iff, Nat.not_lt.mp hlimit,
          true_and, exists_and_left]
        exact and_congr_right fun _ => exists_congr fun t => and_congr_right fun _ => eq_comm
      · simp [hlimit, hsupplied, throw_ne_ok]

/-- What a fetch found: the row belongs to the id, in the table that the statement names. -/
theorem Statement.fetch_eq_some {s : Store} {columns : List String} {table column id : String}
    {row : Row} (h : Statement.fetch s columns table column id = .ok (some row)) :
    ∃ t stored, s.table (spelled table) = .ok t ∧ stored ∈ t.rows ∧
      t.holds stored (spelled column) (.text id) = true ∧
        row = columns.map (t.quotedCell stored) := by
  obtain ⟨p, t, -, hprepared, ht, -, hsupplied, hfound⟩ := fetch_eq_ok_iff.mp h
  obtain ⟨htable, hcolumn⟩ := Prepared.of_eq_ok hprepared hsupplied
  obtain ⟨stored, hfind, rfl⟩ := Option.map_eq_some_iff.mp hfound.symm
  rw [htable] at ht
  rw [hcolumn] at hfind
  have hholds : t.holds stored (spelled column) (.text id) = true := by
    simpa using List.find?_some hfind
  exact ⟨t, stored, ht, List.mem_of_find?_eq_some hfind, hholds, rfl⟩

namespace Storage

variable {s : Store} {tablePrefix : String} {known : List String} {r : Record}

theorem spelled_ownerColumn : Statement.spelled ownerColumn = ownerColumn := by decide +kernel

/-- The fault of a field that a fetched row does not have. -/
def absentColumn (field : String) : Fault := .store (.columnNotInRow field)

/-- A record of a type was decoded from a row of a table, and the row belongs to a component whose
name has that type. Quotes around the id of the component may have been dropped. -/
def Owned (s : Store) (table type : String) (r : Record) : Prop :=
  ∃ id name owner t row layout,
    Component.Listed s id name ∧ typeName name = type ∧ (owner = id ∨ owner = unquote id) ∧
      s.table table = .ok t ∧ row ∈ t.rows ∧
      t.holds row ownerColumn (.text owner) = true ∧
      decodeRow absentColumn ((Assoc.keys layout).map (t.quotedCell row)) layout (some type) = .ok r

theorem decodeRow_tag {absent : String → Fault} {row : Row} {layout : Layout} {tag : Option String}
    (h : decodeRow absent row layout tag = .ok r) : r.tag = tag := by
  obtain ⟨fields, -, h⟩ := bind_eq_ok_iff.mp h
  obtain rfl := pure_eq_ok_iff.mp h
  rfl

theorem byColumn_eq_some {column id name : String} {layout : Layout}
    (h : byColumn s tablePrefix column id name layout = .ok (some r)) :
    ∃ t row, s.table (Statement.spelled (tableName tablePrefix name)) = .ok t ∧ row ∈ t.rows ∧
      t.holds row (Statement.spelled column) (.text (unquote id)) = true ∧
      decodeRow absentColumn ((Assoc.keys layout).map (t.quotedCell row)) layout
        (some (typeName name)) = .ok r := by
  obtain ⟨found, hfound, h⟩ := bind_eq_ok_iff.mp h
  cases found with
  | none => simpa using pure_eq_ok_iff.mp h
  | some row =>
    obtain ⟨r', hr, h⟩ := bind_eq_ok_iff.mp h
    obtain rfl := Option.some.inj (pure_eq_ok_iff.mp h)
    obtain ⟨t, stored, ht, hstored, hholds, rfl⟩ :=
      Statement.fetch_eq_some (mapError_eq_ok_iff.mp hfound)
    exact ⟨t, stored, ht, hstored, hholds, hr⟩

theorem byColumn_tag {column id name : String} {layout : Layout}
    (h : byColumn s tablePrefix column id name layout = .ok (some r)) :
    r.tag = some (typeName name) := by
  obtain ⟨t, row, -, -, -, hr⟩ := byColumn_eq_some h
  exact decodeRow_tag hr

theorem tableName_typeName {name : String} (h : IsSchemaName (typeName name)) :
    tableName tablePrefix (typeName name) = tableName tablePrefix name := by
  rw [tableName, tableName, typeName_typeName h]

theorem spelled_tableName {name : String} (h : IsSchemaName (typeName name)) :
    Statement.spelled (tableName tablePrefix name) =
      tableName (Statement.spelled tablePrefix) name := by
  have hmarks : ∀ c ∈ snakeChars (typeName name).toList, Statement.isMarkChar c = true := by
    intro c hc
    exact of_isNamePart (by decide +kernel) (isNamePart_of_mem_snakeChars h hc)
  rw [← String.toList_inj]
  simp only [Statement.spelled, tableName, snakeCase, String.toList_append, String.toList_ofList]
  exact Statement.unescaped_append_marks hmarks tablePrefix.toList

/-- The table that is read is the one of the prefix exactly if the prefix keeps its backslashes. -/
theorem sameName_tableName_iff {name : String} (h : IsSchemaName (typeName name)) :
    Store.sameName (tableName (Statement.spelled tablePrefix) name) (tableName tablePrefix name) =
        true ↔ Statement.spelled tablePrefix = tablePrefix := by
  rw [← spelled_tableName h, Statement.sameName_spelled_iff, spelled_tableName h, tableName,
    tableName, ← String.toList_inj, String.toList_append, String.toList_append,
    List.append_left_inj, String.toList_inj]

theorem byColumn_owned {id componentId name : String} {layout : Layout}
    (hlisted : Component.Listed s componentId name)
    (hid : unquote id = componentId ∨ unquote id = unquote componentId)
    (hname : IsSchemaName (typeName name))
    (h : byColumn s tablePrefix ownerColumn id name layout = .ok (some r)) :
    Owned s (tableName (Statement.spelled tablePrefix) (typeName name)) (typeName name) r := by
  obtain ⟨t, row, ht, hrow, hholds, hr⟩ := byColumn_eq_some h
  rw [spelled_ownerColumn] at hholds
  rw [spelled_tableName hname, ← tableName_typeName hname] at ht
  exact ⟨componentId, name, unquote id, t, row, layout, hlisted, rfl, hid, ht, hrow, hholds, hr⟩

theorem ofComponent_eq_some {id : String} (h : ofComponent s tablePrefix known id = .ok (some r)) :
    ∃ name layout, Component.Listed s (unquote id) name ∧
      byColumn s tablePrefix ownerColumn id name layout = .ok (some r) := by
  obtain ⟨found, hfound, h⟩ := bind_eq_ok_iff.mp h
  cases found with
  | none => simpa using pure_eq_ok_iff.mp h
  | some row =>
    obtain ⟨layout, -, hnamed⟩ := bind_eq_ok_iff.mp h
    obtain ⟨name, hname, hrecord⟩ := bind_eq_ok_iff.mp hnamed
    obtain ⟨t, stored, selected, key, ht, hselected, hkey, hstored, hid, rfl⟩ :=
      Component.rowById_eq_some (mapError_eq_ok_iff.mp hfound)
    refine ⟨name, layout, ?_, hrecord⟩
    obtain ⟨nameAt, definitionAt, hnameAt, -, rfl⟩ :=
      Component.positions_layoutColumns_eq_ok_iff.mp hselected
    have hcell : Table.cell stored nameAt = .text name := by
      have hdatum : Component.nameText (Table.cell stored nameAt) = .ok name := hname
      cases hd : Table.cell stored nameAt <;> simp [hd, Component.nameText] at hdatum
      rw [hdatum]
    refine ⟨t, stored, key, nameAt, ht, hstored, hkey, hnameAt, ?_, ?_⟩
    · rw [hid]
      rfl
    · rw [hcell]
      rfl

end Storage

end WorldQuery
