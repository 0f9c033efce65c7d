import WorldQuery.Proofs.Component.Addition
import WorldQuery.Proofs.Discovery.Renewal
import WorldQuery.Schema.Build

/-!
# One more component row

Whoever adds a component row adds a definition for one name. `ofStore_of_added` compares the
discoveries before and after. No name is lost, wherever the row is sorted, as the names that were
kept still support themselves. A last row whose definition cannot be read changes nothing at all,
since every round passes over it, unless something that is no text had already made the discovery
fail. `lost_by_added` shows what a row can do otherwise.
-/

namespace WorldQuery

open Success

namespace Component

def textNames (pairs : List (Datum × Datum)) : List String :=
  pairs.filterMap fun pair =>
    match pair.1 with
    | .text name => some name
    | _ => none

theorem mem_textNames_iff {pairs : List (Datum × Datum)} {name : String} :
    name ∈ textNames pairs ↔ ∃ d, (.text name, d) ∈ pairs := by
  unfold textNames
  rw [List.mem_filterMap]
  constructor
  · rintro ⟨⟨owner, d⟩, hmem, heq⟩
    cases owner with
    | text n =>
      obtain rfl : n = name := by simpa using heq
      exact ⟨d, hmem⟩
    | _ => simp at heq
  · rintro ⟨d, hmem⟩
    exact ⟨_, hmem, rfl⟩

theorem textNames_append (pairs others : List (Datum × Datum)) :
    textNames (pairs ++ others) = textNames pairs ++ textNames others :=
  List.filterMap_append

/-- The names of all component rows are texts. -/
def Named (s : Store) : Prop :=
  ∃ (rows : List Row) (entries : List (String × Datum)), rowsInOrder s layoutColumns = .ok rows ∧
    pairs rows = entries.map fun (name, d) => (Datum.text name, d)

end Component

namespace Discovery

variable {pairs pairs' : List (Datum × Datum)} {known : List String} {name : String}

/-! ### What supports a name -/

/-- A name is supported by the rows that it is declared in. -/
theorem supported_history_iff :
    Supported (textEntries (Component.history pairs)) known name ↔
      ∃ definition, (.text name, .text definition) ∈ pairs ∧
        ∃ layout, Layout.read known name definition = .ok layout := by
  constructor
  · rintro ⟨texts, hmem, definition, hdefinition, layout, hread⟩
    obtain ⟨ds, hds, rfl⟩ := mem_textEntries.mp hmem
    obtain ⟨d, hd, rfl⟩ := List.mem_map.mp hdefinition
    have htext : d = .text (asText d) := eq_text_of_readChars (Layout.read_eq_ok_iff.mp hread)
    obtain ⟨owner, hpair, hsame⟩ := Component.exists_mem_of_mem_history hds hd
    have howner : owner = .text name := by
      rcases hsame with hsame | hsame
      · exact hsame.symm
      · exact Datum.text_beq_iff.mp hsame
    rw [howner, htext] at hpair
    exact ⟨asText d, hpair, layout, hread⟩
  · rintro ⟨definition, hpair, layout, hread⟩
    have hself : ((Datum.text name) == .text name) = true := Datum.text_beq_iff.mpr rfl
    obtain ⟨⟨owner, ds⟩, hds, hsame, hmem⟩ := Component.exists_mem_history hself
      (fun entry _ heq => (Datum.text_beq_iff.mp heq).symm) hpair
    obtain rfl : owner = .text name := Datum.beq_text_iff.mp hsame
    exact ⟨_, mem_textEntries.mpr ⟨ds, hds, rfl⟩, definition, List.mem_map.mpr ⟨_, hmem, rfl⟩,
      layout, hread⟩

/-! ### Before and after -/

/-- The kept names of some rows are kept with more rows, in any order. -/
theorem keys_kept_subset (hsub : pairs ⊆ pairs') :
    Assoc.keys (kept (textEntries (Component.history pairs))) ⊆
      Assoc.keys (kept (textEntries (Component.history pairs'))) := by
  apply subset_keys_kept
  intro name hname
  obtain ⟨definition, hpair, hread⟩ :=
    supported_history_iff.mp (selfSupporting_keys_kept (textEntries_history_nodup pairs) name hname)
  exact supported_history_iff.mpr ⟨definition, hsub hpair, hread⟩

theorem keys_textEntries_subset (pairs : List (Datum × Datum)) :
    Assoc.keys (textEntries (Component.history pairs)) ⊆ Component.textNames pairs := by
  intro name hname
  obtain ⟨⟨n, texts⟩, hmem, rfl⟩ := List.mem_map.mp hname
  obtain ⟨ds, hds, -⟩ := mem_textEntries.mp hmem
  obtain ⟨⟨owner, d⟩, hpair, howner⟩ := Component.exists_of_mem_history hds
  obtain rfl : .text n = owner := howner
  exact Component.mem_textNames_iff.mpr ⟨d, hpair⟩

theorem mem_keys_textEntries_history (h : name ∈ Component.textNames pairs) :
    name ∈ Assoc.keys (textEntries (Component.history pairs)) := by
  obtain ⟨d, hpair⟩ := Component.mem_textNames_iff.mp h
  induction pairs using List.reverseRecOn with
  | nil => simp at hpair
  | append_singleton pairs pair ih =>
    rw [Component.history_append_singleton, mem_keys_textEntries]
    rcases List.mem_append.mp hpair with hpair | hpair
    · obtain ⟨ds, hds⟩ := mem_keys_textEntries.mp
        (ih (Component.mem_textNames_iff.mpr ⟨d, hpair⟩) hpair)
      obtain ⟨ds', hds', -⟩ := Component.exists_mem_record hds pair
      exact ⟨ds', hds'⟩
    · obtain rfl := List.mem_singleton.mp hpair
      have hself : ((Datum.text name) == .text name) = true := Datum.text_beq_iff.mpr rfl
      obtain ⟨⟨owner, ds⟩, hds, hsame, -⟩ : ∃ e ∈ Component.record (Component.history pairs)
          (.text name, d), (e.1 == .text name) = true ∧ d ∈ e.2 :=
        Component.exists_mem_record_self _ hself
      obtain rfl : owner = .text name := Datum.beq_text_iff.mp hsame
      exact ⟨ds, hds⟩

theorem keys_kept_subset_textNames (pairs : List (Datum × Datum)) :
    Assoc.keys (kept (textEntries (Component.history pairs))) ⊆ Component.textNames pairs :=
  List.Subset.trans (keys_settle_subset _ _) (keys_textEntries_subset pairs)

theorem roundsFault?_eq_none_of_texts
    (h : ∀ pair ∈ pairs, ∃ text, Component.definitionText pair.2 = .ok text) :
    roundsFault? (Component.history pairs)
      (Assoc.keys (textEntries (Component.history pairs))) = none :=
  (roundsFault?_eq_none_iff (textEntries_history_nodup pairs)).mpr (obstacle?_history_of_texts h _)

section Named

variable {entries lower upper : List (String × Datum)}

/-- Names that are texts are discovered if no definition of theirs is an obstacle. -/
theorem fault?_eq_none_iff_of_named (hstored : ∀ entry ∈ entries, entry.2.IsStored)
    (hpairs : pairs = entries.map fun (name, d) => (Datum.text name, d)) :
    fault? (Component.history pairs) = none ↔
      ∀ name, obstacle? (Assoc.keys (kept (textEntries (Component.history pairs))))
        (definitionsOf entries name) = none := by
  have hhistory : Component.history pairs =
      (Component.history entries).map fun (name, ds) => (Datum.text name, ds) := by
    have hmap := Component.history_map (g := id) Datum.text_beq_text (fun _ _ => rfl) entries
    rw [hpairs]
    simpa using hmap
  rw [fault?_eq_none_iff (textEntries_history_nodup pairs)]
  constructor
  · intro h name
    rw [← obstacle?_history_iff hstored]
    cases hget : Assoc.get? (Component.history entries) name with
    | none => rfl
    | some ds =>
      have hmem : (Datum.text name, ds) ∈ Component.history pairs := by
        rw [hhistory]
        exact List.mem_map.mpr ⟨_, Assoc.mem_of_get? hget, rfl⟩
      exact (h _ hmem).1
  · intro h e he
    rw [hhistory] at he
    obtain ⟨⟨name, ds⟩, hmem, rfl⟩ := List.mem_map.mp he
    have hget : Assoc.get? (Component.history entries) name = some ds :=
      Assoc.get?_of_mem (Component.keys_history_nodup entries) hmem
    have hclear := (obstacle?_history_iff hstored).mpr (h name)
    rw [hget] at hclear
    exact ⟨hclear, fun hname => absurd rfl (hname name)⟩

theorem fault?_insert {entry : String × Datum} {text : String}
    (hstored : ∀ e ∈ lower ++ entry :: upper, e.2.IsStored)
    (hentry : Component.definitionText entry.2 = .ok text)
    (hpairs : pairs = (lower ++ upper).map fun (name, d) => (Datum.text name, d))
    (hpairs' : pairs' = (lower ++ entry :: upper).map fun (name, d) => (Datum.text name, d))
    (h : fault? (Component.history pairs) = none) :
    fault? (Component.history pairs') = none := by
  have hfewer : lower ++ upper ⊆ lower ++ entry :: upper :=
    ((List.sublist_cons_self entry upper).append_left lower).subset
  have hsub : pairs ⊆ pairs' := by
    rw [hpairs, hpairs']
    exact List.map_subset _ hfewer
  rw [fault?_eq_none_iff_of_named (fun e he => hstored e (hfewer he)) hpairs] at h
  rw [fault?_eq_none_iff_of_named hstored hpairs']
  intro name
  apply obstacle?_definitionsOf_insert hentry
  -- more names are kept, and what could be read can be read still
  exact obstacle?_mono (keys_kept_subset hsub) (h name)

end Named

section LastRow

variable {owner latest : Datum}
  (hlatest : Unreadable (Component.textNames (pairs ++ [(owner, latest)])) latest)

include hlatest

theorem keys_kept_append_subset :
    Assoc.keys (kept (textEntries (Component.history (pairs ++ [(owner, latest)])))) ⊆
      Assoc.keys (kept (textEntries (Component.history pairs))) := by
  apply subset_keys_kept
  intro name hname
  obtain ⟨definition, hpair, layout, hread⟩ :=
    supported_history_iff.mp (selfSupporting_keys_kept (textEntries_history_nodup _) name hname)
  refine supported_history_iff.mpr ⟨definition, ?_, layout, hread⟩
  -- a name that is declared by the last row alone would have to be read from it
  rcases List.mem_append.mp hpair with hpair | hpair
  · exact hpair
  · obtain ⟨-, rfl⟩ := Prod.mk.inj (List.mem_singleton.mp hpair)
    have hnone := hlatest.mono (keys_kept_subset_textNames _)
    exact absurd (Layout.read_eq_ok_iff.mp hread)
      (hnone.not_read_of_beq (Datum.text_beq_iff.mpr rfl) layout)

theorem kept_append :
    kept (textEntries (Component.history (pairs ++ [(owner, latest)]))) =
      kept (textEntries (Component.history pairs)) := by
  have hback := keys_kept_append_subset hlatest
  have hforth : Assoc.keys (kept (textEntries (Component.history pairs))) ⊆
      Assoc.keys (kept (textEntries (Component.history (pairs ++ [(owner, latest)])))) :=
    keys_kept_subset (List.subset_append_left _ _)
  have hnone := hlatest.mono (keys_kept_subset_textNames _)
  -- both loops end in a round that changes nothing, so the two last rounds are compared
  calc kept (textEntries (Component.history (pairs ++ [(owner, latest)])))
      = round (textEntries (Component.history (pairs ++ [(owner, latest)])))
          (Assoc.keys (kept (textEntries (Component.history (pairs ++ [(owner, latest)]))))) :=
        settle_eq_round (textEntries_history_nodup _)
    _ = round (textEntries (Component.history pairs))
          (Assoc.keys (kept (textEntries (Component.history (pairs ++ [(owner, latest)]))))) := by
        have hround := round_record hnone (Component.history pairs) owner
        rwa [← Component.history_append_singleton] at hround
    _ = round (textEntries (Component.history pairs))
          (Assoc.keys (kept (textEntries (Component.history pairs)))) := round_congr hback hforth
    _ = kept (textEntries (Component.history pairs)) :=
        (settle_eq_round (textEntries_history_nodup _)).symm

theorem fault?_append_eq_none_iff (hstored : ∀ pair ∈ pairs, pair.2.IsStored) :
    fault? (Component.history (pairs ++ [(owner, latest)])) = none ↔
      fault? (Component.history pairs) = none := by
  have hnone : Unreadable (Assoc.keys (kept (textEntries (Component.history pairs)))) latest := by
    rw [← kept_append hlatest]
    exact hlatest.mono (keys_kept_subset_textNames _)
  rw [fault?_eq_none_iff_findSome? (textEntries_history_nodup _),
    fault?_eq_none_iff_findSome? (textEntries_history_nodup _), kept_append hlatest,
    Component.history_append_singleton, nameFault?_record hnone,
    findSome?_obstacle?_record hnone (isStored_history hstored)]

/-- If no name is new, the rounds start from the same names and meet the same fault. -/
theorem fault?_append_of_declared (hstored : ∀ pair ∈ pairs, pair.2.IsStored)
    (howner : ∀ name, owner = .text name → name ∈ Component.textNames pairs) :
    fault? (Component.history (pairs ++ [(owner, latest)])) = fault? (Component.history pairs) := by
  have hkept := kept_append hlatest
  have hnone : Unreadable (Component.textNames pairs) latest := by
    refine hlatest.mono ?_
    rw [Component.textNames_append]
    exact List.subset_append_left _ _
  have hkeys : Assoc.keys (textEntries (Component.record (Component.history pairs)
      (owner, latest))) = Assoc.keys (textEntries (Component.history pairs)) :=
    keys_textEntries_record fun name hname => mem_keys_textEntries_history (howner name hname)
  rw [Component.history_append_singleton] at hkept ⊢
  unfold fault?
  dsimp only
  rw [hkeys, hkept, roundsFault?_record (hnone.mono (keys_textEntries_subset pairs))
    (isStored_history hstored), nameFault?_record (hnone.mono (keys_kept_subset_textNames pairs))]

/-- If all definitions count as texts, only a name that is none can be met. -/
theorem fault?_append_of_texts
    (htexts : ∀ pair ∈ pairs, ∃ text, Component.definitionText pair.2 = .ok text) :
    fault? (Component.history (pairs ++ [(owner, latest)])) = fault? (Component.history pairs) := by
  have hkept := kept_append hlatest
  have hnone : Unreadable (Assoc.keys (kept (textEntries (Component.history pairs)))) latest := by
    rw [← hkept]
    exact hlatest.mono (keys_kept_subset_textNames _)
  have hall : ∀ pair ∈ pairs ++ [(owner, latest)],
      ∃ text, Component.definitionText pair.2 = .ok text := by
    intro pair hpair
    rcases List.mem_append.mp hpair with hpair | hpair
    · exact htexts pair hpair
    · obtain rfl := List.mem_singleton.mp hpair
      obtain ⟨text, htext, -⟩ := hlatest
      exact ⟨text, htext⟩
  unfold fault?
  dsimp only
  rw [roundsFault?_eq_none_of_texts hall, roundsFault?_eq_none_of_texts htexts, hkept,
    Component.history_append_singleton, nameFault?_record hnone]

end LastRow

/-! ### Stores -/

variable {s s' : Store} {row : StoredRow}

theorem ofStore_of_unread {fault : StoreFault} (tablePrefix : String)
    (h : Component.rowsInOrder s Component.layoutColumns = .error fault) :
    ofStore s tablePrefix = .error (.store fault) := by
  rw [ofStore, Component.definitions, h]
  rfl

theorem ofStore_of_rows {rows : List Row} (tablePrefix : String)
    (hrows : Component.rowsInOrder s Component.layoutColumns = .ok rows) :
    ofStore s tablePrefix =
      match fault? (Component.history (Component.pairs rows)) with
      | some fault => .error fault
      | none => .ok (objects (textEntries (Component.history (Component.pairs rows)))
          tablePrefix) := by
  rw [ofStore, Component.definitions_eq_ok_iff.mpr ⟨rows, hrows, rfl⟩]
  rfl

/-- Discovery and the schema come out the same, or fail the same. -/
def SameOutcome (s s' : Store) (tablePrefix : String) : Prop :=
  ofStore s' tablePrefix = ofStore s tablePrefix ∧
    Schema.ofStore s' tablePrefix = Schema.ofStore s tablePrefix

theorem sameOutcome_of_ofStore {tablePrefix : String}
    (h : ofStore s' tablePrefix = ofStore s tablePrefix) : SameOutcome s s' tablePrefix :=
  ⟨h, by rw [Schema.ofStore, Schema.ofStore, h]⟩

/-- The components of `s'` are read as those of `s` and one row after them, with a definition that
cannot be read against all names. -/
def AddsUnreadable (s s' : Store) : Prop :=
  ∃ rows last, Component.rowsInOrder s Component.layoutColumns = .ok rows ∧
    Component.rowsInOrder s' Component.layoutColumns = .ok (rows ++ [last]) ∧
    Unreadable (Component.textNames (Component.pairs (rows ++ [last])))
      (Component.columnDatum last 1)

/-- What a last row of an owner leaves as it is, next to the rows before it. -/
structure Unnoticed (s s' : Store) (tablePrefix : String) (before : List (Datum × Datum))
    (owner : Datum) : Prop where
  discovered : ∀ found, ofStore s tablePrefix = .ok found → SameOutcome s s' tablePrefix
  /-- A discovery that fails does so over the same datum, if the row declares no new name. -/
  declared : (∀ name, owner = .text name → name ∈ Component.textNames before) →
    SameOutcome s s' tablePrefix
  /-- And so it does if the definitions before all count as texts. -/
  texts : (∀ pair ∈ before, ∃ text, Component.definitionText pair.2 = .ok text) →
    SameOutcome s s' tablePrefix
  /-- In any case it fails again, over a name or definition that is no text. -/
  failed : ∀ fault, ofStore s tablePrefix = .error fault → fault.IsStray ∧
    ∃ fault', ofStore s' tablePrefix = .error fault' ∧ fault'.IsStray ∧
      Schema.ofStore s' tablePrefix = .error (.store fault')

/-- What becomes of a discovery when a row is added. -/
structure Persists (s s' : Store) (row : StoredRow) (tablePrefix : String) : Prop where
  /-- No name is lost, wherever the row is sorted. -/
  names : ∀ found found', ofStore s tablePrefix = .ok found →
    ofStore s' tablePrefix = .ok found' →
      found.filterMap ObjectDef.declaredName? ⊆ found'.filterMap ObjectDef.declaredName?
  /-- Discovery succeeds again if all names are texts and the new definition counts as one. -/
  succeeds : Component.Named s' →
    (∀ t i, s'.table Component.tableName = .ok t → t.position "storage_definition" = .ok i →
      ∃ text, Component.definitionText (Table.cell row i) = .ok text) →
    ∀ found, ofStore s tablePrefix = .ok found → ∃ found', ofStore s' tablePrefix = .ok found'
  /-- A table without a column that is needed fails as before. -/
  unread : ∀ fault, Component.rowsInOrder s Component.layoutColumns = .error fault →
    SameOutcome s s' tablePrefix
  /-- A last row whose definition cannot be read against all names goes unnoticed. -/
  lastRow : ∀ rows last, Component.rowsInOrder s Component.layoutColumns = .ok rows →
    Component.rowsInOrder s' Component.layoutColumns = .ok (rows ++ [last]) →
    Unreadable (Component.textNames (Component.pairs (rows ++ [last])))
      (Component.columnDatum last 1) →
    Unnoticed s s' tablePrefix (Component.pairs rows) (Component.columnDatum last 0)

theorem exists_split_of_pairs {lower upper : List Row} {added : Row}
    {entries : List (String × Datum)} (h : Component.pairs (lower ++ added :: upper) =
      entries.map fun (name, d) => (Datum.text name, d)) :
    ∃ before entry after, entries = before ++ entry :: after ∧
      entry.2 = Component.columnDatum added 1 ∧
      Component.pairs (lower ++ upper) =
        (before ++ after).map fun (name, d) => (Datum.text name, d) := by
  unfold Component.pairs at h ⊢
  rw [List.map_append, List.map_cons] at h
  obtain ⟨before, rest, rfl, hbefore, hrest⟩ := List.map_eq_append_iff.mp h.symm
  obtain ⟨entry, after, rfl, hentry, hafter⟩ := List.map_eq_cons_iff.mp hrest
  obtain ⟨-, hdefinition⟩ := Prod.mk.inj hentry
  refine ⟨before, entry, after, rfl, hdefinition, ?_⟩
  rw [List.map_append, List.map_append, hbefore, hafter]

section Added

variable {tablePrefix : String} (h : Component.Adds s s' row)

include h

theorem exists_ofStore_of_named (hnamed : Component.Named s')
    (htext : ∀ t i, s'.table Component.tableName = .ok t →
      t.position "storage_definition" = .ok i →
      ∃ text, Component.definitionText (Table.cell row i) = .ok text) {found : List ObjectDef}
    (hfound : ofStore s tablePrefix = .ok found) :
    ∃ found', ofStore s' tablePrefix = .ok found' := by
  obtain ⟨rows', entries, hrows', hentries⟩ := hnamed
  obtain ⟨t', selected, lower, upper, ht', hselected, hrows, rfl⟩ :=
    Component.exists_rowsInOrder_split h hrows'
  obtain ⟨nameAt, definitionAt, -, hdefinitionAt, rfl⟩ :=
    Component.positions_layoutColumns_eq_ok_iff.mp hselected
  obtain ⟨text, htext⟩ := htext t' definitionAt ht' hdefinitionAt
  obtain ⟨hfault, -⟩ := (ofStore_eq_ok_iff_rows hrows).mp hfound
  refine ⟨_, (ofStore_eq_ok_iff_rows hrows').mpr ⟨?_, rfl⟩⟩
  obtain ⟨before, entry, after, rfl, hentry, hpairs⟩ := exists_split_of_pairs hentries
  have hstored : ∀ e ∈ before ++ entry :: after, e.2.IsStored := by
    have hpairs' := Component.isStored_pairs_of_adds h hrows'
    rw [hentries] at hpairs'
    exact fun e he => hpairs' _ (List.mem_map_of_mem he)
  have htext' : Component.definitionText entry.2 = .ok text := by
    rw [hentry]
    exact htext
  exact fault?_insert hstored htext' hpairs hentries hfault

theorem unnoticed_of_unreadable {rows : List Row} {last : Row}
    (hrows : Component.rowsInOrder s Component.layoutColumns = .ok rows)
    (hrows' : Component.rowsInOrder s' Component.layoutColumns = .ok (rows ++ [last]))
    (hlast : Unreadable (Component.textNames (Component.pairs (rows ++ [last])))
      (Component.columnDatum last 1)) :
    Unnoticed s s' tablePrefix (Component.pairs rows) (Component.columnDatum last 0) := by
  have hstored : ∀ pair ∈ Component.pairs rows, pair.2.IsStored := by
    intro pair hpair
    refine Component.isStored_pairs_of_adds h hrows' pair ?_
    exact List.map_subset _ (List.subset_append_left rows [last]) hpair
  have hbefore := ofStore_of_rows tablePrefix hrows
  have hafter := ofStore_of_rows tablePrefix hrows'
  have hsplit : Component.pairs (rows ++ [last]) = Component.pairs rows ++
      [(Component.columnDatum last 0, Component.columnDatum last 1)] := List.map_append
  rw [hsplit] at hlast hafter
  rw [objects, kept_append hlast, ← objects] at hafter
  have hsame (hfault : fault? (Component.history (Component.pairs rows ++
      [(Component.columnDatum last 0, Component.columnDatum last 1)])) =
        fault? (Component.history (Component.pairs rows))) : SameOutcome s s' tablePrefix := by
    rw [hfault, ← hbefore] at hafter
    exact sameOutcome_of_ofStore hafter
  have hnone := fault?_append_eq_none_iff hlast hstored
  constructor
  case discovered =>
    intro found hfound
    have hclear := ((ofStore_eq_ok_iff_rows hrows).mp hfound).1
    exact hsame ((hnone.mpr hclear).trans hclear.symm)
  case declared =>
    intro hdeclared
    exact hsame (fault?_append_of_declared hlast hstored hdeclared)
  case texts =>
    intro htexts
    exact hsame (fault?_append_of_texts hlast htexts)
  case failed =>
    intro fault hfailed
    rw [hbefore] at hfailed
    cases hfault : fault? (Component.history (Component.pairs rows)) with
    | none => simp [hfault] at hfailed
    | some cause =>
      rw [hfault] at hfailed
      obtain rfl := Except.error.inj hfailed
      have hne : fault? (Component.history (Component.pairs rows ++
          [(Component.columnDatum last 0, Component.columnDatum last 1)])) ≠ none := by
        intro hclear
        simp [hnone.mp hclear] at hfault
      obtain ⟨fault', hfault'⟩ := Option.ne_none_iff_exists'.mp hne
      rw [hfault'] at hafter
      refine ⟨isStray_of_fault? hfault, fault', hafter, isStray_of_fault? hfault', ?_⟩
      rw [Schema.ofStore, hafter]
      rfl

end Added

/-- One more component row, wherever it is sorted, drops no name from those that are discovered, and
a last row whose definition cannot be read against all names changes nothing. -/
theorem ofStore_of_added (h : Component.Adds s s' row) (tablePrefix : String) :
    Persists s s' row tablePrefix := by
  constructor
  case names =>
    intro found found' hfound hfound'
    obtain ⟨entries', hentries', -, rfl⟩ := ofStore_eq_ok_iff.mp hfound'
    obtain ⟨rows', hrows', rfl⟩ := Component.definitions_eq_ok_iff.mp hentries'
    obtain ⟨rows, hrows, hsub⟩ := Component.subset_of_adds h hrows'
    obtain ⟨-, rfl⟩ := (ofStore_eq_ok_iff_rows hrows).mp hfound
    rw [filterMap_declaredName?_objects, filterMap_declaredName?_objects]
    exact keys_kept_subset (List.map_subset _ hsub)
  case succeeds =>
    intro hnamed htext found hfound
    exact exists_ofStore_of_named h hnamed htext hfound
  case unread =>
    intro fault hrows
    apply sameOutcome_of_ofStore
    rw [ofStore_of_unread _ hrows,
      ofStore_of_unread _ (Component.rowsInOrder_error_of_adds h hrows)]
  case lastRow =>
    intro rows last hrows hrows' hlast
    exact unnoticed_of_unreadable h hrows hrows' hlast

section Worlds

def declarationRow (id : String) (name definition : Datum) (created : Int) : List Datum :=
  [.text id, name, .text "0x9", .text "0x8", .text "0x7", definition, .int created]

def declarations (rows : List (List Datum)) : Store :=
  Store.empty.create "components" Component.columns rows

theorem table_declarations (rows : List (List Datum)) :
    (declarations rows).table Component.tableName =
      .ok ((Table.mk "components" Component.columns []).insert rows) :=
  Store.table_of_cons (Store.sameName_iff.mpr rfl)

theorem isStored_declarationRow {id : String} {name definition : Datum} {created : Int}
    (hname : name.IsStored) (hdefinition : definition.IsStored) :
    ∀ d ∈ declarationRow id name definition created, d.IsStored := by
  simp only [declarationRow, List.forall_mem_cons]
  exact ⟨trivial, hname, trivial, trivial, trivial, hdefinition, trivial, by simp⟩

theorem adds_declaration {rows : List (List Datum)} {data : List Datum}
    (hrows : ∀ others ∈ rows, ∀ d ∈ others, d.IsStored) (hdata : ∀ d ∈ data, d.IsStored) :
    ∃ row, Component.Adds (declarations rows) ((declarations rows).insert "components" [data])
      row := by
  have hstored : ((Table.mk "components" Component.columns []).insert rows).Stored :=
    Component.stored_insert (fun row hrow => absurd hrow List.not_mem_nil) hrows
  exact ⟨_, Component.adds_insert (table_declarations rows) hstored hdata⟩

/-- A type is declared anew with a field of a type that nobody declares. -/
theorem ofStore_of_broken_redeclaration :
    let s := declarations [declarationRow "0x1" (.text "Position") (.text "x: Felt") 1]
    let data := declarationRow "0x2" (.text "Position") (.text "x: Nothing") 2
    let s' := s.insert "components" [data]
    Component.Adds s s' ⟨2, data⟩ ∧ Component.Named s' ∧ SameOutcome s s' "storage_" ∧
      ∃ found found', ofStore s "storage_" = .ok found ∧ ofStore s' "storage_" = .ok found' ∧
        found.filterMap ObjectDef.declaredName? = ["Position"] ∧
          found.filterMap ObjectDef.declaredName? ⊆ found'.filterMap ObjectDef.declaredName? := by
  intro s data s'
  let t : Table := ⟨"components", Component.columns,
    [⟨1, declarationRow "0x1" (.text "Position") (.text "x: Felt") 1⟩]⟩
  have ht : s.table Component.tableName = .ok t := table_declarations _
  have ht' : s'.table Component.tableName = .ok { t with rows := t.rows ++ [⟨2, data⟩] } :=
    Component.table_insert ht data
  have hadds : Component.Adds s s' ⟨2, data⟩ := by
    apply Component.adds_insert ht
    · intro row hrow
      obtain rfl := List.mem_singleton.mp hrow
      exact isStored_declarationRow trivial trivial
    · exact isStored_declarationRow trivial trivial
  have hselected : Component.positions t Component.layoutColumns = .ok [1, 5] := rfl
  have hrows : Component.rowsInOrder s Component.layoutColumns =
      .ok (t.rows.map (Component.pick t [1, 5])) :=
    Component.rowsInOrder_of_sorted ht hselected rfl rfl (by decide)
  have hrows' : Component.rowsInOrder s' Component.layoutColumns =
      .ok (t.rows.map (Component.pick t [1, 5]) ++ [Component.pick t [1, 5] ⟨2, data⟩]) :=
    Component.rowsInOrder_of_sorted ht' hselected rfl rfl (by decide)
  have hnamed : Component.Named s' :=
    ⟨_, [("Position", .text "x: Felt"), ("Position", .text "x: Nothing")], hrows', rfl⟩
  have hlast : Unreadable ["Position", "Position"] (.text "x: Nothing") :=
    unreadable_of_toOption rfl (by decide +kernel)
  have htext : ∀ t i, s'.table Component.tableName = .ok t →
      t.position "storage_definition" = .ok i →
      ∃ text, Component.definitionText (Table.cell ⟨2, data⟩ i) = .ok text := by
    intro t' i hs' hi
    obtain rfl := Except.ok.inj (ht'.symm.trans hs')
    obtain rfl : 5 = i := Except.ok.inj hi
    exact ⟨_, rfl⟩
  have hfound := ofStore_of_declares
    (⟨_, hrows, rfl⟩ : Component.Declares s [("Position", "x: Felt")]) "storage_"
  have hpersists := ofStore_of_added hadds "storage_"
  have hunnoticed := hpersists.lastRow _ _ hrows hrows' hlast
  obtain ⟨found', hfound'⟩ := hpersists.succeeds hnamed htext _ hfound
  refine ⟨hadds, hnamed, hunnoticed.discovered _ hfound, _, found', hfound, hfound', ?_,
    hpersists.names _ _ hfound hfound'⟩
  rw [filterMap_declaredName?_objects]
  decide +kernel

/-- The names that are discovered in a store, or the wording of what keeps it from that. -/
def outcome (s : Store) : Except String (List String) :=
  match ofStore s "storage_" with
  | .ok found => .ok (found.filterMap ObjectDef.declaredName?)
  | .error fault => .error fault.message

section Sorted

variable {t : Table}

theorem pairs_pick (rows : List StoredRow) : Component.pairs (rows.map (Component.pick t [1, 5])) =
    rows.map fun row => (Table.cell row 1, Table.cell row 5) := by
  rw [Component.pairs, List.map_map]
  rfl

variable (ht : s.table Component.tableName = .ok t) (hcolumns : t.columns = Component.columns)

include ht hcolumns

theorem rowsInOrder_layout_of_sorted (hsorted : t.rows.Pairwise fun a b =>
      (Store.compareData (Table.cell a 6) (Table.cell b 6)).then
        (Store.compareData (Table.cell a 0) (Table.cell b 0)) ≠ .gt) :
    Component.rowsInOrder s Component.layoutColumns =
      .ok (t.rows.map (Component.pick t [1, 5])) := by
  obtain ⟨name, columns, rows⟩ := t
  obtain rfl : columns = Component.columns := hcolumns
  exact Component.rowsInOrder_of_sorted ht rfl rfl rfl hsorted

theorem outcome_of_sorted (hsorted : t.rows.Pairwise fun a b =>
      (Store.compareData (Table.cell a 6) (Table.cell b 6)).then
        (Store.compareData (Table.cell a 0) (Table.cell b 0)) ≠ .gt) :
    outcome s =
      let entries := Component.history
        (t.rows.map fun row => (Table.cell row 1, Table.cell row 5))
      match fault? entries with
      | some fault => .error fault.message
      | none => .ok (Assoc.keys (kept (textEntries entries))) := by
  rw [outcome, ofStore_of_rows _ (rowsInOrder_layout_of_sorted ht hcolumns hsorted), pairs_pick]
  dsimp only
  cases fault? (Component.history (t.rows.map fun row => (Table.cell row 1, Table.cell row 5))) with
  | some fault => rfl
  | none => exact congrArg Except.ok (filterMap_declaredName?_objects _ _)

theorem addsUnreadable_of_sorted {added : StoredRow}
    (ht' : s'.table Component.tableName = .ok { t with rows := t.rows ++ [added] })
    (hsorted : (t.rows ++ [added]).Pairwise fun a b =>
      (Store.compareData (Table.cell a 6) (Table.cell b 6)).then
        (Store.compareData (Table.cell a 0) (Table.cell b 0)) ≠ .gt)
    (hadded : Unreadable (Component.textNames ((t.rows ++ [added]).map fun row =>
      (Table.cell row 1, Table.cell row 5))) (Table.cell added 5)) : AddsUnreadable s s' := by
  have hrows := rowsInOrder_layout_of_sorted ht hcolumns (List.pairwise_append.mp hsorted).1
  have hrows' := rowsInOrder_layout_of_sorted ht' hcolumns hsorted
  rw [List.map_append] at hrows'
  rw [← pairs_pick (t := t), List.map_append] at hadded
  exact ⟨_, _, hrows, hrows', hadded⟩

end Sorted

/-- A row with a definition that is no text ends the discovery, and so does a row that makes the
definition of a name readable that is no text. A last row with an unreadable definition can change
the datum over which the discovery fails, if it declares a new name: it takes one more round to see
that the definition with `Ghost` cannot be read. -/
theorem lost_by_added :
    (let s := declarations [declarationRow "0x1" (.text "Position") (.text "x: Felt") 1]
    let s' := s.insert "components"
      [declarationRow "0x2" (.text "Health") (.blob "x: Felt".toUTF8.toList) 2]
    (∃ row, Component.Adds s s' row) ∧ outcome s = .ok ["Position"] ∧
      outcome s' = .error "a bytes-like object is required, not 'str'") ∧
    (let s := declarations [declarationRow "0x1" (.text "Position") (.text "x: Felt") 1,
      declarationRow "0x2" (.int 5) (.text "x: Ghost") 2]
    let s' := s.insert "components" [declarationRow "0x3" (.text "Ghost") (.text "y: Felt") 3]
    (∃ row, Component.Adds s s' row) ∧ outcome s = .ok ["Position"] ∧
      outcome s' = .error "'int' object has no attribute 'strip'") ∧
    let s := declarations [declarationRow "0x1" (.text "Position") (.blob "x: Felt".toUTF8.toList) 1,
      declarationRow "0x2" (.text "Position") (.text "x: Ghost") 2,
      declarationRow "0x3" (.text "Health") (.int 5) 3]
    let s' := s.insert "components" [declarationRow "0x4" (.text "Ghost") (.text "y: Gone") 4]
    (∃ row, Component.Adds s s' row) ∧ AddsUnreadable s s' ∧
      outcome s = .error "a bytes-like object is required, not 'str'" ∧
      outcome s' = .error "'int' object has no attribute 'strip'" := by
  refine ⟨⟨?_, ?_, ?_⟩, ⟨?_, ?_, ?_⟩, ?_, ?_, ?_, ?_⟩
  case refine_1 | refine_4 | refine_7 =>
    apply adds_declaration
    · simp [declarationRow, Datum.IsStored]
    · exact isStored_declarationRow trivial trivial
  case refine_8 =>
    refine addsUnreadable_of_sorted (table_declarations _) rfl
      (Component.table_insert (table_declarations _) _) ?_ (unreadable_of_toOption rfl ?_)
    all_goals decide +kernel
  all_goals
    rw [outcome_of_sorted rfl rfl (by decide +kernel)]
    decide +kernel

end Worlds

end Discovery

end WorldQuery
