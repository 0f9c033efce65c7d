import WorldQuery.Discovery
import WorldQuery.Proofs.Layout.Reading

/-!
# Discovery is a greatest fixpoint

A set of names supports itself if every name in it has a definition that can be read when these
names are the record types. Reading is monotone in the record types, so no round drops a name of a
set that supports itself; and the loop stops only at a set that supports itself. The kept names are
therefore the largest such set, whatever the references between the definitions are.
-/

namespace WorldQuery.Discovery

variable {definitions : List (String × List String)} {known other : List String}

/-- Some definition of the name can be read. -/
def Supported (definitions : List (String × List String)) (known : List String) (name : String) :
    Prop :=
  ∃ candidates, (name, candidates) ∈ definitions ∧
    ∃ definition ∈ candidates, ∃ layout, Layout.read known name definition = .ok layout

/-- Every name can be read when the names themselves are the record types. -/
def SelfSupporting (definitions : List (String × List String)) (names : List String) : Prop :=
  ∀ name ∈ names, Supported definitions names name

/-- The layout comes from the first of the candidates that can be read. -/
def ReadsNewest (known : List String) (owner : String) (candidates : List String)
    (layout : Layout) : Prop :=
  ∃ newer definition older, candidates = newer ++ definition :: older ∧
    Layout.read known owner definition = .ok layout ∧
    ∀ d ∈ newer, ∀ l, Layout.read known owner d ≠ .ok l

theorem newest_eq_some_iff (owner : String) {candidates : List String} {layout : Layout} :
    newest known candidates = some layout ↔ ReadsNewest known owner candidates layout := by
  unfold ReadsNewest
  simp only [ne_eq, Layout.read_eq_ok_iff]
  induction candidates with
  | nil => simp [newest]
  | cons d rest ih =>
    rw [newest]
    cases hd : Layout.readChars known d.toList with
    | ok l =>
      constructor
      · intro h
        cases h
        exact ⟨[], d, rest, rfl, hd, by simp⟩
      · rintro ⟨newer, definition, older, hsplit, hread, hnewer⟩
        cases newer with
        | nil =>
          obtain ⟨rfl, -⟩ : d = definition ∧ rest = older := by simpa using hsplit
          rw [hd] at hread
          simpa using hread
        | cons e newer =>
          obtain ⟨rfl, -⟩ : d = e ∧ rest = newer ++ definition :: older := by simpa using hsplit
          exact absurd hd (hnewer d (by simp) l)
    | error cause =>
      dsimp only
      rw [ih]
      constructor
      · rintro ⟨newer, definition, older, rfl, hread, hnewer⟩
        refine ⟨d :: newer, definition, older, rfl, hread, ?_⟩
        intro e he l
        rcases List.mem_cons.mp he with rfl | he
        · simp [hd]
        · exact hnewer e he l
      · rintro ⟨newer, definition, older, hsplit, hread, hnewer⟩
        cases newer with
        | nil =>
          obtain ⟨rfl, -⟩ : d = definition ∧ rest = older := by simpa using hsplit
          simp [hd] at hread
        | cons e newer =>
          obtain ⟨-, rfl⟩ : d = e ∧ rest = newer ++ definition :: older := by simpa using hsplit
          exact ⟨newer, definition, older, rfl, hread, fun x hx => hnewer x (by simp [hx])⟩

theorem exists_newest_iff {candidates : List String} :
    (∃ layout, newest known candidates = some layout) ↔
      ∃ definition ∈ candidates, ∃ layout,
        Layout.readChars known definition.toList = .ok layout := by
  induction candidates with
  | nil => simp [newest]
  | cons d rest ih =>
    rw [newest]
    cases hd : Layout.readChars known d.toList <;> simp [hd, ih]

theorem mem_round {name : String} {layout : Layout} :
    (name, layout) ∈ round definitions known ↔
      name ∈ known ∧ ∃ candidates, (name, candidates) ∈ definitions ∧
        newest known candidates = some layout := by
  simp only [round, List.mem_filterMap, Prod.exists, Option.ite_none_right_eq_some,
    Option.map_eq_some_iff, Prod.mk.injEq, List.contains_iff_mem]
  constructor
  · rintro ⟨n, candidates, hmem, hknown, l, hnew, rfl, rfl⟩
    exact ⟨hknown, candidates, hmem, hnew⟩
  · rintro ⟨hknown, candidates, hmem, hnew⟩
    exact ⟨name, candidates, hmem, hknown, layout, hnew, rfl, rfl⟩

theorem mem_keys_round {name : String} :
    name ∈ Assoc.keys (round definitions known) ↔
      name ∈ known ∧ Supported definitions known name := by
  simp only [Assoc.keys, List.mem_map, Prod.exists, exists_and_right, exists_eq_right, mem_round,
    Supported, Layout.read_eq_ok_iff]
  constructor
  · rintro ⟨layout, hknown, candidates, hmem, hnew⟩
    exact ⟨hknown, candidates, hmem, exists_newest_iff.mp ⟨layout, hnew⟩⟩
  · rintro ⟨hknown, candidates, hmem, hread⟩
    obtain ⟨layout, hnew⟩ := exists_newest_iff.mpr hread
    exact ⟨layout, hknown, candidates, hmem, hnew⟩

theorem Supported.mono {name : String} (hsub : known ⊆ other)
    (h : Supported definitions known name) : Supported definitions other name := by
  obtain ⟨candidates, hmem, d, hd, layout, hread⟩ := h
  rw [Layout.read_eq_ok_iff] at hread
  exact ⟨candidates, hmem, d, hd, layout,
    Layout.read_eq_ok_iff.mpr (Layout.readChars_mono hsub hread)⟩

theorem keys_round_subset : Assoc.keys (round definitions known) ⊆ known :=
  fun _ h => (mem_keys_round.mp h).1

theorem keys_round_sublist :
    (Assoc.keys (round definitions known)).Sublist (Assoc.keys definitions) := by
  unfold Assoc.keys round
  induction definitions with
  | nil => simp
  | cons entry rest ih =>
    obtain ⟨name, candidates⟩ := entry
    simp only [List.filterMap_cons, List.map_cons]
    by_cases hknown : name ∈ known
    · cases newest known candidates with
      | none => simpa [hknown] using ih.trans (List.sublist_cons_self _ _)
      | some layout => simpa [hknown] using ih
    · simpa [hknown] using ih.trans (List.sublist_cons_self _ _)

theorem newest_congr {candidates : List String} (hsub : known ⊆ other) (hsub' : other ⊆ known) :
    newest known candidates = newest other candidates := by
  induction candidates with
  | nil => rfl
  | cons d rest ih =>
    rw [newest, newest, ih]
    cases hd : Layout.readChars known d.toList with
    | ok layout => rw [Layout.readChars_mono hsub hd]
    | error cause =>
      cases hd' : Layout.readChars other d.toList with
      | ok layout => simp [Layout.readChars_mono hsub' hd'] at hd
      | error cause' => rfl

theorem round_congr (hsub : known ⊆ other) (hsub' : other ⊆ known) :
    round definitions known = round definitions other := by
  unfold round
  congr 1
  funext ⟨name, candidates⟩
  have hmem : known.contains name = other.contains name := by
    rw [Bool.eq_iff_iff, List.contains_iff_mem, List.contains_iff_mem]
    exact ⟨fun h => hsub h, fun h => hsub' h⟩
  simp only [hmem, newest_congr hsub hsub']

/-- No round drops a name of a set that supports itself. -/
theorem subset_keys_round (hself : SelfSupporting definitions other) (hsub : other ⊆ known) :
    other ⊆ Assoc.keys (round definitions known) :=
  fun name hname => mem_keys_round.mpr ⟨hsub hname, (hself name hname).mono hsub⟩

section Loop

variable (hnodup : (Assoc.keys definitions).Nodup)

include hnodup

theorem keys_round_subperm : (Assoc.keys (round definitions known)).Subperm known :=
  (hnodup.sublist keys_round_sublist).subperm keys_round_subset

theorem length_round_le : (round definitions known).length ≤ known.length := by
  simpa [Assoc.keys] using (keys_round_subperm hnodup).length_le

/-- A round that drops nothing has only names that support themselves. -/
theorem subset_keys_round_of_length_le (h : known.length ≤ (round definitions known).length) :
    known ⊆ Assoc.keys (round definitions known) := by
  exact ((keys_round_subperm hnodup).perm_of_length_le (by simpa [Assoc.keys] using h)).symm.subset

theorem settle_eq_round :
    settle definitions known =
      round definitions (Assoc.keys (settle definitions known)) := by
  fun_induction settle definitions known with
  | case1 known kept hlt ih => exact ih
  | case2 known kept hlt =>
    have hall := subset_keys_round_of_length_le hnodup (Nat.le_of_not_lt hlt)
    exact round_congr hall keys_round_subset

theorem keys_settle_sublist :
    (Assoc.keys (settle definitions known)).Sublist (Assoc.keys definitions) := by
  rw [settle_eq_round hnodup]
  exact keys_round_sublist

end Loop

theorem subset_keys_settle (hself : SelfSupporting definitions other) (hsub : other ⊆ known) :
    other ⊆ Assoc.keys (settle definitions known) := by
  fun_induction settle definitions known with
  | case1 known kept hlt ih => exact ih (subset_keys_round hself hsub)
  | case2 known kept hlt => exact subset_keys_round hself hsub

def namesAfter (definitions : List (String × List String)) : Nat → List String
  | 0 => Assoc.keys definitions
  | k + 1 => Assoc.keys (round definitions (namesAfter definitions k))

/-- The loop stops in the round that gives a layout to all names it started with. -/
def StopsAt (definitions : List (String × List String)) (k : Nat) : Prop :=
  (round definitions (namesAfter definitions k)).length = (namesAfter definitions k).length

/-- Every round before the last drops a name, so their number is bounded by that of the names. -/
theorem exists_stop_from (hnodup : (Assoc.keys definitions).Nodup) (j : Nat)
    (hrun : ∀ i < j, ¬StopsAt definitions i) :
    ∃ k ≤ j + (namesAfter definitions j).length, StopsAt definitions k ∧
      (∀ i < k, ¬StopsAt definitions i) ∧
      settle definitions (namesAfter definitions j) =
        round definitions (namesAfter definitions k) := by
  induction hn : (namesAfter definitions j).length using Nat.strong_induction_on generalizing j with
  | _ n ih =>
    have hle : (round definitions (namesAfter definitions j)).length ≤
        (namesAfter definitions j).length := length_round_le hnodup
    rw [settle]
    by_cases hstop : StopsAt definitions j
    · refine ⟨j, by omega, hstop, hrun, ?_⟩
      rw [if_neg (by rw [hstop]; exact Nat.lt_irrefl _)]
    · have hlt : (round definitions (namesAfter definitions j)).length <
          (namesAfter definitions j).length := Nat.lt_of_le_of_ne hle hstop
      have hnext : (namesAfter definitions (j + 1)).length < n := by
        simpa [namesAfter, Assoc.keys, ← hn] using hlt
      have hrun' : ∀ i < j + 1, ¬StopsAt definitions i := by
        intro i hi
        rcases Nat.lt_succ_iff_lt_or_eq.mp hi with hi | rfl
        · exact hrun i hi
        · exact hstop
      obtain ⟨k, hk, hstops, hbefore, heq⟩ := ih _ hnext (j + 1) hrun' rfl
      refine ⟨k, by omega, hstops, hbefore, ?_⟩
      rw [if_pos hlt]
      exact heq

theorem filterMap_declaredName?_objects (definitions : List (String × List String))
    (tablePrefix : String) :
    (objects definitions tablePrefix).filterMap ObjectDef.declaredName? =
      Assoc.keys (kept definitions) := by
  simp only [objects, List.filterMap_map, Assoc.keys]
  rw [← List.filterMap_eq_map]
  rfl

theorem readsNewest_of_mem_kept (hnodup : (Assoc.keys definitions).Nodup) {name : String}
    {layout : Layout} (h : (name, layout) ∈ kept definitions) :
    ∃ candidates, (name, candidates) ∈ definitions ∧
      ReadsNewest (Assoc.keys (kept definitions)) name candidates layout := by
  unfold kept at h ⊢
  rw [settle_eq_round hnodup] at h
  obtain ⟨-, candidates, hmem, hnew⟩ := mem_round.mp h
  exact ⟨candidates, hmem, (newest_eq_some_iff name).mp hnew⟩

theorem wellFormed_of_mem_kept (hnodup : (Assoc.keys definitions).Nodup) {name : String}
    {layout : Layout} (h : (name, layout) ∈ kept definitions) :
    layout.WellFormed (Assoc.keys (kept definitions)) := by
  obtain ⟨-, -, -, definition, -, -, hread, -⟩ := readsNewest_of_mem_kept hnodup h
  exact Layout.readChars_wellFormed (Layout.read_eq_ok_iff.mp hread)

theorem selfSupporting_keys_kept (hnodup : (Assoc.keys definitions).Nodup) :
    SelfSupporting definitions (Assoc.keys (kept definitions)) := by
  intro name hname
  unfold kept at hname ⊢
  rw [settle_eq_round hnodup] at hname
  exact (mem_keys_round.mp hname).2

theorem subset_keys_kept (hself : SelfSupporting definitions other) :
    other ⊆ Assoc.keys (kept definitions) := by
  apply subset_keys_settle hself
  intro name hname
  obtain ⟨candidates, hmem, -⟩ := hself name hname
  exact List.mem_map_of_mem hmem

/-- The loop ends after as many rounds as there are names at most, and the declared names of its
objects are the largest set of keys that supports itself, in the order of the keys. Every object has
the layout of the newest of its definitions that can be read against that set, and its references
stay within the set. -/
theorem objects_greatest_support (definitions : List (String × List String))
    (hnodup : (Assoc.keys definitions).Nodup) (tablePrefix : String) :
    let found := objects definitions tablePrefix
    let names := found.filterMap ObjectDef.declaredName?
    (∃ k ≤ definitions.length, StopsAt definitions k ∧ (∀ j < k, ¬StopsAt definitions j) ∧
        names = namesAfter definitions (k + 1)) ∧
      names.Sublist (Assoc.keys definitions) ∧
      SelfSupporting definitions names ∧
      (∀ other, SelfSupporting definitions other → other ⊆ names) ∧
      found.length = names.length ∧
      ∀ o ∈ found, ∃ name candidates layout,
        o = ObjectDef.storage name layout names tablePrefix ∧
        (name, candidates) ∈ definitions ∧ ReadsNewest names name candidates layout ∧
        ∀ field target, (field, TypeRef.object target) ∈ layout → target ∈ names := by
  intro found names
  have hnames : names = Assoc.keys (kept definitions) :=
    filterMap_declaredName?_objects definitions tablePrefix
  rw [hnames]
  refine ⟨?_, keys_settle_sublist hnodup, selfSupporting_keys_kept hnodup,
    fun other hself => subset_keys_kept hself, by simp [found, objects, Assoc.keys], ?_⟩
  · obtain ⟨k, hk, hstop, hbefore, heq⟩ := exists_stop_from hnodup 0 (by simp)
    refine ⟨k, by simpa [namesAfter, Assoc.keys] using hk, hstop, hbefore, ?_⟩
    exact congrArg Assoc.keys heq
  · intro o ho
    obtain ⟨⟨name, layout⟩, hmem, rfl⟩ := List.mem_map.mp ho
    obtain ⟨candidates, hcandidates, hreads⟩ := readsNewest_of_mem_kept hnodup hmem
    exact ⟨name, candidates, layout, rfl, hcandidates, hreads,
      (wellFormed_of_mem_kept hnodup hmem).references⟩

/-- Types that refer to each other and to themselves are kept; one of them by its second
definition, as nothing declares the type that its first one mentions. -/
theorem objects_keep_cycle :
    let definitions := [("A", ["b:Gone", "b:B"]), ("B", ["a:A,b:B"]), ("C", ["d:D"])]
    (Assoc.keys definitions).Nodup ∧
      ["A", "B"] ⊆ (objects definitions "storage_").filterMap ObjectDef.declaredName? := by
  intro definitions
  have hnodup : (Assoc.keys definitions).Nodup := by decide
  have hself : SelfSupporting definitions ["A", "B"] := by
    intro name hname
    rcases List.mem_pair.mp hname with rfl | rfl
    · exact ⟨["b:Gone", "b:B"], by decide, "b:B", by decide, [("b", .object "B")], by decide⟩
    · exact ⟨["a:A,b:B"], by decide, "a:A,b:B", by decide,
        [("a", .object "A"), ("b", .object "B")], by decide⟩
  exact ⟨hnodup, (objects_greatest_support definitions hnodup "storage_").2.2.2.1 _ hself⟩

end WorldQuery.Discovery
