import WorldQuery.Proofs.Discovery.Store

/-!
# What keeps a store from being discovered

A definition that is no text ends the discovery, unless a newer one of its name can be read. The
rounds look for such obstacles against fewer and fewer names, but the kept names alone decide:
`fault?_eq_none_iff` says so. Every definition of a name that was not kept is then a text without a
layout, `unreadable_of_not_kept`.
-/

namespace WorldQuery

/-- A name or a definition that is no text stands where a text is wanted. -/
def Fault.IsStray : Fault → Prop
  | .nameNotText _ | .definitionNotText _ => True
  | _ => False

namespace Discovery

open Success

variable {entries : List (Datum × List Datum)} {candidates : List Datum} {known other : List String}

/-- A definition that counts as a text, and that has no layout. -/
def Unreadable (known : List String) (d : Datum) : Prop :=
  ∃ text, Component.definitionText d = .ok text ∧
    ∀ layout, Layout.readChars known text.toList ≠ .ok layout

theorem unreadable_of_toOption {d : Datum} {text : String}
    (htext : Component.definitionText d = .ok text)
    (h : (Layout.readChars known text.toList).toOption = none) : Unreadable known d := by
  refine ⟨text, htext, fun layout hlayout => ?_⟩
  rw [hlayout] at h
  exact Option.some_ne_none _ h

theorem asText_of_definitionText {d : Datum} {text : String}
    (h : Component.definitionText d = .ok text) : asText d = text := by
  rw [asText, h]
  rfl

theorem newest_eq_none_iff {candidates : List String} :
    newest known candidates = none ↔
      ∀ d ∈ candidates, ∀ layout, Layout.readChars known d.toList ≠ .ok layout := by
  rw [Option.eq_none_iff_forall_ne_some, ← not_exists, exists_newest_iff]
  push Not
  rfl

/-! ### Obstacles among the definitions of one name -/

theorem obstacle?_cons_eq_none_iff {d : Datum} {older : List Datum} :
    obstacle? known (d :: older) = none ↔
      ∃ text, Component.definitionText d = .ok text ∧
        ((∃ layout, Layout.readChars known text.toList = .ok layout) ∨
          obstacle? known older = none) := by
  rw [obstacle?]
  cases Component.definitionText d with
  | error fault => simp
  | ok text => cases h : Layout.readChars known text.toList <;> simp [h]

theorem obstacle?_mono (hsub : known ⊆ other) (h : obstacle? known candidates = none) :
    obstacle? other candidates = none := by
  induction candidates with
  | nil => rfl
  | cons d older ih =>
    obtain ⟨text, htext, ⟨layout, hread⟩ | hrest⟩ := obstacle?_cons_eq_none_iff.mp h
    · exact obstacle?_cons_eq_none_iff.mpr
        ⟨text, htext, Or.inl ⟨layout, Layout.readChars_mono hsub hread⟩⟩
    · exact obstacle?_cons_eq_none_iff.mpr ⟨text, htext, Or.inr (ih hrest)⟩

theorem unreadable_of_newest_eq_none (hobstacle : obstacle? known candidates = none)
    (hnewest : newest known (candidates.map asText) = none) :
    ∀ d ∈ candidates, Unreadable known d := by
  rw [newest_eq_none_iff] at hnewest
  induction candidates with
  | nil => simp
  | cons d older ih =>
    obtain ⟨text, htext, hrest⟩ := obstacle?_cons_eq_none_iff.mp hobstacle
    have hnone : ∀ layout, Layout.readChars known text.toList ≠ .ok layout := by
      rw [← asText_of_definitionText htext]
      exact hnewest _ List.mem_cons_self
    have hrest : obstacle? known older = none :=
      hrest.resolve_left fun ⟨layout, hread⟩ => hnone layout hread
    intro e he
    rcases List.mem_cons.mp he with rfl | he
    · exact ⟨text, htext, hnone⟩
    · exact ih hrest (fun d hd => hnewest d (List.mem_cons_of_mem _ hd)) e he

/-! ### Obstacles on the way to the kept names -/

theorem keys_settle_subset (definitions : List (String × List String)) (known : List String) :
    Assoc.keys (settle definitions known) ⊆ known := by
  induction hn : known.length using Nat.strong_induction_on generalizing known with
  | _ n ih =>
    rw [settle]
    split_ifs with hlt
    · have hshorter : (Assoc.keys (round definitions known)).length < n := by
        simpa [Assoc.keys, ← hn] using hlt
      exact List.Subset.trans (ih _ hshorter _ rfl) keys_round_subset
    · exact keys_round_subset

/-- The names that the rounds end with decide whether there was an obstacle on the way. -/
theorem roundsFault?_eq_none_iff (hnodup : (Assoc.keys (textEntries entries)).Nodup) :
    roundsFault? entries known = none ↔
      ∀ e ∈ entries,
        obstacle? (Assoc.keys (settle (textEntries entries) known)) e.2 = none := by
  have hround (known : List String) :
      (entries.findSome? fun e => obstacle? known e.2) = none ↔
        ∀ e ∈ entries, obstacle? known e.2 = none := List.findSome?_eq_none_iff
  induction hn : known.length using Nat.strong_induction_on generalizing known with
  | _ n ih =>
    rw [roundsFault?, settle]
    cases hfound : entries.findSome? fun e => obstacle? known e.2 with
    | some fault =>
      -- what is an obstacle against many names is one against fewer
      have hsome : ¬ ∀ e ∈ entries, obstacle? known e.2 = none := by
        rw [← hround, hfound]
        simp
      have hsub := keys_settle_subset (textEntries entries) known
      rw [settle] at hsub
      simp only [reduceCtorEq, false_iff]
      exact fun hall => hsome fun e he => obstacle?_mono hsub (hall e he)
    | none =>
      dsimp only
      split_ifs with hlt
      · exact ih _ (by simpa [Assoc.keys, ← hn] using hlt) rfl
      · have hall := (hround known).mp hfound
        have hsub := subset_keys_round_of_length_le hnodup (Nat.le_of_not_lt hlt)
        simpa using fun n ds he => obstacle?_mono hsub (hall (n, ds) he)

/-- Entries are discovered if, against the kept names, nothing is found in the way. -/
theorem fault?_eq_none_iff_findSome? (hnodup : (Assoc.keys (textEntries entries)).Nodup) :
    fault? entries = none ↔
      (entries.findSome? fun e => obstacle? (Assoc.keys (kept (textEntries entries))) e.2) = none ∧
        nameFault? entries (Assoc.keys (kept (textEntries entries))) = none := by
  have hrounds : roundsFault? entries (Assoc.keys (textEntries entries)) = none ↔
      ∀ e ∈ entries, obstacle? (Assoc.keys (kept (textEntries entries))) e.2 = none :=
    roundsFault?_eq_none_iff hnodup
  rw [List.findSome?_eq_none_iff, ← hrounds]
  unfold fault?
  dsimp only
  cases roundsFault? entries (Assoc.keys (textEntries entries)) <;> simp

theorem nameFault?_eq_none_iff :
    nameFault? entries known = none ↔
      ∀ e ∈ entries, (∀ n, e.1 ≠ .text n) → newest known (e.2.map asText) = none := by
  unfold nameFault?
  rw [List.findSome?_eq_none_iff]
  refine forall₂_congr fun e _ => ?_
  obtain ⟨d, candidates⟩ := e
  cases hnewest : newest known (candidates.map asText) with
  | none => cases d <;> simp [Component.nameText, hnewest]
  | some layout => cases d <;> simp [Component.nameText, hnewest]

/-- Nothing keeps entries from being discovered exactly if, against the kept names, every name has
texts for definitions down to its newest readable one, and a name that is no text has none. -/
theorem fault?_eq_none_iff (hnodup : (Assoc.keys (textEntries entries)).Nodup) :
    fault? entries = none ↔
      ∀ e ∈ entries, obstacle? (Assoc.keys (kept (textEntries entries))) e.2 = none ∧
        ((∀ n, e.1 ≠ .text n) →
          newest (Assoc.keys (kept (textEntries entries))) (e.2.map asText) = none) := by
  rw [fault?_eq_none_iff_findSome? hnodup, List.findSome?_eq_none_iff, nameFault?_eq_none_iff]
  constructor
  · rintro ⟨hclear, hnames⟩ e he
    exact ⟨hclear e he, hnames e he⟩
  · intro h
    exact ⟨fun e he => (h e he).1, fun e he => (h e he).2⟩

/-! ### Names that were not kept -/

variable {definitions : List (String × List String)} {name : String}

/-- A name that could be read next to the kept ones is kept. -/
theorem mem_keys_kept_of_supported (hnodup : (Assoc.keys definitions).Nodup)
    (h : Supported definitions (Assoc.keys (kept definitions)) name) :
    name ∈ Assoc.keys (kept definitions) := by
  have hself : SelfSupporting definitions (name :: Assoc.keys (kept definitions)) := by
    intro n hn
    rcases List.mem_cons.mp hn with rfl | hn
    · exact h.mono (List.subset_cons_self _ _)
    · exact (selfSupporting_keys_kept hnodup n hn).mono (List.subset_cons_self _ _)
  exact subset_keys_kept hself List.mem_cons_self

theorem mem_textEntries {texts : List String} :
    (name, texts) ∈ textEntries entries ↔
      ∃ ds, (Datum.text name, ds) ∈ entries ∧ texts = ds.map asText := by
  unfold textEntries
  rw [List.mem_filterMap]
  constructor
  · rintro ⟨⟨d, ds⟩, hmem, heq⟩
    cases d with
    | text n =>
      obtain ⟨rfl, rfl⟩ : n = name ∧ ds.map asText = texts := by simpa using heq
      exact ⟨ds, hmem, rfl⟩
    | _ => simp at heq
  · rintro ⟨ds, hmem, rfl⟩
    exact ⟨_, hmem, rfl⟩

/-- Once entries are discovered, no definition of a name that was not kept can be read. -/
theorem unreadable_of_not_kept (hnodup : (Assoc.keys (textEntries entries)).Nodup)
    (hfault : fault? entries = none) {d : Datum} (he : (d, candidates) ∈ entries)
    (hd : ∀ n ∈ Assoc.keys (kept (textEntries entries)), d ≠ .text n) :
    ∀ definition ∈ candidates,
      Unreadable (Assoc.keys (kept (textEntries entries))) definition := by
  obtain ⟨hobstacle, hunnamed⟩ := (fault?_eq_none_iff hnodup).mp hfault _ he
  apply unreadable_of_newest_eq_none hobstacle
  by_cases htext : ∃ n, d = .text n
  · obtain ⟨n, rfl⟩ := htext
    rw [newest_eq_none_iff]
    intro definition hdefinition layout hread
    have hsupported : Supported (textEntries entries)
        (Assoc.keys (kept (textEntries entries))) n :=
      ⟨_, mem_textEntries.mpr ⟨candidates, he, rfl⟩, definition, hdefinition, layout,
        Layout.read_eq_ok_iff.mpr hread⟩
    exact hd n (mem_keys_kept_of_supported hnodup hsupported) rfl
  · exact hunnamed fun n hn => htext ⟨n, hn⟩

/-! ### What is in the way -/

variable {fault : Fault}

theorem isStray_of_definitionText {d : Datum} (h : Component.definitionText d = .error fault) :
    fault.IsStray := by
  cases d with
  | text s => simp [Component.definitionText] at h
  | null => simp [Component.definitionText] at h
  | blob bytes =>
    rw [Component.definitionText] at h
    split_ifs at h
    obtain rfl := Except.error.inj h
    trivial
  | _ =>
    obtain rfl := Except.error.inj h
    trivial

theorem isStray_of_nameText {d : Datum} (h : Component.nameText d = .error fault) :
    fault.IsStray := by
  cases d with
  | text s => simp [Component.nameText] at h
  | _ =>
    obtain rfl := Except.error.inj h
    trivial

theorem isStray_of_obstacle? (h : obstacle? known candidates = some fault) : fault.IsStray := by
  induction candidates with
  | nil => simp [obstacle?] at h
  | cons d older ih =>
    rw [obstacle?] at h
    cases hd : Component.definitionText d with
    | ok text =>
      rw [hd] at h
      dsimp only at h
      split at h
      · simp at h
      · exact ih h
    | error cause =>
      rw [hd] at h
      obtain rfl := Option.some.inj h
      exact isStray_of_definitionText hd

theorem isStray_of_roundsFault? (h : roundsFault? entries known = some fault) :
    fault.IsStray := by
  induction hn : known.length using Nat.strong_induction_on generalizing known with
  | _ n ih =>
    rw [roundsFault?] at h
    cases hfound : entries.findSome? fun e => obstacle? known e.2 with
    | some cause =>
      rw [hfound] at h
      obtain rfl := Option.some.inj h
      obtain ⟨e, -, he⟩ := List.exists_of_findSome?_eq_some hfound
      exact isStray_of_obstacle? he
    | none =>
      rw [hfound] at h
      dsimp only at h
      split_ifs at h with hlt
      exact ih _ (by simpa [Assoc.keys, ← hn] using hlt) h rfl

theorem isStray_of_nameFault? (h : nameFault? entries known = some fault) : fault.IsStray := by
  obtain ⟨⟨name, candidates⟩, -, he⟩ := List.exists_of_findSome?_eq_some h
  dsimp only at he
  split at he
  · next cause layout hname hnewest =>
    obtain rfl := Option.some.inj he
    exact isStray_of_nameText hname
  · simp at he

theorem isStray_of_fault? (h : fault? entries = some fault) : fault.IsStray := by
  unfold fault? at h
  dsimp only at h
  split at h
  · next cause hrounds =>
    obtain rfl := Option.some.inj h
    exact isStray_of_roundsFault? hrounds
  · exact isStray_of_nameFault? h

end Discovery

end WorldQuery
