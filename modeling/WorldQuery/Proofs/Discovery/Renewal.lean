import WorldQuery.Proofs.Store.Order

/-!
# One more definition of a name

Recording a definition renews one history. If the definition cannot be read, the rounds pass over
it: they find the same layouts, `round_record`, and stop at the same obstacles,
`roundsFault?_record`. If it counts as a text, it is no obstacle of its own, wherever it stands
among the definitions of its name: `obstacle?_insert`. For that every row counts, while a history
mentions a definition once: `obstacle?_history_iff` goes from the one to the other.
-/

namespace WorldQuery.Discovery

open Success

variable {entries : List (Datum × List Datum)} {known : List String} {candidates : List Datum}
  {owner latest : Datum}

/-! ### Definitions that are no texts -/

theorem asText_of_not_text {d : Datum} (h : ∀ text, d ≠ .text text) : asText d = "" := by
  unfold asText
  cases d with
  | text s => exact absurd rfl (h s)
  | blob bytes =>
    rw [Component.definitionText]
    split_ifs <;> rfl
  | _ => rfl

theorem readChars_empty (layout : Layout) : Layout.readChars known "".toList ≠ .ok layout := by
  rw [Layout.readChars, if_pos (by decide)]
  intro h
  cases h

theorem eq_text_of_readChars {d : Datum} {layout : Layout}
    (h : Layout.readChars known (asText d).toList = .ok layout) : d = .text (asText d) := by
  by_cases htext : ∃ text, d = .text text
  · obtain ⟨text, rfl⟩ := htext
    rfl
  · have hempty : asText d = "" := asText_of_not_text fun text hd => htext ⟨text, hd⟩
    rw [hempty] at h
    exact absurd h (readChars_empty layout)

/-- What the store takes for a definition that counts as a text is that definition. -/
theorem eq_of_beq_of_definitionText {d : Datum} {text : String} (hd : d.IsStored)
    (hlatest : Component.definitionText latest = .ok text) (h : (d == latest) = true) :
    d = latest := by
  cases latest with
  | text s => exact Datum.beq_text_iff.mp h
  | blob bytes =>
    have hstored : (Datum.blob bytes).IsStored := trivial
    exact (Datum.blob_beq_iff hd).mp (Datum.beq_symm hd hstored h)
  | null =>
    rw [Datum.beq_iff] at h
    cases d <;> simp [Store.compareData, Store.kindRank, compare, compareOfLessAndEq] at h ⊢
  | _ => simp [Component.definitionText] at hlatest

/-! ### Rounds over a definition that cannot be read -/

theorem Unreadable.mono {other : List String} {d : Datum} (hsub : known ⊆ other)
    (h : Unreadable other d) : Unreadable known d := by
  obtain ⟨text, htext, hnone⟩ := h
  exact ⟨text, htext, fun layout hread => hnone layout (Layout.readChars_mono hsub hread)⟩

theorem newest_cons_of_not_read {definition : String} {older : List String}
    (h : ∀ layout, Layout.readChars known definition.toList ≠ .ok layout) :
    newest known (definition :: older) = newest known older := by
  rw [newest]
  cases hread : Layout.readChars known definition.toList with
  | ok layout => exact absurd hread (h layout)
  | error cause => rfl

/-- Whatever finds the same after a renewal and nothing in a new entry finds the same as before. -/
theorem findSome?_record {β : Type} {f : Datum × List Datum → Option β}
    (hrenew : ∀ e ∈ entries, f (e.1, Component.renew e.2 latest) = f e)
    (hnew : f (owner, Component.renew [] latest) = none) :
    (Component.record entries (owner, latest)).findSome? f = entries.findSome? f := by
  induction entries with
  | nil => rw [Component.record, List.findSome?_cons, hnew]
  | cons e rest ih =>
    rw [Component.record]
    split_ifs
    · rw [List.findSome?_cons, List.findSome?_cons, hrenew e List.mem_cons_self]
    · rw [List.findSome?_cons, List.findSome?_cons,
        ih fun e he => hrenew e (List.mem_cons_of_mem _ he)]

section Unreadable

variable (hlatest : Unreadable known latest)

include hlatest

theorem Unreadable.not_read_of_beq {d : Datum} (hsame : (d == latest) = true) (layout : Layout) :
    Layout.readChars known (asText d).toList ≠ .ok layout := by
  intro hread
  obtain ⟨text, htext, hnone⟩ := hlatest
  rw [eq_text_of_readChars hread] at hsame
  have hself : latest = .text (asText d) := Datum.text_beq_iff.mp hsame
  obtain rfl : asText d = text := by
    rw [hself] at htext
    exact Except.ok.inj htext
  exact hnone layout hread

theorem newest_renew : newest known ((Component.renew candidates latest).map asText) =
    newest known (candidates.map asText) := by
  obtain ⟨text, htext, hnone⟩ := id hlatest
  rw [Component.renew, List.map_cons, asText_of_definitionText htext, newest_cons_of_not_read hnone]
  induction candidates with
  | nil => rfl
  | cons d older ih =>
    rw [List.erase_cons]
    split_ifs with hsame
    · rw [List.map_cons, newest_cons_of_not_read (hlatest.not_read_of_beq hsame)]
    · rw [List.map_cons, List.map_cons, newest, newest, ih]

/-- No round takes notice of it. -/
theorem round_record (entries : List (Datum × List Datum)) (owner : Datum) :
    round (textEntries (Component.record entries (owner, latest))) known =
      round (textEntries entries) known := by
  have hcons (e : Datum × List Datum) (rest : List (Datum × List Datum)) :
      round (textEntries (e :: rest)) known =
        round (textEntries [e]) known ++ round (textEntries rest) known := by
    rw [← List.singleton_append, textEntries, List.filterMap_append, round, List.filterMap_append]
    rfl
  have hrenew (name : Datum) (ds : List Datum) :
      round (textEntries [(name, Component.renew ds latest)]) known =
        round (textEntries [(name, ds)]) known := by
    cases name with
    | text n => simp only [textEntries, round, List.filterMap_cons, newest_renew hlatest]
    | _ => rfl
  induction entries with
  | nil =>
    rw [Component.record, hrenew]
    cases owner <;> simp [textEntries, round, newest]
  | cons e rest ih =>
    obtain ⟨name, ds⟩ := e
    rw [Component.record]
    split_ifs with hname
    · rw [hcons, hrenew, ← hcons]
    · rw [hcons, ih, ← hcons]

theorem nameFault?_record : nameFault? (Component.record entries (owner, latest)) known =
    nameFault? entries known := by
  unfold nameFault?
  apply findSome?_record
  · intro e he
    simp only [newest_renew hlatest]
  · simp only [newest_renew hlatest, List.map_nil, newest]
    cases Component.nameText owner <;> rfl

theorem obstacle?_cons_of_unreadable (older : List Datum) :
    obstacle? known (latest :: older) = obstacle? known older := by
  obtain ⟨text, htext, hnone⟩ := hlatest
  rw [obstacle?, htext]
  dsimp only
  cases hread : Layout.readChars known text.toList with
  | ok layout => exact absurd hread (hnone layout)
  | error cause => rfl

theorem obstacle?_erase (hstored : ∀ d ∈ candidates, d.IsStored) :
    obstacle? known (candidates.erase latest) = obstacle? known candidates := by
  obtain ⟨text, htext, -⟩ := id hlatest
  induction candidates with
  | nil => rfl
  | cons d older ih =>
    have hrest := ih fun e he => hstored e (List.mem_cons_of_mem _ he)
    rw [List.erase_cons]
    split_ifs with hsame
    · rw [eq_of_beq_of_definitionText (hstored d List.mem_cons_self) htext hsame,
        obstacle?_cons_of_unreadable hlatest]
    · rw [obstacle?, obstacle?, hrest]

theorem obstacle?_renew (hstored : ∀ d ∈ candidates, d.IsStored) :
    obstacle? known (Component.renew candidates latest) = obstacle? known candidates := by
  rw [Component.renew, obstacle?_cons_of_unreadable hlatest, obstacle?_erase hlatest hstored]

theorem findSome?_obstacle?_record (hstored : ∀ e ∈ entries, ∀ d ∈ e.2, d.IsStored) :
    ((Component.record entries (owner, latest)).findSome? fun e => obstacle? known e.2) =
      entries.findSome? fun e => obstacle? known e.2 := by
  apply findSome?_record
  · exact fun e he => obstacle?_renew hlatest (hstored e he)
  · exact obstacle?_cons_of_unreadable hlatest []

end Unreadable

theorem roundsFault?_record (hlatest : Unreadable known latest)
    (hstored : ∀ e ∈ entries, ∀ d ∈ e.2, d.IsStored) :
    roundsFault? (Component.record entries (owner, latest)) known =
      roundsFault? entries known := by
  induction hn : known.length using Nat.strong_induction_on generalizing known with
  | _ n ih =>
    rw [roundsFault?, roundsFault?, findSome?_obstacle?_record hlatest hstored,
      round_record hlatest]
    cases entries.findSome? fun e => obstacle? known e.2 with
    | some fault => rfl
    | none =>
      dsimp only
      split_ifs with hlt
      · have hshorter : (Assoc.keys (round (textEntries entries) known)).length < n := by
          simpa [Assoc.keys, ← hn] using hlt
        exact ih _ hshorter (hlatest.mono keys_round_subset) rfl
      · rfl

theorem isStored_history {pairs : List (Datum × Datum)} (h : ∀ pair ∈ pairs, pair.2.IsStored) :
    ∀ e ∈ Component.history pairs, ∀ d ∈ e.2, d.IsStored := by
  intro e he d hd
  obtain ⟨name, hpair, -⟩ := Component.exists_mem_of_mem_history he hd
  exact h _ hpair

theorem mem_keys_textEntries {name : String} :
    name ∈ Assoc.keys (textEntries entries) ↔ ∃ ds, (.text name, ds) ∈ entries := by
  constructor
  · intro h
    obtain ⟨⟨n, texts⟩, hmem, rfl⟩ := List.mem_map.mp h
    obtain ⟨ds, hds, -⟩ := mem_textEntries.mp hmem
    exact ⟨ds, hds⟩
  · rintro ⟨ds, hds⟩
    exact List.mem_map_of_mem (mem_textEntries.mpr ⟨ds, hds, rfl⟩)

/-- A definition of a name that is there, or that is no text, adds no text to the names. -/
theorem keys_textEntries_record
    (h : ∀ name, owner = .text name → name ∈ Assoc.keys (textEntries entries)) :
    Assoc.keys (textEntries (Component.record entries (owner, latest))) =
      Assoc.keys (textEntries entries) := by
  have hcons (e : Datum × List Datum) (rest : List (Datum × List Datum)) :
      Assoc.keys (textEntries (e :: rest)) =
        Assoc.keys (textEntries [e]) ++ Assoc.keys (textEntries rest) := by
    rw [← List.singleton_append, textEntries, List.filterMap_append, Assoc.keys, List.map_append]
    rfl
  have hrenew (name : Datum) (ds ds' : List Datum) :
      Assoc.keys (textEntries [(name, ds)]) = Assoc.keys (textEntries [(name, ds')]) := by
    cases name <;> rfl
  induction entries with
  | nil =>
    cases owner with
    | text name => exact absurd (h name rfl) List.not_mem_nil
    | _ => rfl
  | cons e rest ih =>
    obtain ⟨name, ds⟩ := e
    rw [Component.record]
    split_ifs with hname
    · rw [hcons, hrenew name _ ds, ← hcons]
    · have hrest : ∀ n, owner = .text n → n ∈ Assoc.keys (textEntries rest) := by
        intro n hn
        obtain ⟨ds', hmem⟩ := mem_keys_textEntries.mp (h n hn)
        rcases List.mem_cons.mp hmem with heq | hmem
        · obtain ⟨rfl, -⟩ := Prod.mk.inj heq
          rw [hn] at hname
          exact absurd (Datum.text_beq_iff.mpr rfl) hname
        · exact mem_keys_textEntries.mpr ⟨ds', hmem⟩
      rw [hcons, ih hrest, ← hcons]

/-! ### All definitions of a name -/

section Rows

variable {rows : List (String × Datum)} {name : String}

/-- The definitions of a name in all its rows, newest first. -/
def definitionsOf (rows : List (String × Datum)) (name : String) : List Datum :=
  rows.reverse.filterMap fun row => if name = row.1 then some row.2 else none

theorem definitionsOf_append_singleton (rows : List (String × Datum)) (row : String × Datum) :
    definitionsOf (rows ++ [row]) name =
      if name = row.1 then row.2 :: definitionsOf rows name else definitionsOf rows name := by
  rw [definitionsOf, List.reverse_append, List.reverse_singleton, List.singleton_append,
    List.filterMap_cons]
  split_ifs <;> rfl

/-- An earlier mention of the latest definition makes no difference. -/
theorem obstacle?_renew_eq_none_iff (hstored : ∀ d ∈ candidates, d.IsStored) :
    obstacle? known (Component.renew candidates latest) = none ↔
      obstacle? known (latest :: candidates) = none := by
  rw [Component.renew, obstacle?_cons_eq_none_iff, obstacle?_cons_eq_none_iff]
  refine exists_congr fun text => and_congr_right fun htext => ?_
  by_cases hread : ∃ layout, Layout.readChars known text.toList = .ok layout
  · exact iff_of_true (Or.inl hread) (Or.inl hread)
  · have hlatest : Unreadable known latest :=
      ⟨text, htext, fun layout hlayout => hread ⟨layout, hlayout⟩⟩
    rw [obstacle?_erase hlatest hstored]

theorem exists_mem_of_mem_get?_history {d : Datum}
    (h : d ∈ (Assoc.get? (Component.history rows) name).getD []) :
    ∃ owner, (owner, d) ∈ rows := by
  cases hget : Assoc.get? (Component.history rows) name with
  | none => simp [hget] at h
  | some ds =>
    rw [hget, Option.getD_some] at h
    obtain ⟨owner, hrow, -⟩ := Component.exists_mem_of_mem_history (Assoc.mem_of_get? hget) h
    exact ⟨owner, hrow⟩

theorem obstacle?_history_iff (hstored : ∀ row ∈ rows, row.2.IsStored) :
    obstacle? known ((Assoc.get? (Component.history rows) name).getD []) = none ↔
      obstacle? known (definitionsOf rows name) = none := by
  induction rows using List.reverseRecOn with
  | nil => rfl
  | append_singleton rows row ih =>
    have hbefore : ∀ row ∈ rows, row.2.IsStored := fun row hrow =>
      hstored row (List.mem_append_left _ hrow)
    have hmentioned : ∀ d ∈ (Assoc.get? (Component.history rows) name).getD [], d.IsStored := by
      intro d hd
      obtain ⟨owner, hrow⟩ := exists_mem_of_mem_get?_history hd
      exact hbefore _ hrow
    rw [Component.history_append_singleton, Component.get?_record, definitionsOf_append_singleton]
    split_ifs with hname
    · obtain rfl := hname
      rw [Option.getD_some, obstacle?_renew_eq_none_iff hmentioned, obstacle?_cons_eq_none_iff,
        obstacle?_cons_eq_none_iff, ih hbefore]
    · exact ih hbefore

theorem obstacle?_insert {d : Datum} {text : String} (hd : Component.definitionText d = .ok text)
    {newer older : List Datum} (h : obstacle? known (newer ++ older) = none) :
    obstacle? known (newer ++ d :: older) = none := by
  induction newer with
  | nil => exact obstacle?_cons_eq_none_iff.mpr ⟨text, hd, Or.inr h⟩
  | cons e newer ih =>
    obtain ⟨definition, hdefinition, hrest⟩ := obstacle?_cons_eq_none_iff.mp h
    exact obstacle?_cons_eq_none_iff.mpr ⟨definition, hdefinition, hrest.imp_right ih⟩

theorem obstacle?_definitionsOf_insert {lower upper : List (String × Datum)}
    {row : String × Datum} {text : String} (hrow : Component.definitionText row.2 = .ok text)
    (h : obstacle? known (definitionsOf (lower ++ upper) name) = none) :
    obstacle? known (definitionsOf (lower ++ row :: upper) name) = none := by
  unfold definitionsOf at h ⊢
  rw [List.reverse_append, List.filterMap_append] at h
  rw [List.reverse_append, List.reverse_cons, List.append_assoc, List.singleton_append,
    List.filterMap_append, List.filterMap_cons]
  split_ifs
  · exact obstacle?_insert hrow h
  · exact h

end Rows

end WorldQuery.Discovery
