import WorldQuery.Layout
import WorldQuery.Proofs.Text.Pieces

/-!
# What the reading of a definition depends on

A definition is read against the known record types, but only the references of the layout that
comes out depend on them: `readChars_of_references` moves a reading to any other names among which
its references are. What every layout that was read has in common is `Layout.WellFormed`.
-/

namespace WorldQuery.Layout

open Text

variable {known other : List String}

/-! ### Characters of names -/

theorem isNameStart_iff {c : Char} :
    isNameStart c = true ↔
      c.toNat = 0x5F ∨ (0x41 ≤ c.toNat ∧ c.toNat ≤ 0x5A) ∨ 0x61 ≤ c.toNat ∧ c.toNat ≤ 0x7A := by
  have hund : c = '_' ↔ c.toNat = 0x5F := ⟨fun h => h ▸ rfl, fun h => Char.toNat_inj.mp h⟩
  simp only [isNameStart, Bool.or_eq_true, beq_iff_eq, Bool.and_eq_true, decide_eq_true_eq,
    hund, or_assoc]
  rfl

theorem isNamePart_iff {c : Char} :
    isNamePart c = true ↔
      isNameStart c = true ∨ 0x30 ≤ c.toNat ∧ c.toNat ≤ 0x39 := by
  simp only [isNamePart, Bool.or_eq_true, Bool.and_eq_true, decide_eq_true_eq]
  rfl

theorem blankRanges_outside :
    (blankRanges.all fun r => r.2 < 0x30 || 0x7A < r.1) = true := by
  decide

theorem isBlank_of_isNamePart {c : Char} (h : isNamePart c = true) : isBlank c = false := by
  have hcode : 0x30 ≤ c.toNat ∧ c.toNat ≤ 0x7A := by
    rw [isNamePart_iff, isNameStart_iff] at h
    omega
  rw [isBlank, ← Bool.not_eq_true, inRanges_iff]
  rintro ⟨r, hr, hlo, hhi⟩
  have htable := List.all_eq_true.mp blankRanges_outside r hr
  simp only [Bool.or_eq_true, decide_eq_true_eq] at htable
  omega

/-! ### References -/

theorem resolve_object_mem {word name : String} (h : resolve known word = .ok (.object name)) :
    name ∈ known := by
  unfold resolve at h
  split at h
  · simp at h
  · split_ifs at h with hword
    cases h
    simpa using hword

theorem resolve_of_references {word : String} {type : TypeRef} (h : resolve known word = .ok type)
    (href : ∀ name, type = .object name → name ∈ other) : resolve other word = .ok type := by
  unfold resolve at h ⊢
  split at h
  · exact h
  · split_ifs at h with hword
    have hother : word ∈ other := href word (by cases h; rfl)
    rw [if_pos (by simpa using hother)]
    exact h

theorem readPair_eq_ok_iff {position : Nat} {earlier : Layout} {pair : List Char} {name : String}
    {type : TypeRef} :
    readPair known position earlier pair = .ok (name, type) ↔
      ∃ left right, cutAt ':' pair = some (left, right) ∧ isFieldName (trim left) = true ∧
        name = String.ofList (trim left) ∧ Assoc.has earlier name = false ∧
        resolve known (String.ofList (trim right)) = .ok type := by
  unfold readPair
  cases hcut : cutAt ':' pair with
  | none => simp
  | some parts =>
    obtain ⟨left, right⟩ := parts
    dsimp only
    constructor
    · intro h
      split_ifs at h with hname hhas
      cases hres : resolve known (String.ofList (trim right)) with
      | error cause => simp [hres, Except.map] at h
      | ok found =>
        simp only [hres, Except.map, Except.ok.injEq, Prod.mk.injEq] at h
        obtain ⟨rfl, rfl⟩ := h
        exact ⟨left, right, rfl, by simpa using hname, rfl, by simpa using hhas, hres⟩
    · rintro ⟨l, r, hparts, hname, rfl, hhas, hres⟩
      obtain ⟨rfl, rfl⟩ : left = l ∧ right = r := by simpa using hparts
      simp [hname, hhas, hres, Except.map]

theorem readPairs_cons_eq_ok_iff {position : Nat} {earlier layout : Layout} {pair : List Char}
    {rest : List (List Char)} :
    readPairs known position earlier (pair :: rest) = .ok layout ↔
      ∃ field, readPair known position earlier pair = .ok field ∧
        readPairs known (position + 1) (earlier ++ [field]) rest = .ok layout := by
  rw [readPairs]
  cases readPair known position earlier pair with
  | error cause => simp [bind, Except.bind]
  | ok field => simp [bind, Except.bind]

theorem readPairs_eq_append {position : Nat} {earlier layout : Layout} {pairs : List (List Char)}
    (h : readPairs known position earlier pairs = .ok layout) :
    ∃ fields, layout = earlier ++ fields ∧ fields.length = pairs.length := by
  induction pairs generalizing position earlier with
  | nil =>
    simp only [readPairs, Except.ok.injEq] at h
    exact ⟨[], by simp [h], rfl⟩
  | cons pair rest ih =>
    obtain ⟨field, -, hrest⟩ := readPairs_cons_eq_ok_iff.mp h
    obtain ⟨fields, rfl, hlen⟩ := ih hrest
    exact ⟨field :: fields, by simp, by simp [hlen]⟩

theorem readPairs_of_references {position : Nat} {earlier layout : Layout}
    {pairs : List (List Char)} (h : readPairs known position earlier pairs = .ok layout)
    (href : ∀ field name, (field, TypeRef.object name) ∈ layout → name ∈ other) :
    readPairs other position earlier pairs = .ok layout := by
  induction pairs generalizing position earlier with
  | nil => exact h
  | cons pair rest ih =>
    obtain ⟨⟨name, type⟩, hpair, hrest⟩ := readPairs_cons_eq_ok_iff.mp h
    obtain ⟨fields, hlayout, -⟩ := readPairs_eq_append hrest
    obtain ⟨left, right, hcut, hname, rfl, hhas, hres⟩ := readPair_eq_ok_iff.mp hpair
    have hres' : resolve other (String.ofList (trim right)) = .ok type := by
      apply resolve_of_references hres
      rintro target rfl
      exact href (String.ofList (trim left)) target (by simp [hlayout])
    exact readPairs_cons_eq_ok_iff.mpr
      ⟨_, readPair_eq_ok_iff.mpr ⟨left, right, hcut, hname, rfl, hhas, hres'⟩, ih hrest⟩

/-- A layout with at least one field, whose fields have different names and refer to known record
types only. -/
structure WellFormed (known : List String) (layout : Layout) : Prop where
  ne_nil : layout ≠ []
  isFieldName : ∀ name ∈ Assoc.keys layout, isFieldName name.toList = true
  nodup : (Assoc.keys layout).Nodup
  references : ∀ field name, (field, TypeRef.object name) ∈ layout → name ∈ known

theorem readPairs_wellFormed {position : Nat} {earlier layout : Layout}
    {pairs : List (List Char)} (h : readPairs known position earlier pairs = .ok layout)
    (hne : earlier ≠ [] ∨ pairs ≠ [])
    (hname : ∀ name ∈ Assoc.keys earlier, isFieldName name.toList = true)
    (hnodup : (Assoc.keys earlier).Nodup)
    (href : ∀ field name, (field, TypeRef.object name) ∈ earlier → name ∈ known) :
    WellFormed known layout := by
  induction pairs generalizing position earlier with
  | nil =>
    simp only [readPairs, Except.ok.injEq] at h
    subst h
    exact ⟨by simpa using hne, hname, hnodup, href⟩
  | cons pair rest ih =>
    obtain ⟨⟨name, type⟩, hpair, hrest⟩ := readPairs_cons_eq_ok_iff.mp h
    obtain ⟨left, right, -, hfield, hleft, hhas, hres⟩ := readPair_eq_ok_iff.mp hpair
    apply ih hrest
    · left
      simp
    · intro other hother
      simp only [Assoc.keys, List.map_append, List.map_cons, List.map_nil, List.mem_append,
        List.mem_singleton] at hother
      rcases hother with hother | rfl
      · exact hname other hother
      · rw [hleft, String.toList_ofList]
        exact hfield
    · have hnew : name ∉ Assoc.keys earlier := by simpa [Assoc.has] using hhas
      rw [Assoc.keys, List.map_append]
      exact List.Nodup.append hnodup (by simp) (by simpa [Assoc.keys] using hnew)
    · intro field target hmem
      rcases List.mem_append.mp hmem with hmem | hmem
      · exact href field target hmem
      · obtain ⟨-, rfl⟩ : field = name ∧ TypeRef.object target = type := by simpa using hmem
        exact resolve_object_mem hres

/-- A reading stands for all other known names that contain its references. -/
theorem readChars_of_references {definition : List Char} {layout : Layout}
    (h : readChars known definition = .ok layout)
    (href : ∀ field name, (field, TypeRef.object name) ∈ layout → name ∈ other) :
    readChars other definition = .ok layout := by
  unfold readChars at h ⊢
  split_ifs at h ⊢ with hblank
  exact readPairs_of_references h href

theorem readChars_wellFormed {definition : List Char} {layout : Layout}
    (h : readChars known definition = .ok layout) : WellFormed known layout := by
  unfold readChars at h
  split_ifs at h with hblank
  exact readPairs_wellFormed h (Or.inr (pieces_ne_nil _ _)) (by simp [Assoc.keys])
    (by simp [Assoc.keys]) (by simp)

theorem readChars_mono {definition : List Char} {layout : Layout} (hsub : known ⊆ other)
    (h : readChars known definition = .ok layout) : readChars other definition = .ok layout :=
  readChars_of_references h fun field name hmem =>
    hsub ((readChars_wellFormed h).references field name hmem)

theorem read_eq_ok_iff {owner definition : String} {layout : Layout} :
    read known owner definition = .ok layout ↔
      readChars known definition.toList = .ok layout := by
  unfold read
  cases readChars known definition.toList <;> simp [Except.mapError]

end WorldQuery.Layout
