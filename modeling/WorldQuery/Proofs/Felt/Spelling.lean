import WorldQuery.Proofs.Felt.Texts

/-!
# The documented spelling of field elements

A field element is to be spelled with `0x` and hexadecimal digits, or with decimal digits, in ASCII:
`Felt.WellFormed`. All such texts are accepted, but others are, too. `Felt.Slack` names what an
accepted text can have beyond that spelling, and `accepts_iff` says that there is nothing else.
-/

namespace WorldQuery.Felt

open Number Text Success

variable {core : List Char} {n : Nat}

def IsAsciiHex (c : Char) : Prop := '0' ≤ c ∧ c ≤ '9' ∨ 'a' ≤ c ∧ c ≤ 'f' ∨ 'A' ≤ c ∧ c ≤ 'F'

def IsAsciiDecimal (c : Char) : Prop := '0' ≤ c ∧ c ≤ '9'

/-- The documented spelling of a field element. -/
inductive WellFormed : List Char → Prop
  | hexadecimal {x : Char} {rest : List Char} : x = 'x' ∨ x = 'X' → rest ≠ [] →
      (∀ c ∈ rest, IsAsciiHex c) → WellFormed ('0' :: x :: rest)
  | decimal {text : List Char} : text ≠ [] → text.length ≤ digitLimit →
      (∀ c ∈ text, IsAsciiDecimal c) → WellFormed text

/-- A character that has no place in the documented spelling: an underscore, a sign, a blank, or a
character beyond ASCII. -/
def Foreign (c : Char) : Prop :=
  c = '_' ∨ c = '+' ∨ c = '-' ∨ isNumeralBlank c = true ∨ 128 ≤ c.toNat

/-- What an accepted text can have that the documented spelling does not: a foreign character, or a
second mark. -/
def Slack (core : List Char) : Prop :=
  (∃ c ∈ core, Foreign c) ∨ ∃ c ∈ core.drop 2, c = 'x' ∨ c = 'X'

/-! ### Characters -/

instance (c : Char) : Decidable (IsAsciiHex c) := inferInstanceAs (Decidable (_ ∨ _))

instance (c : Char) : Decidable (IsAsciiDecimal c) := inferInstanceAs (Decidable (_ ∧ _))

instance (c : Char) : Decidable (Foreign c) := inferInstanceAs (Decidable (_ ∨ _))

theorem isSome_digitIn_iff {c : Char} (hc : c.toNat < 128) :
    (digitIn 16 c).isSome = true ↔ IsAsciiHex c :=
  forall_ascii (P := fun c => (digitIn 16 c).isSome = true ↔ IsAsciiHex c) (by decide +kernel) hc

theorem isSome_decimalValue?_iff {c : Char} (hc : c.toNat < 128) :
    (decimalValue? c).isSome = true ↔ IsAsciiDecimal c :=
  forall_ascii (P := fun c => (decimalValue? c).isSome = true ↔ IsAsciiDecimal c)
    (by decide +kernel) hc

theorem IsAsciiDecimal.isAsciiHex {c : Char} (h : IsAsciiDecimal c) : IsAsciiHex c := Or.inl h

theorem IsAsciiHex.toNat_lt {c : Char} (h : IsAsciiHex c) : c.toNat < 128 := by
  rcases h with ⟨-, h⟩ | ⟨-, h⟩ | ⟨-, h⟩
  · have hle : c.toNat ≤ 57 := h
    omega
  · have hle : c.toNat ≤ 102 := h
    omega
  · have hle : c.toNat ≤ 70 := h
    omega

theorem IsAsciiHex.plain {c : Char} (h : IsAsciiHex c) : ¬Foreign c ∧ c ≠ 'x' ∧ c ≠ 'X' := by
  refine forall_ascii (P := fun c => IsAsciiHex c → ¬Foreign c ∧ c ≠ 'x' ∧ c ≠ 'X') ?_ h.toNat_lt h
  decide +kernel

theorem toNat_lt_of_not_foreign {c : Char} (h : ¬Foreign c) : c.toNat < 128 :=
  not_le.mp fun hle => h (Or.inr (Or.inr (Or.inr (Or.inr hle))))

/-! ### Well-formed texts are accepted -/

theorem digitText_of_forall {text : List Char} (hne : text ≠ [])
    (h : ∀ c ∈ text, (digitIn 16 c).isSome = true) : ∃ ds, DigitText 16 text ds := by
  induction text with
  | nil => exact absurd rfl hne
  | cons c rest ih =>
    obtain ⟨hc, hrest⟩ := List.forall_mem_cons.mp h
    obtain ⟨d, hd⟩ := Option.isSome_iff_exists.mp hc
    cases rest with
    | nil => exact ⟨[d], .last hd⟩
    | cons c' rest =>
      obtain ⟨ds, hds⟩ := ih (by simp) hrest
      exact ⟨d :: ds, .digit hd hds⟩

theorem exists_values {text : List Char} (h : ∀ c ∈ text, (decimalValue? c).isSome = true) :
    ∃ ds : List Nat, text.map decimalValue? = ds.map some := by
  induction text with
  | nil => exact ⟨[], rfl⟩
  | cons c rest ih =>
    obtain ⟨hc, hrest⟩ := List.forall_mem_cons.mp h
    obtain ⟨d, hd⟩ := Option.isSome_iff_exists.mp hc
    obtain ⟨ds, hds⟩ := ih hrest
    exact ⟨d :: ds, by rw [List.map_cons, List.map_cons, hd, hds]⟩

theorem WellFormed.exists_elementText (h : WellFormed core) : ∃ n, ElementText core n := by
  cases h with
  | hexadecimal hx hne hrest =>
    obtain ⟨ds, hds⟩ := digitText_of_forall hne fun c hc =>
      (isSome_digitIn_iff (hrest c hc).toNat_lt).mpr (hrest c hc)
    exact ⟨ofDigits 16 ds, .hexadecimal hx ⟨[], [], [], _, [], false, ds, by simp, by simp,
      by simp, .none, .none, hds, by simp, rfl⟩⟩
  | decimal hne hlimit hdigits =>
    obtain ⟨ds, hds⟩ := exists_values fun c hc =>
      (isSome_decimalValue?_iff (hdigits c hc).isAsciiHex.toNat_lt).mpr (hdigits c hc)
    exact ⟨ofDigits 10 ds, .decimal hne hds (length_of_values hds ▸ hlimit)⟩

theorem WellFormed.not_slack (h : WellFormed core) : ¬Slack core := by
  cases h with
  | @hexadecimal x rest hx _ hrest =>
    rintro (⟨c, hc, hforeign⟩ | ⟨c, hc, hmark⟩)
    · rcases List.mem_cons.mp hc with rfl | hc
      · exact absurd hforeign (by decide)
      · rcases List.mem_cons.mp hc with rfl | hc
        · revert hforeign
          rcases hx with rfl | rfl <;> decide
        · exact (hrest c hc).plain.1 hforeign
    · obtain ⟨-, hsmall, hlarge⟩ := (hrest c hc).plain
      exact hmark.elim hsmall hlarge
  | decimal _ _ hdigits =>
    rintro (⟨c, hc, hforeign⟩ | ⟨c, hc, hmark⟩)
    · exact (hdigits c hc).isAsciiHex.plain.1 hforeign
    · obtain ⟨-, hsmall, hlarge⟩ := (hdigits c (List.mem_of_mem_drop hc)).isAsciiHex.plain
      exact hmark.elim hsmall hlarge

/-! ### What else is accepted -/

theorem isSome_of_mem_digitText {text : List Char} {ds : List Nat} (h : DigitText 16 text ds) :
    ∀ c ∈ text, c = '_' ∨ (digitIn 16 c).isSome = true := by
  induction h with
  | last hc => simp [hc]
  | digit hc _ ih => simpa [hc] using ih
  | underscore hc _ ih => simpa [hc] using ih

theorem ElementText.wellFormed (h : ElementText core n) (hslack : ¬Slack core) :
    WellFormed core := by
  have hforeign : ∀ c ∈ core, ¬Foreign c := fun c hc hf => hslack (Or.inl ⟨c, hc, hf⟩)
  cases h with
  | @hexadecimal x rest n hx hnumeral =>
    have hmarks : ∀ c ∈ rest, c ≠ 'x' ∧ c ≠ 'X' := fun c hc =>
      ⟨fun h => hslack (Or.inr ⟨c, hc, Or.inl h⟩), fun h => hslack (Or.inr ⟨c, hc, Or.inr h⟩)⟩
    have hplain : ∀ c ∈ rest, ¬Foreign c := fun c hc =>
      hforeign c (List.mem_cons_of_mem _ (List.mem_cons_of_mem _ hc))
    obtain ⟨before, sign, mark, digits, after, negative, ds, rfl, hbefore, hafter, hsign, hmark,
      hdigits, -, -⟩ := hnumeral
    simp only [List.forall_mem_append] at hmarks hplain
    obtain ⟨hplainBefore, hplainSign, -, hplainDigits, hplainAfter⟩ := hplain
    have hnil : ∀ {text : List Char}, (∀ c ∈ text, isNumeralBlank c = true) →
        (∀ c ∈ text, ¬Foreign c) → text = [] := by
      intro text hblank hnot
      refine List.eq_nil_iff_forall_not_mem.mpr fun c hc => hnot c hc ?_
      exact Or.inr (Or.inr (Or.inr (Or.inl (hblank c hc))))
    obtain rfl := hnil hbefore hplainBefore
    obtain rfl := hnil hafter hplainAfter
    obtain rfl : sign = [] := by
      cases hsign with
      | none => rfl
      | plus => exact absurd (by decide) (hplainSign '+' (by simp))
      | minus => exact absurd (by decide) (hplainSign '-' (by simp))
    obtain rfl : mark = [] := by
      have hletter : ∀ x ∈ mark, x ≠ 'x' ∧ x ≠ 'X' := hmarks.2.2.1
      cases hmark with
      | none => rfl
      | @mark zero x _ _ hx | @underscore zero x _ _ hx =>
        obtain ⟨hsmall, hlarge⟩ := hletter x (by simp)
        exact absurd hx (by simp [hsmall, hlarge])
    have hne : digits ≠ [] := by
      obtain ⟨c, more, d, rfl, -⟩ := hdigits.exists_cons
      simp
    rw [List.append_nil]
    refine .hexadecimal hx hne fun c hc => ?_
    have hnot := hplainDigits c hc
    refine (isSome_digitIn_iff (toNat_lt_of_not_foreign hnot)).mp ?_
    exact (isSome_of_mem_digitText hdigits c hc).resolve_left fun h => hnot (Or.inl h)
  | @decimal _ ds hne hvalues hlimit =>
    refine .decimal hne (length_of_values hvalues ▸ hlimit) fun c hc => ?_
    have hcode := toNat_lt_of_not_foreign (hforeign c hc)
    exact (isSome_decimalValue?_iff hcode).mp (isSome_of_values hvalues c hc)

/-- The texts with a canonical text are those whose core is a field element by the grammar of
numerals. The documented spelling is that of the accepted texts without slack. -/
theorem canonical_accepts_iff (s : String) :
    ((∃ t, canonical (.text s) = .ok t) ↔ ∃ n, ElementText (trim s.toList) n) ∧
      (WellFormed (trim s.toList) ↔
        (∃ t, canonical (.text s) = .ok t) ∧ ¬Slack (trim s.toList)) := by
  have haccepts : (∃ t, canonical (.text s) = .ok t) ↔ ∃ n, ElementText (trim s.toList) n := by
    simp only [canonical_eq_ok_iff, denotes_text_iff]
    exact ⟨fun ⟨t, n, hn, _⟩ => ⟨n, hn⟩, fun ⟨n, hn⟩ => ⟨_, n, hn, rfl⟩⟩
  refine ⟨haccepts, fun h => ⟨haccepts.mpr h.exists_elementText, h.not_slack⟩, ?_⟩
  rintro ⟨haccepted, hslack⟩
  obtain ⟨n, hn⟩ := haccepts.mp haccepted
  exact hn.wellFormed hslack

/-- A second mark, an underscore and a digit of another script are read, though none of them has a
place in the documented spelling. -/
theorem canonical_accepts_slack :
    (canonical (.text "0x0x5") = .ok "0x5" ∧ ¬WellFormed "0x0x5".toList) ∧
      (canonical (.text "0x1_0") = .ok "0x10" ∧ ¬WellFormed "0x1_0".toList) ∧
        canonical (.text "٣") = .ok "0x3" ∧ ¬WellFormed "٣".toList := by
  have hmark : Slack "0x0x5".toList := Or.inr ⟨'x', by decide, Or.inl rfl⟩
  have hunderscore : Slack "0x1_0".toList := Or.inl ⟨'_', by decide, by decide⟩
  have hscript : Slack "٣".toList := Or.inl ⟨'٣', by decide, by decide⟩
  refine ⟨⟨rfl, fun h => ?_⟩, ⟨rfl, fun h => ?_⟩, rfl, fun h => ?_⟩
  · exact ((canonical_accepts_iff "0x0x5").2.mp h).2 hmark
  · exact ((canonical_accepts_iff "0x1_0").2.mp h).2 hunderscore
  · exact ((canonical_accepts_iff "٣").2.mp h).2 hscript

end WorldQuery.Felt
