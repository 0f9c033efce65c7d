import WorldQuery.Proofs.Statement.Marks

/-!
# Places

Every mark of a statement becomes a place, and every statement ends in a place of its own. If all
places are named `id` and there is one value for them, then the place at the end is the only one:
`placedWithin_append_ending`. Nothing before it can be a mark then, `no_marks_of_no_places`.
-/

namespace WorldQuery.Statement

/-- Characters that no mark or place begins with. -/
def PlainText (text : List Char) : Prop :=
  ∀ c ∈ text, c ≠ ':' ∧ c ≠ '%' ∧ c ≠ '[' ∧ c ≠ '\x00'

instance : DecidablePred PlainText := List.decidableBAll _

/-- The end of every statement, its own mark written as a place. -/
def ending : List Char := "%(id)s LIMIT 1".toList

theorem closeDashes_eq_some {text left : List Char} (h : closeLater.closeDashes text = some left) :
    ∃ inside, text = inside ++ ']' :: left := by
  induction text using closeLater.closeDashes.induct with
  | case1 rest =>
    obtain rfl := Option.some.inj h
    exact ⟨['~', '~'], rfl⟩
  | case2 rest hne =>
    rw [closeLater.closeDashes.eq_2 _ _ hne, if_pos rfl] at h
    simp at h
  | case3 c rest hne hc ih =>
    rw [closeLater.closeDashes.eq_2 _ _ hne, if_neg hc] at h
    obtain ⟨inside, rfl⟩ := ih h
    exact ⟨c :: inside, rfl⟩
  | case4 => simp [closeLater.closeDashes] at h

theorem closeLater_eq_some {text left : List Char} (h : closeLater text = some left) :
    ∃ inside, text = inside ++ ']' :: left := by
  unfold closeLater at h
  split at h
  · obtain rfl := Option.some.inj h
    exact ⟨[], rfl⟩
  · next c rest =>
    split_ifs at h
    obtain ⟨inside, rfl⟩ := closeDashes_eq_some h
    exact ⟨'~' :: '~' :: c :: inside, rfl⟩
  · simp at h

theorem laterName_eq_some {name text read left : List Char}
    (h : laterName name text = some (read, left)) : ∃ inside, text = inside ++ ']' :: left := by
  induction text generalizing name with
  | nil => simp [laterName] at h
  | cons c rest ih =>
    rw [laterName] at h
    split_ifs at h
    cases hclose : closeLater rest with
    | some found =>
      simp only [hclose, Option.some.injEq, Prod.mk.injEq] at h
      obtain ⟨inside, rfl⟩ := closeLater_eq_some hclose
      exact ⟨c :: inside, by rw [h.2]; rfl⟩
    | none =>
      simp only [hclose] at h
      obtain ⟨inside, rfl⟩ := ih h
      exact ⟨c :: inside, rfl⟩

theorem exists_append_ending {text inside left : List Char}
    (h : text ++ ending = inside ++ ']' :: left) :
    ∃ rest, left = rest ++ ending ∧ rest.length < text.length := by
  rcases List.append_eq_append_iff.mp h with ⟨more, -, hending⟩ | ⟨more, htext, hleft⟩
  · have hmem : ']' ∈ ending := by
      rw [hending]
      exact List.mem_append_right _ List.mem_cons_self
    exact absurd hmem (by decide)
  · cases more with
    | nil => exact absurd (List.cons.inj hleft).1 (by decide)
    | cons c more =>
      refine ⟨more, (List.cons.inj hleft).2, ?_⟩
      rw [htext, List.length_append, List.length_cons]
      omega

theorem place?_append_ending {text name shown left : List Char}
    (h : place? (text ++ ending) = some (name, shown, left)) (hname : name = ['i', 'd'])
    (hne : text ≠ []) : ∃ rest, left = rest ++ ending ∧ rest.length < text.length := by
  unfold place? at h
  split at h
  · next body heq =>
    obtain ⟨c, text, rfl⟩ := List.exists_cons_of_ne_nil hne
    obtain ⟨-, heq⟩ := List.cons.inj heq
    cases text with
    | nil => exact absurd (List.cons.inj heq).1 (by decide)
    | cons c' text =>
      have hbody : text ++ ending = body := (List.cons.inj heq).2
      subst hbody
      have hcut := List.takeWhile_append_dropWhile (p := (· != ')')) (l := text ++ ending)
      split at h
      · next after hdrop =>
        dsimp only at h
        split_ifs at h
        simp only [Option.some.injEq, Prod.mk.injEq] at h
        obtain ⟨htake, -, rfl⟩ := h
        rw [hdrop, htake, hname] at hcut
        have hcut' : text ++ ending = ['i', 'd', ')', 's'] ++ after := hcut.symm
        rcases List.append_eq_append_iff.mp hcut' with ⟨more, hplace, hending⟩ | ⟨more, rfl, rfl⟩
        · cases more with
          | nil => exact ⟨[], hending.symm, by simp⟩
          | cons d more =>
            have hd : '%' = d := (List.cons.inj hending).1
            have hmem : '%' ∈ ['i', 'd', ')', 's'] := by
              rw [hplace, hd]
              exact List.mem_append_right _ List.mem_cons_self
            exact absurd hmem (by decide)
        · exact ⟨more, rfl, by simp; omega⟩
      · simp at h
  · split_ifs at h with hmark
    obtain ⟨⟨found, rest⟩, hlater, heq⟩ := Option.map_eq_some_iff.mp h
    obtain ⟨inside, hinside⟩ := laterName_eq_some hlater
    obtain ⟨more, hmore⟩ := List.isPrefixOf_iff_prefix.mp hmark
    rw [← hmore, List.drop_left] at hinside
    obtain rfl : rest = left := by simpa using congrArg (·.2.2) heq
    have hsplit : text ++ ending = laterMark ++ inside ++ ']' :: rest := by
      rw [← hmore, hinside, List.append_assoc]
    exact exists_append_ending hsplit

theorem placedWithin_ending {room : Nat} (hroom : ending.length ≤ room) :
    placedWithin room ending = ⟨"? LIMIT 1".toList, [idParameter]⟩ := by
  obtain ⟨more, rfl⟩ := Nat.exists_eq_add_of_le' hroom
  rfl

/-- If all places of a statement are named `id` and there is only one, then it is the one at the
end: the text before it stands as it is. -/
theorem placedWithin_append_ending {room : Nat} {text : List Char}
    (hroom : (text ++ ending).length ≤ room)
    (hnames : ∀ name ∈ (placedWithin room (text ++ ending)).names, name = idParameter) :
    (placedWithin room (text ++ ending)).names ≠ [] ∧
      ((placedWithin room (text ++ ending)).names.length = 1 →
        (placedWithin room (text ++ ending)).text = text ++ "? LIMIT 1".toList ∧
          ∀ before rest, text = before ++ rest → rest ≠ [] →
            place? (rest ++ ending) = none) := by
  induction room generalizing text with
  | zero =>
    have hpos : 0 < ending.length := by decide
    rw [List.length_append] at hroom
    omega
  | succ room ih =>
    cases text with
    | nil =>
      rw [List.nil_append] at hroom
      rw [List.nil_append, placedWithin_ending hroom]
      refine ⟨List.cons_ne_nil _ _, fun _ => ⟨(List.nil_append _).symm, ?_⟩⟩
      intro before rest heq hne
      exact absurd (List.append_eq_nil_iff.mp heq.symm).2 hne
    | cons c text =>
      have hsize : (text ++ ending).length ≤ room := by simpa using hroom
      cases hplace : place? (c :: text ++ ending) with
      | none =>
        have hstep : placedWithin (room + 1) (c :: text ++ ending) =
            ⟨c :: (placedWithin room (text ++ ending)).text,
              (placedWithin room (text ++ ending)).names⟩ := by
          rw [List.cons_append] at hplace ⊢
          rw [placedWithin, hplace]
        rw [hstep] at hnames ⊢
        obtain ⟨hsome, hone⟩ := ih hsize hnames
        refine ⟨hsome, fun hlength => ?_⟩
        obtain ⟨htext, hnone⟩ := hone hlength
        refine ⟨by rw [htext]; rfl, fun before rest heq hne => ?_⟩
        cases before with
        | nil => rwa [← List.nil_append rest, ← heq]
        | cons d before => exact hnone before rest (List.cons.inj heq).2 hne
      | some found =>
        obtain ⟨name, shown, left⟩ := found
        have hstep : placedWithin (room + 1) (c :: text ++ ending) =
            ⟨shown ++ (placedWithin room left).text,
              String.ofList name :: (placedWithin room left).names⟩ := by
          rw [List.cons_append] at hplace ⊢
          rw [placedWithin, hplace]
        rw [hstep] at hnames ⊢
        have hname : name = ['i', 'd'] := by
          have hid := hnames _ List.mem_cons_self
          simpa [idParameter] using congrArg String.toList hid
        obtain ⟨rest, rfl, hrest⟩ := place?_append_ending hplace hname (by simp)
        have hsize' : (rest ++ ending).length ≤ room := by
          rw [List.length_append] at hsize ⊢
          rw [List.length_cons] at hrest
          omega
        obtain ⟨hsome, -⟩ := ih hsize' fun n hn => hnames n (List.mem_cons_of_mem _ hn)
        refine ⟨by simp, fun hlength => ?_⟩
        exact absurd (List.length_eq_zero_iff.mp (by simpa using hlength)) hsome

theorem place?_named {name : List Char} (hne : name ≠ []) (hname : ∀ c ∈ name, c ≠ ')')
    (left : List Char) :
    place? ('%' :: '(' :: (name ++ ')' :: 's' :: left)) = some (name, ['?'], left) := by
  have hstop : (')' != ')') = false := rfl
  have hall : ∀ c ∈ name, (c != ')') = true := fun c hc => by simpa using hname c hc
  have htake : (name ++ ')' :: 's' :: left).takeWhile (· != ')') = name := by
    rw [List.takeWhile_append_of_pos hall]
    simp
  have hdrop : (name ++ ')' :: 's' :: left).dropWhile (· != ')') = ')' :: 's' :: left := by
    rw [List.dropWhile_append_of_pos hall]
    simp
  simp only [place?, htake, hdrop]
  rw [if_neg (by simpa using hne)]

/-- A mark becomes a place, so a text without places has no marks. -/
theorem no_marks_of_no_places {text : List Char}
    (h : ∀ before rest, unescaped (withPlaces (parts ' ' text)) ++ [' '] = before ++ rest →
      rest ≠ [] → place? (rest ++ ending) = none) (name : String) :
    .mark name ∉ parts ' ' text := by
  intro hmem
  obtain ⟨hne, hchars⟩ := mark_mem_parts hmem
  have hslash : '\\' ∉ '(' :: (name.toList ++ [')', 's']) := by
    have hmark : isMarkChar '\\' = false := not_isMarkChar (by decide)
    intro hmem
    simp only [List.mem_cons, List.mem_append, List.not_mem_nil, or_false] at hmem
    rcases hmem with heq | hmem | heq | heq
    · exact absurd heq (by decide)
    · simp [hchars _ hmem] at hmark
    · exact absurd heq (by decide)
    · exact absurd heq (by decide)
  have hclose : ∀ c ∈ name.toList, c ≠ ')' := by
    have hmark : isMarkChar ')' = false := not_isMarkChar (by decide)
    rintro c hc rfl
    simp [hchars _ hc] at hmark
  obtain ⟨first, last, hparts⟩ := List.append_of_mem hmem
  have hplaces : withPlaces (parts ' ' text) =
      withPlaces first ++ '%' :: ('(' :: (name.toList ++ [')', 's']) ++ withPlaces last) := by
    rw [hparts]
    simp [withPlaces]
  have hunescaped : unescaped (withPlaces (parts ' ' text)) = unescaped (withPlaces first) ++
      '%' :: '(' :: (name.toList ++ ')' :: 's' :: unescaped (withPlaces last)) := by
    rw [hplaces, unescaped_append_stop (not_isMarkChar (by decide)) (by decide) (by decide),
      unescaped_of_not_mem hslash]
    simp
  have hnone := h (unescaped (withPlaces first))
    ('%' :: '(' :: (name.toList ++ ')' :: 's' :: (unescaped (withPlaces last) ++ [' '])))
    (by rw [hunescaped]; simp) (by simp)
  rw [List.cons_append, List.cons_append, List.append_assoc, List.cons_append, List.cons_append,
    place?_named hne hclose] at hnone
  simp at hnone

end WorldQuery.Statement
