import WorldQuery.Proofs.Statement.Places

/-!
# What a statement names

A name goes into a statement between quotes, but the marks of parameters are looked for inside the
quotes too. A statement that is prepared and binds one value therefore contains no mark besides its
own `:id`, and names what is left of its names when backslashes before colons are dropped:
`Prepared.of_eq_ok`. Names in which no colon, percent sign or bracket occurs are named as they are:
`faithful_of_plain`.
-/

namespace WorldQuery.Statement

/-- Names between quotes, each behind a text of its own, and a text behind them all. -/
def listing (names : List (List Char × String)) (behind : List Char) : List Char :=
  names.flatMap (fun entry => entry.1 ++ quotedName entry.2) ++ behind

/-- What stands between names in a statement. -/
@[mk_iff]
structure Separates (text : List Char) : Prop where
  ne_nil : text ≠ []
  no_quote : '"' ∉ text
  no_backslash : '\\' ∉ text
  plain : PlainText text

instance : DecidablePred Separates := fun _ =>
  decidable_of_iff _ (separates_iff _).symm

theorem listing_cons (entry : List Char × String) (names : List (List Char × String))
    (behind : List Char) :
    listing (entry :: names) behind = entry.1 ++ (quotedName entry.2 ++ listing names behind) := by
  simp [listing]

theorem head?_listing_ne {names : List (List Char × String)} {behind : List Char}
    (hnames : ∀ entry ∈ names, Separates entry.1) (hbehind : '"' ∉ behind) :
    (listing names behind).head? ≠ some '"' := by
  cases names with
  | nil =>
    intro heq
    exact hbehind (List.mem_of_mem_head? heq)
  | cons entry names =>
    have hentry := hnames entry List.mem_cons_self
    obtain ⟨c, text, htext⟩ := List.exists_cons_of_ne_nil hentry.ne_nil
    have hquote := hentry.no_quote
    rw [listing_cons, htext]
    rw [htext] at hquote
    intro heq
    exact hquote (Option.some.inj heq ▸ List.mem_cons_self)

theorem unescaped_listing {names : List (List Char × String)} {behind : List Char}
    (hnames : ∀ entry ∈ names, Separates entry.1) (hbehind : '\\' ∉ behind) :
    unescaped (listing names behind) =
      listing (names.map fun entry => (entry.1, spelled entry.2)) behind := by
  induction names with
  | nil => simpa [listing, unescaped] using unescaped_of_not_mem hbehind []
  | cons entry names ih =>
    rw [listing_cons, unescaped_of_not_mem (hnames entry List.mem_cons_self).no_backslash,
      unescaped_quotedName_append, ih fun e he => hnames e (List.mem_cons_of_mem _ he),
      List.map_cons, listing_cons]

theorem quotedNames_listing {names : List (List Char × String)} {behind : List Char}
    (hnames : ∀ entry ∈ names, Separates entry.1) (hbehind : '"' ∉ behind) :
    quotedNames none (listing names behind) = names.map (·.2) := by
  induction names with
  | nil => simpa [listing, quotedNames] using quotedNames_of_not_mem hbehind []
  | cons entry names ih =>
    have hrest : ∀ e ∈ names, Separates e.1 := fun e he => hnames e (List.mem_cons_of_mem _ he)
    rw [listing_cons, quotedNames_of_not_mem (hnames entry List.mem_cons_self).no_quote,
      quotedNames_quotedName_append _ (head?_listing_ne hrest hbehind), ih hrest, List.map_cons]

theorem intercalate_cons (sep first : List Char) (rest : List (List Char)) :
    List.intercalate sep (first :: rest) = first ++ rest.flatMap fun x => sep ++ x := by
  induction rest generalizing first with
  | nil => simp [List.intercalate]
  | cons x rest ih =>
    have hstep : List.intercalate sep (first :: x :: rest) =
        first ++ (sep ++ List.intercalate sep (x :: rest)) := by
      simp [List.intercalate]
    rw [hstep, ih]
    simp

theorem exists_listing (columns : List String) (table column : String) :
    ∃ names, (∀ entry ∈ names, Separates entry.1) ∧
      names.map (·.2) = columns ++ [table, column] ∧
      ofNames columns table column = listing names " =".toList ++ ' ' :: ":id LIMIT 1".toList := by
  have hcomma : Separates ", ".toList := by decide
  have hselect : Separates "SELECT ".toList := by decide
  have hfrom : Separates " FROM ".toList := by decide
  have hempty : Separates "SELECT  FROM ".toList := by decide
  have hwhere : Separates " WHERE ".toList := by decide
  have hend : " = :id LIMIT 1".toList = " =".toList ++ ' ' :: ":id LIMIT 1".toList := by decide
  have hnone : "SELECT ".toList ++ List.intercalate ", ".toList ([].map quotedName) ++
      " FROM ".toList = "SELECT  FROM ".toList := by decide
  cases columns with
  | nil =>
    refine ⟨[("SELECT  FROM ".toList, table), (" WHERE ".toList, column)], ?_, rfl, ?_⟩
    · intro entry hentry
      rcases List.mem_pair.mp hentry with rfl | rfl
      · exact hempty
      · exact hwhere
    · unfold ofNames
      rewrite [hnone, hend]
      simp only [listing, List.flatMap_cons, List.flatMap_nil, List.append_nil, List.append_assoc]
  | cons first rest =>
    refine ⟨("SELECT ".toList, first) :: (rest.map (", ".toList, ·) ++
      [(" FROM ".toList, table), (" WHERE ".toList, column)]), ?_, ?_, ?_⟩
    · intro entry hentry
      rcases List.mem_cons.mp hentry with rfl | hentry
      · exact hselect
      rcases List.mem_append.mp hentry with hentry | hentry
      · obtain ⟨name, -, rfl⟩ := List.mem_map.mp hentry
        exact hcomma
      · rcases List.mem_pair.mp hentry with rfl | rfl
        · exact hfrom
        · exact hwhere
    · simp [Function.comp_def]
    · unfold ofNames
      rewrite [List.map_cons, intercalate_cons, hend]
      simp only [listing, List.flatMap_append, List.flatMap_map, List.flatMap_cons,
        List.flatMap_nil, List.append_nil, List.append_assoc]

theorem withPlaces_ending : withPlaces (parts ' ' ":id LIMIT 1".toList) = ending := by
  decide +kernel

theorem unescaped_ending : unescaped ending = ending := by decide +kernel

theorem unescaped_withPlaces_append (text : List Char) :
    unescaped (withPlaces (parts ' ' (text ++ ' ' :: ":id LIMIT 1".toList))) =
      unescaped (withPlaces (parts ' ' text)) ++ [' '] ++ ending := by
  have hplaces : withPlaces (parts ' ' (text ++ ' ' :: ":id LIMIT 1".toList)) =
      withPlaces (parts ' ' text) ++ ' ' :: ending := by
    rw [parts_append_blank, ← withPlaces_ending]
    simp [withPlaces]
  rw [hplaces, unescaped_append_stop (not_isMarkChar (by decide)) (by decide) (by decide),
    unescaped_ending, List.append_assoc]
  rfl

theorem Prepared.of_eq_ok_cases {columns : List String} {table column : String} {p : Prepared}
    (h : Prepared.of columns table column = .ok p) :
    let final := placed (unescaped (withPlaces (parts ' ' (ofNames columns table column))))
    (∀ name ∈ final.names, name = idParameter) ∧ p.supplied = final.names.length ∧
      ∀ column table rest, (quotedNames none final.text).reverse = column :: table :: rest →
        p.table = table ∧ p.column = column := by
  intro final
  unfold Prepared.of at h
  dsimp only at h
  split at h
  · simp at h
  · split at h
    · simp at h
    · next hnames =>
      split_ifs at h
      refine ⟨fun name hname => ?_, ?_⟩
      · have hid := List.find?_eq_none.mp hnames name hname
        simpa using hid
      · split at h
        · next column' table' rest hquoted =>
          obtain rfl := Except.ok.inj h
          refine ⟨rfl, fun c t r heq => ?_⟩
          rw [hquoted] at heq
          obtain ⟨hcolumn, heq⟩ := List.cons.inj heq
          exact ⟨(List.cons.inj heq).1, hcolumn⟩
        · next hquoted =>
          obtain rfl := Except.ok.inj h
          exact ⟨rfl, fun c t r heq => absurd heq (hquoted c t r)⟩

/-- A prepared statement that binds one value names what is left of its names without the
backslashes before colons. -/
theorem Prepared.of_eq_ok {columns : List String} {table column : String} {p : Prepared}
    (h : Prepared.of columns table column = .ok p) (hsupplied : p.supplied = bindings) :
    p.table = spelled table ∧ p.column = spelled column := by
  obtain ⟨names, hseparates, hnames, htext⟩ := exists_listing columns table column
  obtain ⟨hid, hlength, hquoted⟩ := Prepared.of_eq_ok_cases h
  rw [htext, unescaped_withPlaces_append] at hid hlength hquoted
  obtain ⟨-, hone⟩ := placedWithin_append_ending le_rfl hid
  obtain ⟨hfinal, hnone⟩ := hone (hlength.symm.trans hsupplied)
  have hplain := withPlaces_of_no_marks (no_marks_of_no_places hnone)
  have hbehind : '\\' ∉ " =".toList ∧ '"' ∉ " =".toList ++ [' '] ++ "? LIMIT 1".toList := by
    decide
  have hlisting : unescaped (listing names " =".toList) ++ [' '] ++ "? LIMIT 1".toList =
      listing (names.map fun entry => (entry.1, spelled entry.2))
        (" =".toList ++ [' '] ++ "? LIMIT 1".toList) := by
    rw [unescaped_listing hseparates hbehind.1]
    simp only [listing, List.append_assoc]
  have hseparates' : ∀ entry ∈ names.map fun entry => (entry.1, spelled entry.2),
      Separates entry.1 := by
    intro entry hentry
    obtain ⟨e, he, rfl⟩ := List.mem_map.mp hentry
    exact hseparates e he
  have hall : quotedNames none
      (unescaped (listing names " =".toList) ++ [' '] ++ "? LIMIT 1".toList) =
        (columns ++ [table, column]).map spelled := by
    rw [hlisting, quotedNames_listing hseparates' hbehind.2, ← hnames]
    simp [Function.comp_def]
  rw [hplain] at hfinal hquoted
  refine hquoted (spelled column) (spelled table) (columns.map spelled).reverse ?_
  rw [placed, hfinal, hall]
  simp

theorem unescaped_eq_self_iff {text : List Char} :
    unescaped text = text ↔ ∀ before rest, text = before ++ '\\' :: ':' :: rest →
      (rest.dropWhile isMarkChar).head? = some ':' := by
  induction text using unescaped.induct with
  | case1 text h ih =>
    rw [unescaped, if_pos h]
    constructor
    · intro heq before rest htext
      cases before with
      | nil => rwa [← (List.cons.inj (List.cons.inj htext).2).2]
      | cons c before => exact ih.mp (List.cons.inj heq).2 before rest (List.cons.inj htext).2
    · intro hall
      rw [ih.mpr fun before rest htext => hall ('\\' :: before) rest (by rw [htext]; rfl)]
  | case2 text h ih =>
    rw [unescaped, if_neg h]
    constructor
    · intro heq
      exact absurd (List.cons.inj heq).1 (by decide)
    · intro hall
      exact absurd (hall [] text rfl) h
  | case3 c text h ih =>
    rw [unescaped.eq_2 _ _ h]
    constructor
    · intro heq before rest htext
      cases before with
      | nil =>
        obtain ⟨hc, hrest⟩ := List.cons.inj htext
        exact absurd hrest (h rest hc)
      | cons d before => exact ih.mp (List.cons.inj heq).2 before rest (List.cons.inj htext).2
    · intro hall
      rw [ih.mpr fun before rest htext => hall (c :: before) rest (by rw [htext]; rfl)]
  | case4 => simp [unescaped]

/-- Behind every backslash before a colon, another colon follows the characters of a mark. Such a
backslash is no escape of a mark. -/
def KeepsBackslashes (name : String) : Prop :=
  ∀ before rest, name.toList = before ++ '\\' :: ':' :: rest →
    (rest.dropWhile isMarkChar).head? = some ':'

/-- Such a name is read as it is, and no other name is. -/
theorem spelled_eq_self_iff {name : String} : spelled name = name ↔ KeepsBackslashes name := by
  rw [KeepsBackslashes, ← unescaped_eq_self_iff, spelled]
  constructor
  · intro h
    simpa using congrArg String.toList h
  · intro h
    rw [h, String.ofList_toList]

/-- Dropping a backslash makes another name of it, whatever the case of its letters. -/
theorem sameName_spelled_iff {name : String} :
    Store.sameName (spelled name) name = true ↔ spelled name = name := by
  constructor
  · intro h
    have hlength := congrArg List.length (beq_iff_eq.mp h)
    rw [List.length_map, List.length_map, spelled, String.toList_ofList] at hlength
    rw [spelled, (unescaped_sublist _).eq_of_length hlength, String.ofList_toList]
  · intro h
    rw [h]
    exact beq_iff_eq.mpr rfl

/-! ### Names without special characters -/

theorem not_mem_parts_of_plain {last : Char} {text : List Char} (h : PlainText text)
    (name : String) : .mark name ∉ parts last text := by
  induction text generalizing last with
  | nil => simp [parts]
  | cons c text ih =>
    have hplain : ¬StartsMark last c text := fun hmark => (h c List.mem_cons_self).1 hmark.1
    rw [parts_cons_of_plain hplain]
    intro hmem
    rcases List.mem_cons.mp hmem with heq | hmem
    · simp at heq
    · exact ih (fun d hd => h d (List.mem_cons_of_mem _ hd)) hmem

theorem unescaped_of_plain {text : List Char} (h : PlainText text) : unescaped text = text := by
  rw [unescaped_eq_self_iff]
  rintro before rest rfl
  exact absurd rfl (h ':' (by simp)).1

theorem place?_of_plain {text : List Char} (h : PlainText text) (hne : text ≠ []) :
    place? (text ++ ending) = none := by
  obtain ⟨c, text, rfl⟩ := List.exists_cons_of_ne_nil hne
  unfold place?
  split
  · next body heq => exact absurd (List.cons.inj heq).1 (h c List.mem_cons_self).2.1
  · have hmark : ¬laterMark.isPrefixOf (c :: text ++ ending) = true := by
      intro hprefix
      have hmem : '[' ∈ c :: text ++ ending :=
        (List.isPrefixOf_iff_prefix.mp hprefix).subset (by decide)
      rcases List.mem_append.mp hmem with hmem | hmem
      · exact (h '[' hmem).2.2.1 rfl
      · exact absurd hmem (by decide)
    rw [if_neg hmark]

theorem placedWithin_of_plain {room : Nat} {text : List Char}
    (hroom : (text ++ ending).length ≤ room) (h : PlainText text) :
    placedWithin room (text ++ ending) = ⟨text ++ "? LIMIT 1".toList, [idParameter]⟩ := by
  induction text generalizing room with
  | nil =>
    rw [List.nil_append] at hroom
    rw [List.nil_append, List.nil_append]
    exact placedWithin_ending hroom
  | cons c text ih =>
    have hplace := place?_of_plain h (List.cons_ne_nil c text)
    obtain ⟨room, rfl⟩ : ∃ more, room = more + 1 :=
      ⟨room - 1, by rw [List.cons_append, List.length_cons] at hroom; omega⟩
    rw [List.cons_append] at hplace ⊢
    rw [placedWithin, hplace, ih (by simpa using hroom) fun d hd => h d (List.mem_cons_of_mem _ hd)]
    rfl

theorem plainText_quotedName {name : String} (h : PlainText name.toList) :
    PlainText (quotedName name) := by
  have hquote : PlainText ['"'] := by decide
  intro c hc
  rw [← List.append_nil (quotedName name), quotedName_append] at hc
  rcases List.mem_cons.mp hc with rfl | hc
  · exact hquote _ List.mem_cons_self
  rcases List.mem_append.mp hc with hc | hc
  · obtain ⟨d, hd, hc⟩ := List.mem_flatMap.mp hc
    split_ifs at hc
    · exact hquote c (by simpa using hc)
    · obtain rfl := List.mem_singleton.mp hc
      exact h c hd
  · exact hquote c hc

theorem plainText_listing {names : List (List Char × String)} {behind : List Char}
    (hnames : ∀ entry ∈ names, PlainText entry.1 ∧ PlainText entry.2.toList)
    (hbehind : PlainText behind) : PlainText (listing names behind) := by
  intro c hc
  rcases List.mem_append.mp hc with hc | hc
  · obtain ⟨entry, hentry, hc⟩ := List.mem_flatMap.mp hc
    rcases List.mem_append.mp hc with hc | hc
    · exact (hnames entry hentry).1 c hc
    · exact plainText_quotedName (hnames entry hentry).2 c hc
  · exact hbehind c hc

theorem mem_marks_of_plain {text : List Char} (h : PlainText text) {name : String}
    (hname : name ∈ marks (parts ' ' (text ++ ' ' :: ":id LIMIT 1".toList))) :
    name = idParameter := by
  have hending : ∀ name ∈ marks (parts ' ' ":id LIMIT 1".toList), name = idParameter := by
    decide +kernel
  rw [parts_append_blank, marks, List.filterMap_append, List.mem_append] at hname
  rcases hname with hname | hname
  · obtain ⟨part, hpart, heq⟩ := List.mem_filterMap.mp hname
    cases part with
    | plain c => simp at heq
    | mark n => exact absurd hpart (not_mem_parts_of_plain h n)
  · exact hending name hname

theorem placed_of_plain {text : List Char} (h : PlainText text) :
    placed (unescaped (withPlaces (parts ' ' (text ++ ' ' :: ":id LIMIT 1".toList)))) =
      ⟨text ++ [' '] ++ "? LIMIT 1".toList, [idParameter]⟩ := by
  have hblank : PlainText [' '] := by decide
  rw [unescaped_withPlaces_append, withPlaces_of_no_marks (not_mem_parts_of_plain h),
    unescaped_of_plain h, placed]
  refine placedWithin_of_plain le_rfl ?_
  intro c hc
  rcases List.mem_append.mp hc with hc | hc
  · exact h c hc
  · exact hblank c hc

/-- A statement is prepared, names what it was given and binds one value. -/
def Faithful (columns : List String) (table column : String) : Prop :=
  Prepared.of columns table column = .ok ⟨table, column, bindings⟩

theorem faithful_of_plain {columns : List String} {table column : String}
    (hcolumns : ∀ name ∈ columns, PlainText name.toList) (htable : PlainText table.toList)
    (hcolumn : PlainText column.toList) : Faithful columns table column := by
  obtain ⟨names, hseparates, hnames, htext⟩ := exists_listing columns table column
  have hplainNames : ∀ entry ∈ names, PlainText entry.1 ∧ PlainText entry.2.toList := by
    intro entry hentry
    refine ⟨(hseparates entry hentry).plain, ?_⟩
    have hmem : entry.2 ∈ columns ++ [table, column] := hnames ▸ List.mem_map_of_mem hentry
    rcases List.mem_append.mp hmem with hmem | hmem
    · exact hcolumns _ hmem
    · rcases List.mem_pair.mp hmem with heq | heq
      · rwa [heq]
      · rwa [heq]
  have hbehind : PlainText " =".toList ∧ PlainText ([' '] ++ "? LIMIT 1".toList) := by decide
  have hplain := plainText_listing hplainNames hbehind.1
  have hfinal := placed_of_plain hplain
  rw [← htext] at hfinal
  have hquoted : quotedNames none (listing names " =".toList ++ [' '] ++ "? LIMIT 1".toList) =
      columns ++ [table, column] := by
    have hlisting : listing names " =".toList ++ [' '] ++ "? LIMIT 1".toList =
        listing names (" =".toList ++ [' '] ++ "? LIMIT 1".toList) := by
      simp only [listing, List.append_assoc]
    rw [hlisting, quotedNames_listing hseparates (by decide), hnames]
  have hnull : (listing names " =".toList ++ [' '] ++ "? LIMIT 1".toList).contains '\x00' =
      false := by
    rw [List.append_assoc, List.contains_eq_mem, decide_eq_false_iff_not]
    intro hmem
    rcases List.mem_append.mp hmem with hmem | hmem
    · exact (hplain _ hmem).2.2.2 rfl
    · exact (hbehind.2 _ hmem).2.2.2 rfl
  have hbound : (marks (parts ' ' (ofNames columns table column))).find? (fun name =>
      (declared ' ' (ofNames columns table column)).contains name && name != idParameter) =
        none := by
    refine List.find?_eq_none.mpr fun name hname => ?_
    rw [htext] at hname
    simp [mem_marks_of_plain hplain hname]
  have hknown : [idParameter].find? (· != idParameter) = none := rfl
  unfold Faithful Prepared.of
  simp only [hbound, hfinal, hknown, hnull, Bool.false_eq_true, if_false, hquoted,
    List.reverse_append, List.reverse_cons, List.reverse_nil, List.nil_append, List.cons_append]
  rfl

end WorldQuery.Statement
