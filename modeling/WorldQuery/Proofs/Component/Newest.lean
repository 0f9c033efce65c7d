import WorldQuery.Proofs.Store.Order

/-!
# Newest definitions first

A history lists the names of its rows by their first rows, and the definitions of a name by the last
rows that carry them, the latest first: `NewestFirst`. One more row keeps this, so every history has
it: `newestFirst_history`. The argument needs comparisons that are equivalences; that of the store
is one among the data that a store can hold.
-/

namespace WorldQuery

open Success

namespace Component

section Generic

variable {κ α : Type} {entries : List (κ × α)} {entry : κ × α} {name : κ} {names : List κ} {d : α}
  {definitions : List α} {histories : List (κ × List α)} {i j : Nat}

theorem getElem?_snoc {e : κ × α} : (entries ++ [entry])[i]? = some e ↔
    entries[i]? = some e ∨ i = entries.length ∧ e = entry := by
  rcases Nat.lt_trichotomy i entries.length with hlt | rfl | hgt
  · rw [List.getElem?_append_left hlt]
    exact ⟨Or.inl, fun h => h.resolve_right fun hlast => absurd hlast.1 hlt.ne⟩
  · simp [eq_comm]
  · have hold : entries[i]? = none := List.getElem?_eq_none hgt.le
    have hnew : (entries ++ [entry])[i]? = none := List.getElem?_eq_none (by simp; omega)
    simp only [hold, hnew, hgt.ne', false_and, or_false]

variable [BEq κ]

/-! ### Names by their first rows -/

def FirstAt (entries : List (κ × α)) (name : κ) (i : Nat) : Prop :=
  (∃ d, entries[i]? = some (name, d)) ∧
    ∀ j < i, ∀ e, entries[j]? = some e → (e.1 == name) = false

/-- The names are those of the rows, by the first row of each. -/
structure FirstsInOrder (entries : List (κ × α)) (names : List κ) : Prop where
  named : ∀ e ∈ entries, ∃ name ∈ names, (name == e.1) = true
  appears : ∀ name ∈ names, ∃ i, FirstAt entries name i
  inOrder : names.Pairwise fun a b => ∀ i j, FirstAt entries a i → FirstAt entries b j → i < j

theorem FirstAt.lt_length (h : FirstAt entries name i) : i < entries.length := by
  obtain ⟨⟨d, hd⟩, -⟩ := h
  exact (List.getElem?_eq_some_iff.mp hd).1

theorem FirstAt.exists_mem (h : FirstAt entries name i) : ∃ e ∈ entries, e.1 = name := by
  obtain ⟨⟨d, hd⟩, -⟩ := h
  exact ⟨_, List.mem_of_getElem? hd, rfl⟩

theorem firstAt_snoc_iff : FirstAt (entries ++ [entry]) name i ↔
    FirstAt entries name i ∨
      i = entries.length ∧ entry.1 = name ∧ ∀ e ∈ entries, (e.1 == name) = false := by
  constructor
  · rintro ⟨⟨d, hd⟩, hbefore⟩
    rcases getElem?_snoc.mp hd with hd | ⟨rfl, rfl⟩
    · exact Or.inl ⟨⟨d, hd⟩, fun j hj e he => hbefore j hj e (getElem?_snoc.mpr (Or.inl he))⟩
    · refine Or.inr ⟨rfl, rfl, fun e he => ?_⟩
      obtain ⟨j, hj, rfl⟩ := List.getElem_of_mem he
      exact hbefore j hj _ (getElem?_snoc.mpr (Or.inl (List.getElem?_eq_getElem hj)))
  · rintro (h | ⟨rfl, rfl, hnone⟩)
    · obtain ⟨⟨d, hd⟩, hbefore⟩ := h
      refine ⟨⟨d, getElem?_snoc.mpr (Or.inl hd)⟩, fun j hj e he => ?_⟩
      rcases getElem?_snoc.mp he with he | ⟨rfl, -⟩
      · exact hbefore j hj e he
      · exact absurd (FirstAt.lt_length ⟨⟨d, hd⟩, hbefore⟩) hj.not_gt
    · refine ⟨⟨entry.2, getElem?_snoc.mpr (Or.inr ⟨rfl, rfl⟩)⟩, fun j hj e he => ?_⟩
      rcases getElem?_snoc.mp he with he | ⟨rfl, -⟩
      · exact hnone e (List.mem_of_getElem? he)
      · exact absurd hj (lt_irrefl _)

theorem FirstsInOrder.pairwise_ne (h : FirstsInOrder entries names) :
    names.Pairwise fun a b => (a == b) = false := by
  refine h.inOrder.imp_of_mem fun {a b} ha hb hbefore => ?_
  obtain ⟨i, hi⟩ := h.appears a ha
  obtain ⟨j, hj⟩ := h.appears b hb
  have hlt := hbefore i j hi hj
  obtain ⟨⟨d, hd⟩, -⟩ := hi
  exact hj.2 i hlt _ hd

section Names

variable [EquivBEq κ]

theorem FirstsInOrder.firstAt_snoc_iff (h : FirstsInOrder entries names) (hname : name ∈ names) :
    FirstAt (entries ++ [entry]) name i ↔ FirstAt entries name i := by
  rw [Component.firstAt_snoc_iff, or_iff_left]
  rintro ⟨-, -, hnone⟩
  obtain ⟨j, hj⟩ := h.appears name hname
  obtain ⟨e, he, rfl⟩ := hj.exists_mem
  exact absurd (hnone e he) (by simp)

theorem FirstsInOrder.known (h : FirstsInOrder entries names) (hname : name ∈ names)
    (hsame : (name == entry.1) = true) : FirstsInOrder (entries ++ [entry]) names := by
  refine ⟨fun e he => ?_, fun a ha => ?_, ?_⟩
  · rcases List.mem_append.mp he with he | he
    · exact h.named e he
    · exact ⟨name, hname, List.mem_singleton.mp he ▸ hsame⟩
  · obtain ⟨i, hi⟩ := h.appears a ha
    exact ⟨i, (h.firstAt_snoc_iff ha).mpr hi⟩
  · refine h.inOrder.imp_of_mem fun ha hb hbefore i j hi hj => ?_
    exact hbefore i j ((h.firstAt_snoc_iff ha).mp hi) ((h.firstAt_snoc_iff hb).mp hj)

theorem FirstsInOrder.new (h : FirstsInOrder entries names)
    (hnew : ∀ name ∈ names, (name == entry.1) = false) :
    FirstsInOrder (entries ++ [entry]) (names ++ [entry.1]) := by
  have hnone : ∀ e ∈ entries, (e.1 == entry.1) = false := by
    intro e he
    obtain ⟨name, hname, hsame⟩ := h.named e he
    rw [← BEq.congr_left hsame]
    exact hnew name hname
  refine ⟨fun e he => ?_, fun a ha => ?_, List.pairwise_append.mpr ⟨?_, ?_, ?_⟩⟩
  · rcases List.mem_append.mp he with he | he
    · obtain ⟨name, hname, hsame⟩ := h.named e he
      exact ⟨name, List.mem_append_left _ hname, hsame⟩
    · rw [List.mem_singleton.mp he]
      exact ⟨entry.1, by simp, BEq.rfl⟩
  · rcases List.mem_append.mp ha with ha | ha
    · obtain ⟨i, hi⟩ := h.appears a ha
      exact ⟨i, (h.firstAt_snoc_iff ha).mpr hi⟩
    · rw [List.mem_singleton.mp ha]
      exact ⟨entries.length, Component.firstAt_snoc_iff.mpr (Or.inr ⟨rfl, rfl, hnone⟩)⟩
  · refine h.inOrder.imp_of_mem fun ha hb hbefore i j hi hj => ?_
    exact hbefore i j ((h.firstAt_snoc_iff ha).mp hi) ((h.firstAt_snoc_iff hb).mp hj)
  · exact List.pairwise_singleton _ _
  · intro a ha b hb i j hi hj
    obtain rfl := List.mem_singleton.mp hb
    have hold := ((h.firstAt_snoc_iff ha).mp hi).lt_length
    rcases Component.firstAt_snoc_iff.mp hj with hj | ⟨rfl, -, -⟩
    · obtain ⟨e, he, hentry⟩ := hj.exists_mem
      exact absurd (hnone e he) (by simp [hentry])
    · exact hold

end Names

/-! ### Definitions of a name by their last rows -/

variable [BEq α]

/-- The row at a position is the last of a name that carries its definition. -/
def LastAt (entries : List (κ × α)) (name : κ) (d : α) (i : Nat) : Prop :=
  (∃ k, entries[i]? = some (k, d) ∧ (k == name) = true) ∧
    ∀ j, i < j → ∀ e, entries[j]? = some e → (e.1 == name) = true → (e.2 == d) = false

/-- The definitions of a name are those of its rows, by the last row of each, the latest first. -/
structure LatestFirst (entries : List (κ × α)) (name : κ) (definitions : List α) : Prop where
  carried : ∀ e ∈ entries, (e.1 == name) = true → ∃ d ∈ definitions, (e.2 == d) = true
  carries : ∀ d ∈ definitions, ∃ i, LastAt entries name d i
  inOrder : definitions.Pairwise fun d d' =>
    ∀ i j, LastAt entries name d i → LastAt entries name d' j → j < i

theorem LastAt.lt_length (h : LastAt entries name d i) : i < entries.length := by
  obtain ⟨⟨k, hk, -⟩, -⟩ := h
  exact (List.getElem?_eq_some_iff.mp hk).1

theorem lastAt_snoc_iff : LastAt (entries ++ [entry]) name d i ↔
    i = entries.length ∧ (entry.1 == name) = true ∧ entry.2 = d ∨
      LastAt entries name d i ∧ ((entry.1 == name) = true → (entry.2 == d) = false) := by
  constructor
  · rintro ⟨⟨k, hk, hname⟩, hafter⟩
    rcases getElem?_snoc.mp hk with hk | ⟨rfl, rfl⟩
    · have hi : i < entries.length := (List.getElem?_eq_some_iff.mp hk).1
      refine Or.inr ⟨⟨⟨k, hk, hname⟩, fun j hj e he => ?_⟩, ?_⟩
      · exact hafter j hj e (getElem?_snoc.mpr (Or.inl he))
      · exact hafter _ hi entry (getElem?_snoc.mpr (Or.inr ⟨rfl, rfl⟩))
    · exact Or.inl ⟨rfl, hname, rfl⟩
  · rintro (⟨rfl, hname, rfl⟩ | ⟨h, hlast⟩)
    · refine ⟨⟨entry.1, getElem?_snoc.mpr (Or.inr ⟨rfl, rfl⟩), hname⟩, fun j hj e he => ?_⟩
      have hj' := (List.getElem?_eq_some_iff.mp he).1
      simp only [List.length_append, List.length_singleton] at hj'
      omega
    · obtain ⟨⟨k, hk, hname⟩, hafter⟩ := h
      refine ⟨⟨k, getElem?_snoc.mpr (Or.inl hk), hname⟩, fun j hj e he => ?_⟩
      rcases getElem?_snoc.mp he with he | ⟨-, rfl⟩
      · exact hafter j hj e he
      · exact hlast

theorem LatestFirst.other (h : LatestFirst entries name definitions)
    (hname : (entry.1 == name) = false) : LatestFirst (entries ++ [entry]) name definitions := by
  have hlast : ∀ d i, LastAt (entries ++ [entry]) name d i ↔ LastAt entries name d i := by
    intro d i
    rw [lastAt_snoc_iff]
    simp [hname]
  refine ⟨fun e he hsame => ?_, ?_, ?_⟩
  · rcases List.mem_append.mp he with he | he
    · exact h.carried e he hsame
    · rw [List.mem_singleton.mp he, hname] at hsame
      cases hsame
  · simpa only [hlast] using h.carries
  · simpa only [hlast] using h.inOrder

theorem LatestFirst.pairwise_ne (h : LatestFirst entries name definitions) :
    definitions.Pairwise fun d d' => (d == d') = false := by
  refine h.inOrder.imp_of_mem fun {d d'} hd hd' hlater => ?_
  obtain ⟨i, hi⟩ := h.carries d hd
  obtain ⟨j, hj⟩ := h.carries d' hd'
  have hlt := hlater i j hi hj
  obtain ⟨⟨k, hk, hname⟩, -⟩ := hi
  exact hj.2 i hlt _ hk hname

theorem LatestFirst.head {older newer : List (κ × α)}
    (h : LatestFirst (older ++ entry :: newer) name definitions)
    (hname : (entry.1 == name) = true) (hlast : ∀ e ∈ newer, (e.1 == name) = false) :
    definitions.head? = some entry.2 := by
  have hi : (older ++ entry :: newer)[older.length]? = some entry := by simp
  have hlatest : ∀ {d j}, LastAt (older ++ entry :: newer) name d j → j ≤ older.length := by
    rintro d j ⟨⟨k, hk, hsame⟩, -⟩
    by_contra hlater
    rw [List.getElem?_append_right (by omega), List.getElem?_cons, if_neg (by omega)] at hk
    exact absurd hsame (by simp [hlast _ (List.mem_of_getElem? hk)])
  -- the definition is in the list for this row, since a later row would be one of the name
  obtain ⟨d, hd, hsame⟩ := h.carried entry (List.mem_of_getElem? hi) hname
  obtain ⟨j, hj⟩ := h.carries d hd
  obtain rfl : j = older.length := by
    refine (hlatest hj).antisymm (le_of_not_gt fun hlt => ?_)
    exact absurd hsame (by simp [hj.2 _ hlt entry hi hname])
  obtain rfl : d = entry.2 := by
    obtain ⟨⟨k, hk, -⟩, -⟩ := hj
    exact congrArg Prod.snd (Option.some.inj (hk.symm.trans hi))
  cases definitions with
  | nil => simp at hd
  | cons first rest =>
    rcases List.mem_cons.mp hd with heq | hrest
    · exact congrArg some heq.symm
    · obtain ⟨m, hm⟩ := h.carries first List.mem_cons_self
      have hlt := (List.pairwise_cons.mp h.inOrder).1 _ hrest m _ hm hj
      exact absurd hlt (hlatest hm).not_gt

section Definitions

variable [EquivBEq α]

theorem mem_erase_of_pairwise (hne : definitions.Pairwise fun d d' => (d == d') = false)
    {latest : α} (h : d ∈ definitions.erase latest) : d ∈ definitions ∧ (d == latest) = false := by
  refine ⟨List.mem_of_mem_erase h, ?_⟩
  induction definitions with
  | nil => simp at h
  | cons first rest ih =>
    obtain ⟨hfirst, hrest⟩ := List.pairwise_cons.mp hne
    rw [List.erase_cons] at h
    split_ifs at h with hlatest
    · rw [BEq.comm, ← BEq.congr_left hlatest]
      exact hfirst d h
    · rcases List.mem_cons.mp h with rfl | h
      · exact Bool.eq_false_iff.mpr hlatest
      · exact ih hrest h

theorem LatestFirst.renew (h : LatestFirst entries name definitions)
    (hname : (entry.1 == name) = true) :
    LatestFirst (entries ++ [entry]) name (renew definitions entry.2) := by
  have hrest : ∀ d ∈ definitions.erase entry.2, d ∈ definitions ∧ (entry.2 == d) = false := by
    intro d hd
    rw [BEq.comm]
    exact mem_erase_of_pairwise h.pairwise_ne hd
  have hold : ∀ d ∈ definitions.erase entry.2, ∀ i,
      LastAt (entries ++ [entry]) name d i ↔ LastAt entries name d i := by
    intro d hd i
    obtain ⟨-, hne⟩ := hrest d hd
    have hother : entry.2 ≠ d := fun heq => absurd hne (by simp [heq])
    simp [lastAt_snoc_iff, hother, hne]
  refine ⟨fun e he hsame => ?_, fun d hd => ?_, List.pairwise_cons.mpr ⟨?_, ?_⟩⟩
  · rcases List.mem_append.mp he with he | he
    · obtain ⟨d, hd, heq⟩ := h.carried e he hsame
      by_cases hlatest : (d == entry.2) = true
      · exact ⟨entry.2, List.mem_cons_self, BEq.trans heq hlatest⟩
      · exact ⟨d, mem_renew (fun h => absurd h hlatest) hd, heq⟩
    · rw [List.mem_singleton.mp he]
      exact ⟨entry.2, List.mem_cons_self, BEq.rfl⟩
  · rcases List.mem_cons.mp hd with rfl | hd
    · exact ⟨entries.length, lastAt_snoc_iff.mpr (Or.inl ⟨rfl, hname, rfl⟩)⟩
    · obtain ⟨i, hi⟩ := h.carries d (hrest d hd).1
      exact ⟨i, (hold d hd i).mpr hi⟩
  · intro d hd i j hi hj
    have hj' := ((hold d hd j).mp hj).lt_length
    rcases lastAt_snoc_iff.mp hi with ⟨rfl, -, -⟩ | ⟨-, hne⟩
    · exact hj'
    · exact absurd (hne hname) (by simp)
  · refine (h.inOrder.sublist List.erase_sublist).imp_of_mem fun hd hd' hlater i j hi hj => ?_
    exact hlater i j ((hold _ hd i).mp hi) ((hold _ hd' j).mp hj)

end Definitions

/-! ### Histories -/

/-- The names are in order of their first rows, and their definitions the latest first. -/
structure NewestFirst (entries : List (κ × α)) (histories : List (κ × List α)) : Prop where
  names : FirstsInOrder entries (histories.map (·.1))
  latest : ∀ p ∈ histories, LatestFirst entries p.1 p.2

/-- A row either renews the definitions of its name or starts them at the end. -/
theorem record_cases (histories : List (κ × List α)) (entry : κ × α) :
    (∃ before name definitions after, histories = before ++ (name, definitions) :: after ∧
      (name == entry.1) = true ∧
        record histories entry = before ++ (name, renew definitions entry.2) :: after) ∨
      (∀ p ∈ histories, (p.1 == entry.1) = false) ∧
        record histories entry = histories ++ [(entry.1, renew [] entry.2)] := by
  induction histories with
  | nil => exact Or.inr ⟨by simp, rfl⟩
  | cons head rest ih =>
    obtain ⟨name, definitions⟩ := head
    rw [record]
    split_ifs with hname
    · exact Or.inl ⟨[], name, definitions, rest, rfl, hname, rfl⟩
    · rcases ih with ⟨before, name', definitions', after, rfl, hsame, heq⟩ | ⟨hnew, heq⟩
      · exact Or.inl ⟨(name, definitions) :: before, name', definitions', after, rfl, hsame,
          congrArg _ heq⟩
      · exact Or.inr ⟨List.forall_mem_cons.mpr ⟨Bool.eq_false_iff.mpr hname, hnew⟩,
          congrArg _ heq⟩

variable [EquivBEq κ] [EquivBEq α]

/-- One more row keeps the order. -/
theorem NewestFirst.record (h : NewestFirst entries histories) (entry : κ × α) :
    NewestFirst (entries ++ [entry]) (record histories entry) := by
  rcases record_cases histories entry with
    ⟨before, name, definitions, after, rfl, hname, heq⟩ | ⟨hnew, heq⟩
  · have hnames : (before ++ (name, Component.renew definitions entry.2) :: after).map (·.1) =
        (before ++ (name, definitions) :: after).map (·.1) := by
      simp
    have hne := h.names.pairwise_ne
    rw [List.map_append, List.map_cons, List.pairwise_append, List.pairwise_cons] at hne
    obtain ⟨-, ⟨hafter, -⟩, hbefore⟩ := hne
    rw [heq]
    refine ⟨?_, fun p hp => ?_⟩
    · rw [hnames]
      exact h.names.known (by simp) hname
    · rcases List.mem_append.mp hp with hp | hp
      · have hother := hbefore p.1 (List.mem_map_of_mem hp) name List.mem_cons_self
        rw [BEq.congr_right hname, BEq.comm] at hother
        exact (h.latest p (List.mem_append_left _ hp)).other hother
      · rcases List.mem_cons.mp hp with rfl | hp
        · exact (h.latest (name, definitions) (by simp)).renew (BEq.symm hname)
        · have hother := hafter p.1 (List.mem_map_of_mem hp)
          rw [BEq.congr_left hname] at hother
          exact (h.latest p (by simp [hp])).other hother
  · rw [heq]
    refine ⟨?_, fun p hp => ?_⟩
    · rw [List.map_append]
      refine h.names.new fun name hname => ?_
      obtain ⟨p, hp, rfl⟩ := List.mem_map.mp hname
      exact hnew p hp
    · rcases List.mem_append.mp hp with hp | hp
      · exact (h.latest p hp).other (BEq.comm.trans (hnew p hp))
      · rw [List.mem_singleton.mp hp]
        refine LatestFirst.renew ⟨fun e he hsame => ?_, by simp, List.Pairwise.nil⟩ BEq.rfl
        obtain ⟨name, hname, hsame'⟩ := h.names.named e he
        obtain ⟨p, hp, rfl⟩ := List.mem_map.mp hname
        exact absurd (BEq.trans hsame' hsame) (by simp [hnew p hp])

theorem newestFirst_history (entries : List (κ × α)) :
    NewestFirst entries (history entries) := by
  induction entries using List.reverseRecOn with
  | nil => exact ⟨⟨by simp, by simp [history], List.Pairwise.nil⟩, by simp [history]⟩
  | append_singleton entries entry ih =>
    rw [history_append_singleton]
    exact ih.record entry

end Generic

/-! ### Histories of other spellings -/

section Map

variable {κ α κ' α' : Type} {f : κ → κ'} {g : α → α'} {entries : List (κ × α)} {name : κ}
  {names : List κ} {d : α} {definitions : List α} {histories : List (κ × List α)} {i : Nat}

theorem getElem?_mapped_iff {e : κ' × α'} :
    (entries.map fun (name, d) => (f name, g d))[i]? = some e ↔
      ∃ name d, entries[i]? = some (name, d) ∧ e = (f name, g d) := by
  simp [List.getElem?_map, eq_comm]

variable [BEq κ] [BEq κ']

theorem firstAt_map_iff (hf : ∀ a b, (f a == f b) = (a == b)) (hinj : Function.Injective f) :
    FirstAt (entries.map fun (name, d) => (f name, g d)) (f name) i ↔ FirstAt entries name i := by
  simp only [FirstAt, getElem?_mapped_iff, Prod.mk.injEq]
  constructor
  · rintro ⟨⟨-, name', d, hd, hname, -⟩, hbefore⟩
    refine ⟨⟨d, hinj hname ▸ hd⟩, fun j hj e he => ?_⟩
    rw [← hf]
    exact hbefore j hj _ ⟨e.1, e.2, he, rfl⟩
  · rintro ⟨⟨d, hd⟩, hbefore⟩
    refine ⟨⟨g d, name, d, hd, rfl, rfl⟩, ?_⟩
    rintro j hj - ⟨name', d', he, rfl⟩
    rw [hf]
    exact hbefore j hj _ he

theorem FirstsInOrder.map (h : FirstsInOrder entries names) (hf : ∀ a b, (f a == f b) = (a == b))
    (hinj : Function.Injective f) :
    FirstsInOrder (entries.map fun (name, d) => (f name, g d)) (names.map f) := by
  refine ⟨List.forall_mem_map.mpr fun e he => ?_, List.forall_mem_map.mpr fun name hname => ?_,
    List.pairwise_map.mpr ?_⟩
  · obtain ⟨name, hname, hsame⟩ := h.named e he
    exact ⟨f name, List.mem_map_of_mem hname, (hf _ _).trans hsame⟩
  · simpa only [firstAt_map_iff hf hinj] using h.appears name hname
  · simpa only [firstAt_map_iff hf hinj] using h.inOrder

variable [BEq α] [BEq α']

theorem lastAt_map_iff (hf : ∀ a b, (f a == f b) = (a == b)) (hg : ∀ a b, (g a == g b) = (a == b))
    (hinj : Function.Injective g) :
    LastAt (entries.map fun (name, d) => (f name, g d)) (f name) (g d) i ↔
      LastAt entries name d i := by
  simp only [LastAt, getElem?_mapped_iff, Prod.mk.injEq]
  constructor
  · rintro ⟨⟨-, ⟨name', d', hd, rfl, hsame⟩, hname⟩, hafter⟩
    refine ⟨⟨name', hinj hsame ▸ hd, hf _ _ ▸ hname⟩, fun j hj e he hother => ?_⟩
    rw [← hg]
    exact hafter j hj _ ⟨e.1, e.2, he, rfl⟩ ((hf _ _).trans hother)
  · rintro ⟨⟨name', hd, hname⟩, hafter⟩
    refine ⟨⟨f name', ⟨name', d, hd, rfl, rfl⟩, (hf _ _).trans hname⟩, ?_⟩
    rintro j hj - ⟨name'', d', he, rfl⟩ hother
    rw [hg]
    exact hafter j hj _ he (hf _ _ ▸ hother)

theorem LatestFirst.map (h : LatestFirst entries name definitions)
    (hf : ∀ a b, (f a == f b) = (a == b)) (hg : ∀ a b, (g a == g b) = (a == b))
    (hinj : Function.Injective g) :
    LatestFirst (entries.map fun (name, d) => (f name, g d)) (f name) (definitions.map g) := by
  refine ⟨List.forall_mem_map.mpr fun e he hsame => ?_, List.forall_mem_map.mpr fun d hd => ?_,
    List.pairwise_map.mpr ?_⟩
  · obtain ⟨d, hd, heq⟩ := h.carried e he ((hf _ _).symm.trans hsame)
    exact ⟨g d, List.mem_map_of_mem hd, (hg _ _).trans heq⟩
  · simpa only [lastAt_map_iff hf hg hinj] using h.carries d hd
  · simpa only [lastAt_map_iff hf hg hinj] using h.inOrder

theorem NewestFirst.map (h : NewestFirst entries histories) (hf : ∀ a b, (f a == f b) = (a == b))
    (hg : ∀ a b, (g a == g b) = (a == b)) (hfinj : Function.Injective f)
    (hginj : Function.Injective g) :
    NewestFirst (entries.map fun (name, d) => (f name, g d))
      (histories.map fun (name, ds) => (f name, ds.map g)) := by
  refine ⟨?_, List.forall_mem_map.mpr fun p hp => (h.latest p hp).map hf hg hginj⟩
  have hnames := h.names.map (g := g) hf hfinj
  rwa [List.map_map] at hnames ⊢

end Map

/-! ### Histories in a store -/

variable {s : Store} {t : Table}

theorem newestFirst_history_of_stored {entries : List (Datum × Datum)}
    (h : ∀ e ∈ entries, e.1.IsStored ∧ e.2.IsStored) : NewestFirst entries (history entries) := by
  have hstored : ∃ stored : List (StoredDatum × StoredDatum),
      entries = stored.map fun (name, d) => (name.val, d.val) :=
    ⟨entries.pmap (fun e he => (⟨e.1, he.1⟩, ⟨e.2, he.2⟩)) h, by simp [List.map_pmap]⟩
  obtain ⟨stored, rfl⟩ := hstored
  have hsame : ∀ d e : StoredDatum, (d.val == e.val) = (d == e) := fun _ _ => rfl
  rw [history_map hsame hsame]
  exact (newestFirst_history stored).map hsame hsame Subtype.val_injective Subtype.val_injective

/-- The definitions of a component table are those of its rows, from the oldest row to the newest:
the names by their first rows, the definitions of a name by the last rows that carry them, the
latest first. The first definition of a name is that of its most recent row. -/
theorem definitions_newestFirst (ht : s.table tableName = .ok t) (hstored : t.Stored)
    {nameAt definitionAt stamp key : Nat} (hnameAt : t.position "name" = .ok nameAt)
    (hdefinitionAt : t.position "storage_definition" = .ok definitionAt)
    (hstamp : t.position stampColumn = .ok stamp) (hkey : t.position "id" = .ok key) :
    ∃ (rows : List StoredRow) (histories : List (Datum × List Datum)),
      rows.Perm t.rows ∧ rows.Pairwise (NoLater stamp key) ∧ definitions s = .ok histories ∧
      NewestFirst (rows.map fun row => (Table.cell row nameAt, Table.cell row definitionAt))
        histories ∧
      ∀ p ∈ histories, ∀ older row newer, rows = older ++ row :: newer →
        (Table.cell row nameAt == p.1) = true →
        (∀ other ∈ newer, (Table.cell other nameAt == p.1) = false) →
        p.2.head? = some (Table.cell row definitionAt) := by
  have hselected : positions t layoutColumns = .ok [nameAt, definitionAt] :=
    positions_layoutColumns_eq_ok_iff.mpr ⟨_, _, hnameAt, hdefinitionAt, rfl⟩
  obtain ⟨rows, hperm, hsorted, hrows⟩ := rowsInOrder_sorted ht hstored hselected hstamp hkey
  have hdefinitions : definitions s = .ok (history (rows.map fun row =>
      (Table.cell row nameAt, Table.cell row definitionAt))) := by
    refine definitions_eq_ok_iff.mpr ⟨_, hrows, ?_⟩
    rw [List.map_map]
    rfl
  have hcells : ∀ e ∈ rows.map fun row => (Table.cell row nameAt, Table.cell row definitionAt),
      e.1.IsStored ∧ e.2.IsStored := by
    refine List.forall_mem_map.mpr fun row hrow => ?_
    have hmem := hperm.subset hrow
    exact ⟨hstored.cell hmem nameAt, hstored.cell hmem definitionAt⟩
  have hnewest := newestFirst_history_of_stored hcells
  refine ⟨rows, _, hperm, hsorted, hdefinitions, hnewest, ?_⟩
  rintro p hp older row newer rfl hname hlast
  have hlatest := hnewest.latest p hp
  rw [List.map_append, List.map_cons] at hlatest
  exact hlatest.head hname (List.forall_mem_map.mpr hlast)

/-- A definition that is declared again is the first of its name again. -/
theorem definitions_of_redeclared :
    let s := Store.empty.create "components" ["id", "name", "storage_definition", "created_at"]
      [[.text "0x1", .text "Position", .text "x: u8", .int 1],
        [.text "0x2", .text "Score", .text "value: u8", .int 2],
        [.text "0x3", .text "Position", .text "y: u8", .int 3],
        [.text "0x4", .text "Position", .text "x: u8", .int 4]]
    let histories : List (Datum × List Datum) :=
      [(.text "Position", [.text "x: u8", .text "y: u8"]), (.text "Score", [.text "value: u8"])]
    definitions s = .ok histories ∧
      ∃ rows : List StoredRow, rows.length = 4 ∧ rows.Pairwise (NoLater 3 0) ∧
        NewestFirst (rows.map fun row => (Table.cell row 1, Table.cell row 2)) histories := by
  intro s histories
  let t : Table := ⟨"components", ["id", "name", "storage_definition", "created_at"],
    [⟨1, [.text "0x1", .text "Position", .text "x: u8", .int 1]⟩,
      ⟨2, [.text "0x2", .text "Score", .text "value: u8", .int 2]⟩,
      ⟨3, [.text "0x3", .text "Position", .text "y: u8", .int 3]⟩,
      ⟨4, [.text "0x4", .text "Position", .text "x: u8", .int 4]⟩]⟩
  have ht : s.table tableName = .ok t := rfl
  have hstored : t.Stored := by
    simp [Table.Stored, t, Datum.IsStored]
  have hdefinitions : definitions s = .ok histories :=
    definitions_eq_ok_iff.mpr ⟨_, rowsInOrder_of_sorted rfl rfl rfl rfl (by decide), rfl⟩
  obtain ⟨rows, found, hperm, hsorted, hfound, hnewest, -⟩ :=
    definitions_newestFirst ht hstored rfl rfl rfl rfl
  obtain rfl := Except.ok.inj (hfound.symm.trans hdefinitions)
  exact ⟨hdefinitions, rows, hperm.length_eq, hsorted, hnewest⟩

end Component

end WorldQuery
