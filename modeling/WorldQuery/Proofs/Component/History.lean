import WorldQuery.Component
import WorldQuery.Proofs.Assoc
import WorldQuery.Proofs.Store

/-!
# Histories of definitions

`Component.history` goes through the rows from the oldest to the newest and moves the definition of
each row to the front of its name's list. So the first definition of a list that has some property
is that of the last row of the name that has it: `findSome?_history`. The rows themselves come from
a store by `Component.Declares`.
-/

namespace WorldQuery

namespace Component

section Generic

variable {κ α κ' α' : Type} [BEq κ] [BEq α] [BEq κ'] [BEq α'] {f : κ → κ'} {g : α → α'}

theorem history_append_singleton (entries : List (κ × α)) (entry : κ × α) :
    history (entries ++ [entry]) = record (history entries) entry := by
  simp [history]

theorem erase_map (hg : ∀ a b, (g a == g b) = (a == b)) (definitions : List α) (latest : α) :
    (definitions.map g).erase (g latest) = (definitions.erase latest).map g := by
  induction definitions with
  | nil => rfl
  | cons d rest ih =>
    by_cases h : d == latest
    · simp [List.erase_cons, hg, h]
    · simp [hg, h, ih]

theorem record_map (hf : ∀ a b, (f a == f b) = (a == b)) (hg : ∀ a b, (g a == g b) = (a == b))
    (histories : List (κ × List α)) (entry : κ × α) :
    record (histories.map fun (name, ds) => (f name, ds.map g)) (f entry.1, g entry.2) =
      (record histories entry).map fun (name, ds) => (f name, ds.map g) := by
  induction histories with
  | nil => simp [record, renew]
  | cons head rest ih =>
    obtain ⟨name, ds⟩ := head
    by_cases h : name == entry.1
    · simp [record, hf, h, renew, erase_map hg]
    · simpa [record, hf, h] using ih

/-- Histories only compare names and definitions. -/
theorem history_map (hf : ∀ a b, (f a == f b) = (a == b)) (hg : ∀ a b, (g a == g b) = (a == b))
    (entries : List (κ × α)) :
    history (entries.map fun (name, d) => (f name, g d)) =
      (history entries).map fun (name, ds) => (f name, ds.map g) := by
  induction entries using List.reverseRecOn with
  | nil => rfl
  | append_singleton entries entry ih =>
    rw [List.map_append, List.map_singleton, history_append_singleton, ih,
      history_append_singleton]
    exact record_map hf hg _ entry

theorem mem_record_cases {histories : List (κ × List α)} {entry : κ × α} {p : κ × List α}
    (h : p ∈ record histories entry) :
    p ∈ histories ∨ (∃ ds, (p.1, ds) ∈ histories ∧ (p.1 == entry.1) = true ∧
      p.2 = renew ds entry.2) ∨ p = (entry.1, renew [] entry.2) := by
  induction histories with
  | nil => exact Or.inr (Or.inr (List.mem_singleton.mp h))
  | cons head rest ih =>
    obtain ⟨name, ds⟩ := head
    rw [record] at h
    split_ifs at h with hname
    · rcases List.mem_cons.mp h with rfl | h
      · exact Or.inr (Or.inl ⟨ds, List.mem_cons_self, hname, rfl⟩)
      · exact Or.inl (List.mem_cons_of_mem _ h)
    · rcases List.mem_cons.mp h with rfl | h
      · exact Or.inl List.mem_cons_self
      · rcases ih h with hmem | ⟨ds', hmem, hsame, heq⟩ | heq
        · exact Or.inl (List.mem_cons_of_mem _ hmem)
        · exact Or.inr (Or.inl ⟨ds', List.mem_cons_of_mem _ hmem, hsame, heq⟩)
        · exact Or.inr (Or.inr heq)

theorem mem_record {histories : List (κ × List α)} {entry : κ × α} {p : κ × List α}
    (h : p ∈ record histories entry) : p.1 = entry.1 ∨ p.1 ∈ histories.map Prod.fst := by
  rcases mem_record_cases h with hmem | ⟨ds, hmem, -, -⟩ | rfl
  · exact Or.inr (List.mem_map_of_mem hmem)
  · exact Or.inr (List.mem_map.mpr ⟨_, hmem, rfl⟩)
  · exact Or.inl rfl

theorem exists_mem_record {histories : List (κ × List α)} {p : κ × List α} (h : p ∈ histories)
    (entry : κ × α) :
    ∃ ds, (p.1, ds) ∈ record histories entry ∧ (ds = p.2 ∨ ds = renew p.2 entry.2) := by
  induction histories with
  | nil => simp at h
  | cons head rest ih =>
    obtain ⟨name, ds⟩ := head
    rw [record]
    split_ifs with hname
    · rcases List.mem_cons.mp h with rfl | h
      · exact ⟨_, List.mem_cons_self, Or.inr rfl⟩
      · exact ⟨_, List.mem_cons_of_mem _ h, Or.inl rfl⟩
    · rcases List.mem_cons.mp h with rfl | h
      · exact ⟨_, List.mem_cons_self, Or.inl rfl⟩
      · obtain ⟨ds', hmem, heq⟩ := ih h
        exact ⟨ds', List.mem_cons_of_mem _ hmem, heq⟩

theorem exists_mem_record_self (histories : List (κ × List α)) {entry : κ × α}
    (hrefl : (entry.1 == entry.1) = true) :
    ∃ p ∈ record histories entry, (p.1 == entry.1) = true ∧ entry.2 ∈ p.2 := by
  induction histories with
  | nil => exact ⟨_, List.mem_cons_self, hrefl, List.mem_cons_self⟩
  | cons head rest ih =>
    obtain ⟨name, ds⟩ := head
    rw [record]
    split_ifs with hname
    · exact ⟨_, List.mem_cons_self, hname, List.mem_cons_self⟩
    · obtain ⟨p, hp, hsame, hmem⟩ := ih
      exact ⟨p, List.mem_cons_of_mem _ hp, hsame, hmem⟩

theorem mem_renew {definitions : List α} {latest d : α} (hd : (d == latest) = true → d = latest)
    (h : d ∈ definitions) : d ∈ renew definitions latest := by
  rw [renew]
  by_cases hlatest : (d == latest) = true
  · rw [hd hlatest]
    exact List.mem_cons_self
  · refine List.mem_cons_of_mem _ ?_
    induction definitions with
    | nil => simp at h
    | cons first rest ih =>
      rw [List.erase_cons]
      split_ifs with hfirst
      · rcases List.mem_cons.mp h with rfl | h
        · exact absurd hfirst hlatest
        · exact h
      · rcases List.mem_cons.mp h with rfl | h
        · exact List.mem_cons_self
        · exact List.mem_cons_of_mem _ (ih h)

theorem mem_of_mem_renew {definitions : List α} {latest d : α}
    (h : d ∈ renew definitions latest) : d = latest ∨ d ∈ definitions :=
  (List.mem_cons.mp h).imp_right List.mem_of_mem_erase

theorem exists_mem_history {entries : List (κ × α)} {name : κ} {d : α}
    (hname : (name == name) = true) (hd : ∀ entry ∈ entries, (d == entry.2) = true → d = entry.2)
    (h : (name, d) ∈ entries) :
    ∃ p ∈ history entries, (p.1 == name) = true ∧ d ∈ p.2 := by
  induction entries using List.reverseRecOn with
  | nil => simp at h
  | append_singleton entries entry ih =>
    rw [history_append_singleton]
    rcases List.mem_append.mp h with h | h
    · obtain ⟨p, hp, hsame, hmem⟩ := ih (fun e he => hd e (List.mem_append_left _ he)) h
      obtain ⟨ds, hds, heq⟩ := exists_mem_record hp entry
      refine ⟨_, hds, hsame, ?_⟩
      rcases heq with rfl | rfl
      · exact hmem
      · exact mem_renew (hd entry (by simp)) hmem
    · obtain rfl := List.mem_singleton.mp h
      exact exists_mem_record_self _ hname

theorem exists_mem_of_mem_history {entries : List (κ × α)} {p : κ × List α} {d : α}
    (hp : p ∈ history entries) (hd : d ∈ p.2) :
    ∃ name, (name, d) ∈ entries ∧ (p.1 = name ∨ (p.1 == name) = true) := by
  induction entries using List.reverseRecOn generalizing p with
  | nil => simp [history] at hp
  | append_singleton entries entry ih =>
    have hold : ∀ q ∈ history entries, d ∈ q.2 →
        ∃ name, (name, d) ∈ entries ++ [entry] ∧ (q.1 = name ∨ (q.1 == name) = true) := by
      intro q hq hdq
      obtain ⟨name, hmem, hsame⟩ := ih hq hdq
      exact ⟨name, List.mem_append_left _ hmem, hsame⟩
    rw [history_append_singleton] at hp
    rcases mem_record_cases hp with hp | ⟨ds, hds, hsame, heq⟩ | rfl
    · exact hold p hp hd
    · rw [heq] at hd
      rcases mem_of_mem_renew hd with rfl | hd
      · exact ⟨entry.1, by simp, Or.inr hsame⟩
      · exact hold (p.1, ds) hds hd
    · obtain rfl := List.mem_singleton.mp hd
      exact ⟨entry.1, by simp, Or.inl rfl⟩

/-- The names of a history are those of its entries. -/
theorem exists_of_mem_history {entries : List (κ × α)} {p : κ × List α}
    (hp : p ∈ history entries) : ∃ entry ∈ entries, p.1 = entry.1 := by
  induction entries using List.reverseRecOn generalizing p with
  | nil => simp [history] at hp
  | append_singleton entries entry ih =>
    rw [history_append_singleton] at hp
    rcases mem_record hp with hentry | hmem
    · exact ⟨entry, by simp, hentry⟩
    · obtain ⟨q, hq, hqp⟩ := List.mem_map.mp hmem
      obtain ⟨older, holder, heq⟩ := ih hq
      exact ⟨older, List.mem_append_left _ holder, hqp ▸ heq⟩

theorem history_pairwise (entries : List (κ × α)) :
    (history entries).Pairwise fun p q => (p.1 == q.1) = false := by
  induction entries using List.reverseRecOn with
  | nil => simp [history]
  | append_singleton entries entry ih =>
    rw [history_append_singleton]
    generalize history entries = histories at ih ⊢
    induction histories with
    | nil => simp [record]
    | cons head rest ihrest =>
      obtain ⟨name, ds⟩ := head
      obtain ⟨hhead, hrest⟩ := List.pairwise_cons.mp ih
      rw [record]
      split_ifs with hname
      · exact List.pairwise_cons.mpr ⟨hhead, hrest⟩
      · refine List.pairwise_cons.mpr ⟨?_, ihrest hrest⟩
        intro p hp
        rcases mem_record hp with hentry | hmem
        · simpa [hentry] using hname
        · obtain ⟨q, hq, hqp⟩ := List.mem_map.mp hmem
          rw [← hqp]
          exact hhead q hq

end Generic

variable {α β : Type} [BEq α]

theorem keys_history_nodup (entries : List (String × α)) :
    (Assoc.keys (history entries)).Nodup := by
  rw [Assoc.keys, List.Nodup, List.pairwise_map]
  exact (history_pairwise entries).imp fun h => by simpa using h

theorem get?_record (histories : List (String × List α)) (entry : String × α) (name : String) :
    Assoc.get? (record histories entry) name =
      if name = entry.1 then some (renew ((Assoc.get? histories name).getD []) entry.2)
      else Assoc.get? histories name := by
  induction histories with
  | nil => simp only [record, Assoc.get?_cons, Assoc.get?_nil, Option.getD_none]
  | cons head rest ih =>
    obtain ⟨k, ds⟩ := head
    rw [record]
    by_cases hk : k = entry.1
    · subst hk
      by_cases hname : name = entry.1 <;> simp [Assoc.get?_cons, hname]
    · by_cases hname : name = k
      · subst hname
        simp [Assoc.get?_cons, hk]
      · simp [hk, Assoc.get?_cons, hname, ih]

theorem findSome?_erase (f : String → Option β) (definitions : List String) {latest : String}
    (h : f latest = none) : (definitions.erase latest).findSome? f = definitions.findSome? f := by
  induction definitions with
  | nil => rfl
  | cons d rest ih =>
    by_cases hd : d = latest
    · subst hd
      simp [h]
    · simp [hd, List.findSome?_cons, ih]

theorem findSome?_renew (f : String → Option β) (definitions : List String) (latest : String) :
    (renew definitions latest).findSome? f = (f latest).or (definitions.findSome? f) := by
  rw [renew, List.findSome?_cons]
  cases h : f latest with
  | none => exact findSome?_erase f definitions h
  | some b => rfl

/-- What is found first in the history of a name is found in the last of its rows. -/
theorem findSome?_history (f : String → Option β) (entries : List (String × String))
    (name : String) :
    ((Assoc.get? (history entries) name).getD []).findSome? f =
      entries.reverse.findSome? fun entry => if entry.1 = name then f entry.2 else none := by
  induction entries using List.reverseRecOn with
  | nil => rfl
  | append_singleton entries entry ih =>
    rw [history_append_singleton, get?_record, List.reverse_append, List.reverse_singleton,
      List.singleton_append, List.findSome?_cons]
    by_cases hname : name = entry.1
    · subst hname
      simp only [if_true, Option.getD_some, findSome?_renew, ih]
      cases f entry.2 <;> rfl
    · rw [if_neg hname, if_neg (Ne.symm hname), ih]

end Component

end WorldQuery
