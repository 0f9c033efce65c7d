import WorldQuery.Assoc
import Mathlib.Tactic

/-!
# Tables without repeated keys

A list of pairs is the table that `Assoc.ofList` makes of it exactly if its keys are different, and
then its entries are what `Assoc.get?` finds.
-/

namespace WorldQuery.Assoc

variable {α : Type} {table : List (String × α)} {key : String}

theorem has_eq_false_iff : has table key = false ↔ key ∉ keys table := by simp [has]

@[simp] theorem get?_nil : get? ([] : List (String × α)) key = none := rfl

theorem get?_cons (k : String) (v : α) (rest : List (String × α)) :
    get? ((k, v) :: rest) key = if key = k then some v else get? rest key := by
  by_cases h : key = k
  · simp [get?, h]
  · have hne : (key == k) = false := by simpa using h
    simp [get?, List.lookup_cons, hne, h]

theorem get?_eq_none_iff : get? table key = none ↔ key ∉ keys table := by
  induction table with
  | nil => simp [keys]
  | cons entry rest ih =>
    obtain ⟨k, v⟩ := entry
    rw [get?_cons]
    by_cases h : key = k
    · simp [h, keys]
    · simpa [h, keys] using ih

theorem mem_of_get? {value : α} (h : get? table key = some value) : (key, value) ∈ table := by
  induction table with
  | nil => simp at h
  | cons entry rest ih =>
    obtain ⟨k, v⟩ := entry
    rw [get?_cons] at h
    split_ifs at h with hk
    · obtain rfl : v = value := by simpa using h
      simp [hk]
    · exact List.mem_cons_of_mem _ (ih h)

theorem get?_of_mem (hnodup : (keys table).Nodup) {value : α} (h : (key, value) ∈ table) :
    get? table key = some value := by
  induction table with
  | nil => simp at h
  | cons entry rest ih =>
    obtain ⟨k, v⟩ := entry
    obtain ⟨hk, hrest⟩ : k ∉ keys rest ∧ (keys rest).Nodup := by simpa [keys] using hnodup
    rw [get?_cons]
    rcases List.mem_cons.mp h with heq | h
    · obtain ⟨rfl, rfl⟩ : key = k ∧ value = v := by simpa using heq
      simp
    · have hmem : key ∈ keys rest := List.mem_map.mpr ⟨(key, value), h, rfl⟩
      have hne : key ≠ k := by
        rintro rfl
        exact hk hmem
      rw [if_neg hne]
      exact ih hrest h

theorem put_of_not_mem (h : key ∉ keys table) (value : α) :
    put table key value = table ++ [(key, value)] := by
  induction table with
  | nil => rfl
  | cons entry rest ih =>
    obtain ⟨k, v⟩ := entry
    obtain ⟨hk, hrest⟩ : key ≠ k ∧ key ∉ keys rest := by simpa [keys] using h
    rw [put, if_neg (Ne.symm hk), ih hrest]
    rfl

theorem foldl_put_of_nodup (done pairs : List (String × α))
    (h : (keys (done ++ pairs)).Nodup) :
    pairs.foldl (fun table (key, value) => put table key value) done = done ++ pairs := by
  induction pairs generalizing done with
  | nil => simp
  | cons pair rest ih =>
    obtain ⟨k, v⟩ := pair
    have hk : k ∉ keys done := by
      rw [keys, List.map_append, List.nodup_append] at h
      intro hmem
      exact h.2.2 k hmem k (by simp) rfl
    have hstep : put done k v = done ++ [(k, v)] := put_of_not_mem hk v
    simp only [List.foldl_cons, hstep]
    rw [ih (done ++ [(k, v)]) (by simpa using h)]
    simp

theorem ofList_of_nodup (h : (keys table).Nodup) : ofList table = table := by
  simpa [ofList] using foldl_put_of_nodup [] table (by simpa using h)

/-! ### What repeated keys do -/

theorem keys_put (table : List (String × α)) (key : String) (value : α) :
    keys (put table key value) = if key ∈ keys table then keys table else keys table ++ [key] := by
  induction table with
  | nil => rfl
  | cons entry rest ih =>
    obtain ⟨k, v⟩ := entry
    by_cases h : k = key
    · simp [put, keys, h]
    · have hput : keys (put ((k, v) :: rest) key value) = k :: keys (put rest key value) := by
        simp [put, keys, h]
      have hmem : key ∈ keys ((k, v) :: rest) ↔ key ∈ keys rest := by
        simp [keys, Ne.symm h]
      rw [hput, ih]
      simp only [hmem]
      split_ifs <;> rfl

theorem nodup_keys_put (h : (keys table).Nodup) (value : α) :
    (keys (put table key value)).Nodup := by
  rw [keys_put]
  split_ifs with hmem
  · exact h
  · exact h.append (by simp) (by simpa using hmem)

theorem ofList_concat (pairs : List (String × α)) (key : String) (value : α) :
    ofList (pairs ++ [(key, value)]) = put (ofList pairs) key value := by
  simp [ofList, List.foldl_append]

theorem nodup_keys_ofList (pairs : List (String × α)) : (keys (ofList pairs)).Nodup := by
  induction pairs using List.reverseRecOn with
  | nil => simp [ofList, keys]
  | append_singleton pairs pair ih =>
    rw [ofList_concat]
    exact nodup_keys_put ih pair.2

theorem mem_of_mem_put {entry : String × α} {value : α} (h : entry ∈ put table key value) :
    entry ∈ table ∨ entry = (key, value) := by
  induction table with
  | nil => exact Or.inr (by simpa [put] using h)
  | cons first rest ih =>
    obtain ⟨k, v⟩ := first
    rw [put] at h
    split_ifs at h with hk
    · rcases List.mem_cons.mp h with rfl | h
      · exact Or.inr (by rw [hk])
      · exact Or.inl (List.mem_cons_of_mem _ h)
    · rcases List.mem_cons.mp h with rfl | h
      · exact Or.inl List.mem_cons_self
      · exact (ih h).imp_left (List.mem_cons_of_mem _)

theorem ofList_subset (pairs : List (String × α)) : ofList pairs ⊆ pairs := by
  induction pairs using List.reverseRecOn with
  | nil => exact List.Subset.refl _
  | append_singleton pairs pair ih =>
    rw [ofList_concat]
    intro entry hentry
    rcases mem_of_mem_put hentry with hentry | rfl
    · exact List.mem_append_left _ (ih hentry)
    · exact List.mem_append_right _ List.mem_cons_self

theorem put_append_of_not_mem {front : List (String × α)} (h : key ∉ keys front)
    (back : List (String × α)) (value : α) :
    put (front ++ back) key value = front ++ put back key value := by
  induction front with
  | nil => rfl
  | cons entry rest ih =>
    obtain ⟨k, v⟩ := entry
    obtain ⟨hk, hrest⟩ : key ≠ k ∧ key ∉ keys rest := by simpa [keys] using h
    rw [List.cons_append, put, if_neg (Ne.symm hk), ih hrest]
    rfl

theorem ofList_append {front back : List (String × α)} (hnodup : (keys front).Nodup)
    (h : ∀ key ∈ keys back, key ∉ keys front) :
    ofList (front ++ back) = front ++ ofList back := by
  induction back using List.reverseRecOn with
  | nil => simpa [ofList] using ofList_of_nodup hnodup
  | append_singleton back pair ih =>
    have hback : ∀ key ∈ keys back, key ∉ keys front := fun key hkey =>
      h key (by simp only [keys, List.map_append]; exact List.mem_append_left _ hkey)
    have hpair : pair.1 ∉ keys front := h pair.1 (by simp [keys])
    rw [← List.append_assoc, ofList_concat, ofList_concat, ih hback, put_append_of_not_mem hpair]

end WorldQuery.Assoc
