import Mathlib.Tactic

/-!
# When a checked computation succeeds

A sequence of steps that can fail succeeds if all steps do, and a loop of checks if every check
does. The lemmas take a success apart without unfolding the steps.
-/

namespace WorldQuery.Success

variable {ε ε' α β : Type}

theorem bind_eq_ok_iff {x : Except ε α} {f : α → Except ε β} {b : β} :
    (x >>= f) = .ok b ↔ ∃ a, x = .ok a ∧ f a = .ok b := by
  cases x <;> simp [bind, Except.bind]

theorem bind_eq_error_iff {x : Except ε α} {f : α → Except ε β} {e : ε} :
    (x >>= f) = .error e ↔ x = .error e ∨ ∃ a, x = .ok a ∧ f a = .error e := by
  cases x <;> simp [bind, Except.bind]

theorem map_eq_ok_iff {x : Except ε α} {f : α → β} {b : β} :
    x.map f = .ok b ↔ ∃ a, x = .ok a ∧ f a = b := by
  cases x <;> simp [Except.map]

theorem map_eq_error_iff {x : Except ε α} {f : α → β} {e : ε} :
    x.map f = .error e ↔ x = .error e := by
  cases x <;> simp [Except.map]

theorem mapError_eq_ok_iff {x : Except ε α} {f : ε → ε'} {a : α} :
    x.mapError f = .ok a ↔ x = .ok a := by
  cases x <;> simp [Except.mapError]

theorem mapError_eq_error_iff {x : Except ε α} {f : ε → ε'} {e : ε'} :
    x.mapError f = .error e ↔ ∃ e', x = .error e' ∧ f e' = e := by
  cases x <;> simp [Except.mapError]

theorem throw_ne_ok {e : ε} {a : α} : (throw e : Except ε α) ≠ .ok a := by
  simp [throw, throwThe, MonadExceptOf.throw]

theorem pure_eq_ok_iff {a b : α} : (pure a : Except ε α) = .ok b ↔ a = b := by
  simp [pure, Except.pure]

theorem toOption_eq_some_iff {x : Except ε α} {a : α} : x.toOption = some a ↔ x = .ok a := by
  cases x <;> simp [Except.toOption]

theorem exists_eq_ok {x : Except ε α} (h : x.toOption.isSome = true) : ∃ a, x = .ok a := by
  cases x with
  | ok a => exact ⟨a, rfl⟩
  | error e => simp [Except.toOption] at h

theorem mapM_eq_ok_iff {f : α → Except ε β} {as : List α} {bs : List β} :
    as.mapM f = .ok bs ↔ List.Forall₂ (fun a b => f a = .ok b) as bs := by
  induction as generalizing bs with
  | nil => rw [List.mapM_nil, pure_eq_ok_iff, List.forall₂_nil_left_iff, eq_comm]
  | cons a as ih =>
    rw [List.mapM_cons]
    simp only [bind_eq_ok_iff, ih, pure_eq_ok_iff]
    constructor
    · rintro ⟨b, hb, bs, hbs, rfl⟩
      exact .cons hb hbs
    · rintro (_ | ⟨hb, hbs⟩)
      exact ⟨_, hb, _, hbs, rfl⟩

theorem mapM_map {f : α → Except ε β} {g : α → β} {as : List α} (h : ∀ a ∈ as, f a = .ok (g a)) :
    as.mapM f = .ok (as.map g) := by
  rw [mapM_eq_ok_iff, List.forall₂_map_right_iff, List.forall₂_same]
  exact h

theorem mapM_congr {f g : α → Except ε β} {as : List α} (h : ∀ a ∈ as, f a = g a) :
    as.mapM f = as.mapM g := by
  induction as with
  | nil => rfl
  | cons a as ih =>
    rw [List.mapM_cons, List.mapM_cons, h a List.mem_cons_self,
      ih fun a ha => h a (List.mem_cons_of_mem _ ha)]

theorem exists_mapM_eq_ok {f : α → Except ε β} {as : List α} (h : ∀ a ∈ as, ∃ b, f a = .ok b) :
    ∃ bs, as.mapM f = .ok bs := by
  induction as with
  | nil => exact ⟨[], List.mapM_nil⟩
  | cons a as ih =>
    obtain ⟨b, hb⟩ := h a List.mem_cons_self
    obtain ⟨bs, hbs⟩ := ih fun a ha => h a (List.mem_cons_of_mem _ ha)
    exact ⟨b :: bs, mapM_eq_ok_iff.mpr (.cons hb (mapM_eq_ok_iff.mp hbs))⟩

theorem exists_of_mapM_eq_ok {f : α → Except ε β} {as : List α} {bs : List β}
    (h : as.mapM f = .ok bs) : ∀ a ∈ as, ∃ b, f a = .ok b := by
  intro a ha
  have hall := mapM_eq_ok_iff.mp h
  obtain ⟨i, hi, rfl⟩ := List.getElem_of_mem ha
  exact ⟨_, hall.get hi (hall.length_eq ▸ hi)⟩

theorem eq_map_of_mapM_eq_ok {f : α → Except ε β} {g : α → β} {as : List α} {bs : List β}
    (h : as.mapM f = .ok bs) (hg : ∀ a ∈ as, ∀ b, f a = .ok b → b = g a) : bs = as.map g := by
  have hall : as.mapM f = .ok (as.map g) := mapM_map fun a ha => by
    obtain ⟨b, hb⟩ := exists_of_mapM_eq_ok h a ha
    rw [hb, hg a ha b hb]
  exact Except.ok.inj (h.symm.trans hall)

/-- Several steps fail with the fault of the first that fails. -/
theorem mapM_eq_error_iff {f : α → Except ε β} {as : List α} {e : ε} :
    as.mapM f = .error e ↔ ∃ before a after, as = before ++ a :: after ∧
      (∀ b ∈ before, ∃ x, f b = .ok x) ∧ f a = .error e := by
  constructor
  · intro h
    induction as with
    | nil => simp [pure, Except.pure] at h
    | cons a as ih =>
      rw [List.mapM_cons] at h
      cases ha : f a with
      | error e' =>
        obtain rfl : e' = e := by simpa [ha, bind, Except.bind] using h
        exact ⟨[], a, as, rfl, by simp, ha⟩
      | ok b =>
        have has : as.mapM f = .error e := by
          cases has : as.mapM f with
          | ok bs => simp [ha, has, bind, Except.bind, pure, Except.pure] at h
          | error e' => simpa [ha, has, bind, Except.bind] using h
        obtain ⟨before, a', after, rfl, hbefore, ha'⟩ := ih has
        exact ⟨a :: before, a', after, rfl, List.forall_mem_cons.mpr ⟨⟨b, ha⟩, hbefore⟩, ha'⟩
  · rintro ⟨before, a, after, rfl, hbefore, ha⟩
    obtain ⟨bs, hbs⟩ := exists_mapM_eq_ok hbefore
    rw [List.mapM_append, hbs, List.mapM_cons, ha]
    rfl

theorem exists_of_mapM_eq_error {f : α → Except ε β} {as : List α} {e : ε}
    (h : as.mapM f = .error e) : ∃ a ∈ as, f a = .error e := by
  obtain ⟨before, a, after, rfl, -, ha⟩ := mapM_eq_error_iff.mp h
  exact ⟨a, by simp, ha⟩

/-- A loop of which no turn ends it early. -/
theorem forIn_eq_ok_iff {body : α → PUnit.{1} → Except ε (ForInStep PUnit.{1})}
    (hbody : ∀ a r, body a ⟨⟩ = .ok r → r = .yield ⟨⟩) {as : List α} {u : PUnit.{1}} :
    forIn as PUnit.unit body = .ok u ↔ ∀ a ∈ as, body a ⟨⟩ = .ok (.yield ⟨⟩) := by
  induction as with
  | nil => simpa using pure_eq_ok_iff.mpr rfl
  | cons a as ih =>
    rw [List.forIn_cons]
    constructor
    · intro h
      obtain ⟨r, hr, hrest⟩ := bind_eq_ok_iff.mp h
      obtain rfl := hbody a r hr
      intro x hx
      rcases List.mem_cons.mp hx with rfl | hx
      · exact hr
      · exact ih.mp hrest x hx
    · intro h
      exact bind_eq_ok_iff.mpr ⟨.yield ⟨⟩, h a (by simp), ih.mpr fun x hx => h x (by simp [hx])⟩

theorem forIn_check_iff {check : α → Except ε PUnit.{1}} {as : List α} {u : PUnit.{1}} :
    (forIn as PUnit.unit fun a _ => do check a; pure (ForInStep.yield PUnit.unit)) = .ok u ↔
      ∀ a ∈ as, check a = .ok ⟨⟩ := by
  rw [forIn_eq_ok_iff]
  · refine forall₂_congr fun a _ => ?_
    cases check a <;> simp [bind, Except.bind, pure, Except.pure]
  · intro a r h
    obtain ⟨-, -, hr⟩ := bind_eq_ok_iff.mp h
    exact (pure_eq_ok_iff.mp hr).symm

theorem exists_of_forIn_check_eq_error {check : α → Except ε PUnit.{1}} {as : List α} {e : ε}
    (h : (forIn as PUnit.unit fun a _ => do check a; pure (ForInStep.yield PUnit.unit)) =
      .error e) : ∃ a ∈ as, check a = .error e := by
  induction as with
  | nil => simp [pure, Except.pure] at h
  | cons a as ih =>
    rw [List.forIn_cons] at h
    cases ha : check a with
    | error e' =>
      obtain rfl : e' = e := by simpa [ha, bind, Except.bind] using h
      exact ⟨a, List.mem_cons_self, ha⟩
    | ok u =>
      simp only [ha, bind, Except.bind, pure, Except.pure] at h
      obtain ⟨a', ha', hcheck⟩ := ih h
      exact ⟨a', List.mem_cons_of_mem a ha', hcheck⟩

theorem forIn_throw_iff {bad : α → Bool} {fault : α → ε} {as : List α} {u : PUnit.{1}} :
    (forIn as PUnit.unit fun a _ =>
        if bad a = true then (do (throw (fault a) : Except ε PUnit); pure (.yield PUnit.unit))
        else pure (.yield PUnit.unit) : Except ε PUnit.{1}) = .ok u ↔
      ∀ a ∈ as, bad a = false := by
  rw [forIn_eq_ok_iff]
  · refine forall₂_congr fun a _ => ?_
    cases bad a <;>
      simp [bind, Except.bind, pure, Except.pure, throw, throwThe, MonadExceptOf.throw]
  · intro a r h
    cases hbad : bad a with
    | true => simp [hbad, bind, Except.bind, throw, throwThe, MonadExceptOf.throw] at h
    | false => simpa [hbad, pure, Except.pure, eq_comm] using h

end WorldQuery.Success
