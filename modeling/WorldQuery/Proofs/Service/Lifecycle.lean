import WorldQuery.Service
import Mathlib.Tactic

/-!
# The schema of a service over its life

A service is used in turns: the store gets another content, the schema is rebuilt, or a request is
answered. `LastBuilt` says which schema is in force after some turns, by what the turns need and by
the stores that they find, without looking at the service: it is the one of the last build that
succeeded. `Session.after_lawful` says that a service keeps just this schema, whatever fails on the
way.
-/

namespace WorldQuery

/-- What a turn needs: no schema, some schema, or the one of the present store. -/
inductive Need where
  | nothing
  | some
  | fresh
  deriving DecidableEq, Repr

/-- The turns of a run: what each of them needs, and the store that it finds. -/
abbrev Turns := List (Need × Store)

namespace Turns

section Builds

variable (tablePrefix : String) (initial : Option Schema)

/-- A turn needs a schema, and the store has one. -/
def Buildable (turns : Turns) (i : Nat) : Prop :=
  ∃ need s schema, turns[i]? = some (need, s) ∧ need ≠ .nothing ∧
    Schema.ofStore s tablePrefix = .ok schema

/-- A turn builds a schema: a fresh one is needed, or there is none from the start or before. -/
def BuiltAt (turns : Turns) (i : Nat) (schema : Schema) : Prop :=
  ∃ need s, turns[i]? = some (need, s) ∧ Schema.ofStore s tablePrefix = .ok schema ∧
    (need = .fresh ∨ need = .some ∧ initial = none ∧ ∀ j < i, ¬Buildable tablePrefix turns j)

/-- The schema in force after some turns: that of the last build, or the initial one. -/
inductive LastBuilt (turns : Turns) : Option Schema → Prop where
  | built {i : Nat} {schema : Schema} (built : BuiltAt tablePrefix initial turns i schema)
      (last : ∀ j other, i < j → ¬BuiltAt tablePrefix initial turns j other) :
      LastBuilt turns (some schema)
  | initial (none : ∀ i schema, ¬BuiltAt tablePrefix initial turns i schema) :
      LastBuilt turns initial

end Builds

variable {tablePrefix : String} {initial kept : Option Schema} {turns : Turns}
  {turn : Need × Store} {i : Nat} {schema : Schema}

/-! ### One more turn -/

theorem BuiltAt.lt_length (h : BuiltAt tablePrefix initial turns i schema) : i < turns.length := by
  obtain ⟨need, s, hturn, -⟩ := h
  exact (List.getElem?_eq_some_iff.mp hturn).1

theorem BuiltAt.buildable (h : BuiltAt tablePrefix initial turns i schema) :
    Buildable tablePrefix turns i := by
  obtain ⟨need, s, hturn, hschema, hneed⟩ := h
  refine ⟨need, s, schema, hturn, ?_, hschema⟩
  rintro rfl
  simp at hneed

theorem buildable_append_iff (hi : i < turns.length) :
    Buildable tablePrefix (turns ++ [turn]) i ↔ Buildable tablePrefix turns i := by
  simp only [Buildable, List.getElem?_append_left hi]

theorem builtAt_append_iff (hi : i < turns.length) :
    BuiltAt tablePrefix initial (turns ++ [turn]) i schema ↔
      BuiltAt tablePrefix initial turns i schema := by
  have hearlier : (∀ j < i, ¬Buildable tablePrefix (turns ++ [turn]) j) ↔
      ∀ j < i, ¬Buildable tablePrefix turns j :=
    forall₂_congr fun j hj => not_congr (buildable_append_iff (hj.trans hi))
  simp only [BuiltAt, List.getElem?_append_left hi, hearlier]

theorem not_buildable_of_not_builtAt
    (h : ∀ i schema, ¬BuiltAt tablePrefix none turns i schema) (i : Nat) :
    ¬Buildable tablePrefix turns i := by
  -- the first turn that could build would have built
  induction i using Nat.strong_induction_on with
  | _ i ih =>
    rintro ⟨need, s, schema, hturn, hneed, hschema⟩
    refine h i schema ⟨need, s, hturn, hschema, ?_⟩
    cases need with
    | nothing => exact absurd rfl hneed
    | some => exact Or.inr ⟨rfl, rfl, ih⟩
    | fresh => exact Or.inl rfl

theorem LastBuilt.eq_none_iff (h : LastBuilt tablePrefix initial turns kept) :
    kept = none ↔ initial = none ∧ ∀ j < turns.length, ¬Buildable tablePrefix turns j := by
  cases h with
  | built hbuilt =>
    simp only [reduceCtorEq, false_iff, not_and, not_forall, not_not]
    exact fun _ => ⟨_, hbuilt.lt_length, hbuilt.buildable⟩
  | initial hnone =>
    constructor
    · rintro rfl
      exact ⟨rfl, fun j _ => not_buildable_of_not_builtAt hnone j⟩
    · exact And.left

/-- The last turn builds if it needs a fresh schema, or some schema while there is none. -/
theorem LastBuilt.builtAt_length_iff (h : LastBuilt tablePrefix initial turns kept) :
    BuiltAt tablePrefix initial (turns ++ [turn]) turns.length schema ↔
      Schema.ofStore turn.2 tablePrefix = .ok schema ∧
        (turn.1 = .fresh ∨ turn.1 = .some ∧ kept = none) := by
  have hearlier : (∀ j < turns.length, ¬Buildable tablePrefix (turns ++ [turn]) j) ↔
      ∀ j < turns.length, ¬Buildable tablePrefix turns j :=
    forall₂_congr fun j hj => not_congr (buildable_append_iff hj)
  obtain ⟨need, s⟩ := turn
  simp only [BuiltAt, List.getElem?_append_right le_rfl, Nat.sub_self, List.getElem?_cons_zero,
    Option.some.injEq, Prod.mk.injEq, hearlier, h.eq_none_iff]
  constructor
  · rintro ⟨_, _, ⟨rfl, rfl⟩, hschema, hneed⟩
    exact ⟨hschema, hneed⟩
  · rintro ⟨hschema, hneed⟩
    exact ⟨need, s, ⟨rfl, rfl⟩, hschema, hneed⟩

/-- One more turn: what it builds is in force from then on, and if it builds nothing, what was. -/
theorem LastBuilt.append (h : LastBuilt tablePrefix initial turns kept) {kept' : Option Schema}
    (hbuilt : ∀ schema, Schema.ofStore turn.2 tablePrefix = .ok schema →
      (turn.1 = .fresh ∨ turn.1 = .some ∧ kept = none) → kept' = some schema)
    (hquiet : (∀ schema, Schema.ofStore turn.2 tablePrefix = .ok schema →
      ¬(turn.1 = .fresh ∨ turn.1 = .some ∧ kept = none)) → kept' = kept) :
    LastBuilt tablePrefix initial (turns ++ [turn]) kept' := by
  have hlength : ∀ {j other}, BuiltAt tablePrefix initial (turns ++ [turn]) j other →
      turns.length ≤ j → j = turns.length := by
    intro j other hj hle
    have hlt := hj.lt_length
    rw [List.length_append, List.length_singleton] at hlt
    omega
  by_cases hnew : ∃ schema, BuiltAt tablePrefix initial (turns ++ [turn]) turns.length schema
  · obtain ⟨schema, hschema⟩ := hnew
    obtain ⟨hstore, hneed⟩ := h.builtAt_length_iff.mp hschema
    rw [hbuilt schema hstore hneed]
    refine .built hschema fun j other hj hother => ?_
    exact absurd (hlength hother hj.le) hj.ne'
  · have hold : ∀ {j other}, BuiltAt tablePrefix initial (turns ++ [turn]) j other →
        BuiltAt tablePrefix initial turns j other := by
      intro j other hj
      rcases Nat.lt_or_ge j turns.length with hlt | hge
      · exact (builtAt_append_iff hlt).mp hj
      · exact absurd ⟨other, hlength hj hge ▸ hj⟩ hnew
    rw [hquiet fun schema hstore hneed =>
      hnew ⟨schema, h.builtAt_length_iff.mpr ⟨hstore, hneed⟩⟩]
    cases h with
    | built hschema hlast =>
      exact .built ((builtAt_append_iff hschema.lt_length).mpr hschema) fun j other hj hother =>
        hlast j other hj (hold hother)
    | initial hnone => exact .initial fun j other hother => hnone j other (hold hother)

end Turns

/-! ### Services -/

namespace Service

open Query

inductive Event where
  | change (s : Store)
  | rebuild
  | request (r : Request)

def Event.need : Event → Need
  | change _ => .nothing
  | rebuild => .fresh
  | request _ => .some

structure Session where
  store : Store
  service : Service

/-- The turns of some events, beginning at a store. -/
def turns (s : Store) : List Event → Turns
  | [] => []
  | .change s' :: rest => (.nothing, s) :: turns s' rest
  | e :: rest => (e.need, s) :: turns s rest

namespace Session

def next (x : Session) : Event → Session
  | .change s => { x with store := s }
  | .rebuild => { x with service := x.service.afterRebuild x.store }
  | .request _ => { x with service := x.service.afterRequest x.store }

def after (x : Session) (events : List Event) : Session := events.foldl next x

/-- What holds of a session in which some turns have been taken: the schema is that of the last
build, builds that fail leave everything as it is, and requests are answered by the schema from the
present store. -/
structure Lawful (initial : Option Schema) (turns : Turns) (x : Session) : Prop where
  last : Turns.LastBuilt x.service.tablePrefix initial turns x.service.schema?
  rebuilt : ∀ schema, Schema.ofStore x.store x.service.tablePrefix = .ok schema →
    x.service.rebuild x.store = .ok schema ∧
      x.next .rebuild = { x with service := x.service.install schema }
  not_rebuilt : ∀ fault, Schema.ofStore x.store x.service.tablePrefix = .error fault →
    x.service.rebuild x.store = .error fault ∧ x.next .rebuild = x
  answered : ∀ schema, x.service.schema? = some schema → ∀ r,
    x.service.execute x.store r = .ok (Query.execute schema (some x.store) r) ∧
      x.next (.request r) = x
  first_built : x.service.schema? = none → ∀ schema,
    Schema.ofStore x.store x.service.tablePrefix = .ok schema → ∀ r,
      x.service.execute x.store r = .ok (Query.execute schema (some x.store) r) ∧
        x.next (.request r) = { x with service := x.service.install schema }
  not_built : x.service.schema? = none → ∀ fault,
    Schema.ofStore x.store x.service.tablePrefix = .error fault → ∀ r,
      x.service.execute x.store r = .error fault ∧ x.next (.request r) = x

variable {x : Session} {initial : Option Schema} {done : Turns}

theorem next_rebuild_of_ok {schema : Schema}
    (h : Schema.ofStore x.store x.service.tablePrefix = .ok schema) :
    x.next .rebuild = { x with service := x.service.install schema } := by
  simp only [next, afterRebuild, rebuild, h, adopt]

theorem next_rebuild_of_error {fault : SchemaFault}
    (h : Schema.ofStore x.store x.service.tablePrefix = .error fault) : x.next .rebuild = x := by
  simp only [next, afterRebuild, rebuild, h, adopt]

theorem next_request_of_some {schema : Schema} (h : x.service.schema? = some schema) (r : Request) :
    x.next (.request r) = x := by
  obtain ⟨store, schema?, tablePrefix⟩ := x
  obtain rfl : schema? = some schema := h
  rfl

theorem next_request_of_none (h : x.service.schema? = none) (r : Request) :
    x.next (.request r) = x.next .rebuild := by
  simp only [next, afterRequest, afterRebuild, current, h]

theorem tablePrefix_next (e : Event) : (x.next e).service.tablePrefix = x.service.tablePrefix := by
  have hadopt : ∀ result, (x.service.adopt result).tablePrefix = x.service.tablePrefix := by
    rintro (fault | schema) <;> rfl
  cases e with
  | change s => rfl
  | rebuild => exact hadopt _
  | request r => exact hadopt _

theorem lastBuilt_next (e : Event)
    (h : done.LastBuilt x.service.tablePrefix initial x.service.schema?) :
    (done ++ [(e.need, x.store)]).LastBuilt x.service.tablePrefix initial
      (x.next e).service.schema? := by
  cases e with
  | change s => exact h.append (fun _ _ hneed => by simp [Event.need] at hneed) fun _ => rfl
  | rebuild =>
    refine h.append (fun schema hschema _ => ?_) fun hquiet => ?_
    · rw [next_rebuild_of_ok hschema]
      rfl
    · cases hbuild : Schema.ofStore x.store x.service.tablePrefix with
      | ok schema => exact absurd (Or.inl rfl) (hquiet schema hbuild)
      | error fault => rw [next_rebuild_of_error hbuild]
  | request r =>
    cases hschema? : x.service.schema? with
    | some schema =>
      rw [hschema?] at h
      refine h.append (fun _ _ hneed => by simp [Event.need] at hneed) fun _ => ?_
      rw [next_request_of_some hschema?, hschema?]
    | none =>
      rw [hschema?] at h
      rw [next_request_of_none hschema?]
      refine h.append (fun schema hschema _ => ?_) fun hquiet => ?_
      · rw [next_rebuild_of_ok hschema]
        rfl
      · cases hbuild : Schema.ofStore x.store x.service.tablePrefix with
        | ok schema => exact absurd (Or.inr ⟨rfl, rfl⟩) (hquiet schema hbuild)
        | error fault => rw [next_rebuild_of_error hbuild, hschema?]

theorem turns_cons (e : Event) (events : List Event) :
    turns x.store (e :: events) = (e.need, x.store) :: turns (x.next e).store events := by
  cases e <;> rfl

theorem lastBuilt_after (events : List Event)
    (h : done.LastBuilt x.service.tablePrefix initial x.service.schema?) :
    (done ++ turns x.store events).LastBuilt x.service.tablePrefix initial
      (x.after events).service.schema? := by
  induction events generalizing x done with
  | nil => simpa [turns, after] using h
  | cons e events ih =>
    have hnext := lastBuilt_next e h
    rw [← tablePrefix_next e] at hnext ⊢
    simpa [turns_cons, after] using ih hnext

theorem tablePrefix_after (events : List Event) :
    (x.after events).service.tablePrefix = x.service.tablePrefix := by
  induction events generalizing x with
  | nil => rfl
  | cons e events ih => exact ih.trans (tablePrefix_next e)

theorem after_lawful (x : Session) (events : List Event) :
    Lawful x.service.schema? (turns x.store events) (x.after events) := by
  have hstart : Turns.LastBuilt x.service.tablePrefix x.service.schema? [] x.service.schema? :=
    .initial fun i schema hbuilt => absurd hbuilt.lt_length (Nat.not_lt_zero i)
  have hlast := lastBuilt_after events hstart
  rw [List.nil_append, ← tablePrefix_after events] at hlast
  generalize x.after events = y at hlast ⊢
  constructor
  case last => exact hlast
  case rebuilt => exact fun schema hschema => ⟨hschema, next_rebuild_of_ok hschema⟩
  case not_rebuilt => exact fun fault hfault => ⟨hfault, next_rebuild_of_error hfault⟩
  case answered =>
    intro schema hschema r
    refine ⟨?_, next_request_of_some hschema r⟩
    simp only [execute, current, hschema]
    rfl
  case first_built =>
    intro hnone schema hschema r
    refine ⟨?_, (next_request_of_none hnone r).trans (next_rebuild_of_ok hschema)⟩
    simp only [execute, current, hnone, rebuild, hschema]
    rfl
  case not_built =>
    intro hnone fault hfault r
    refine ⟨?_, (next_request_of_none hnone r).trans (next_rebuild_of_error hfault)⟩
    simp only [execute, current, hnone, rebuild, hfault]
    rfl

end Session

end Service

end WorldQuery
