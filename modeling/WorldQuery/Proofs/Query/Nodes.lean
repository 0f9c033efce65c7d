import WorldQuery.Query.Execution
import Mathlib.Tactic

/-!
# Objects of an outcome

`Outcome.nodes` lists the objects of an outcome: the type that each was answered as, and what its
fields were resolved from. What every resolver hands on to the types of its field holds of all
objects of an execution, by one induction over the depth of answers: `nodes_of_step`.
-/

namespace WorldQuery.Query

namespace Outcome

mutual

/-- The objects of an outcome, each by its type and what its fields were resolved from. -/
def nodes : Outcome → List (String × Source)
  | leaf _ => []
  | failed _ _ => []
  | items xs => nodesOf xs
  | object type source fields => (type, source) :: nodesIn fields
  | required inner => inner.nodes

def nodesOf : List Outcome → List (String × Source)
  | [] => []
  | x :: rest => x.nodes ++ nodesOf rest

def nodesIn : List (String × Outcome) → List (String × Source)
  | [] => []
  | (_, x) :: rest => x.nodes ++ nodesIn rest

end

theorem mem_nodesOf {node : String × Source} {xs : List Outcome} :
    node ∈ nodesOf xs ↔ ∃ x ∈ xs, node ∈ x.nodes := by
  induction xs with
  | nil => simp [nodesOf]
  | cons x rest ih => simp [nodesOf, ih]

theorem mem_nodesIn {node : String × Source} {fields : List (String × Outcome)} :
    node ∈ nodesIn fields ↔ ∃ field ∈ fields, node ∈ field.2.nodes := by
  induction fields with
  | nil => simp [nodesIn]
  | cons field rest ih => simp [nodesIn, ih]

theorem nodes_at (type : TypeExpr) (o : Outcome) : (o.at type).nodes = o.nodes := by
  unfold Outcome.at
  split_ifs <;> simp [nodes]

end Outcome

def Source.record? : Source → Option Record
  | record r => some r
  | _ => none

theorem Source.record?_eq_some_iff {source : Source} {r : Record} :
    source.record? = some r ↔ source = .record r := by
  cases source <;> simp [record?]

/-- The objects of an outcome that are read from records. -/
def Outcome.records (o : Outcome) : List (String × Record) :=
  o.nodes.filterMap fun node => node.2.record?.map (node.1, ·)

theorem Outcome.mem_records {o : Outcome} {type : String} {r : Record} :
    (type, r) ∈ o.records ↔ (type, .record r) ∈ o.nodes := by
  simp only [records, List.mem_filterMap, Option.map_eq_some_iff, Source.record?_eq_some_iff,
    Prod.mk.injEq]
  constructor
  · rintro ⟨⟨_, _⟩, hnode, _, rfl, rfl, rfl⟩
    exact hnode
  · intro hnode
    exact ⟨_, hnode, r, rfl, rfl, rfl⟩

/-- What objects are read from, among what a resolver found. -/
inductive Found.Has : Found → Source → Prop where
  | one (source : Source) : Has (.one source) source
  | many {items : List Found} {item : Found} {source : Source} (mem : item ∈ items)
      (has : Has item source) : Has (.many items) source

def foundRecord? : Option (Except AnswerFault Found) → Option Record
  | some (.ok (.one source)) => source.record?
  | _ => none

theorem foundRecord?_eq_some_iff {result? : Option (Except AnswerFault Found)} {r : Record} :
    foundRecord? result? = some r ↔ result? = some (.ok (.one (.record r))) := by
  unfold foundRecord?
  split
  · simp [Source.record?_eq_some_iff]
  · next hother =>
    refine ⟨by simp, fun h => absurd h (hother _)⟩

/-- The object type that a source is answered as, in a place of a named type. -/
inductive AnsweredAs (s : Schema) (name : String) (source : Source) : String → Prop where
  | object {type description : String} {fields : List FieldDef}
      (lookup : s.lookup name = some (.object type description fields)) :
      AnsweredAs s name source name
  | member {union type : String} {members : List String}
      (lookup : s.lookup name = some (.union union members))
      (member : memberType s name members source = .ok type) : AnsweredAs s name source type

section Completion

variable {s : Schema} {round : Nat} {node : String × Source}

theorem leafOutcome_nodes (type : String) (v : Value) :
    (leafOutcome s round type v).nodes = [] := by
  unfold leafOutcome
  cases Scalar.ofName? type with
  | some kind => cases hout : outputAsScalar kind v <;> simp [hout, Outcome.nodes]
  | none =>
    simp only
    split <;> rfl

theorem objectOutcome_nodes {answer : String → Source → Outcome} {name : String} {source : Source}
    (h : node ∈ (objectOutcome s round answer name source).nodes) :
    ∃ type, AnsweredAs s name source type ∧ node ∈ (answer type source).nodes := by
  unfold objectOutcome at h
  split at h
  · next hlookup => exact ⟨name, .object hlookup, h⟩
  · next members hlookup =>
    split at h
    · next member hmember => exact ⟨member, .member hlookup hmember, h⟩
    · simp [Outcome.nodes] at h
  · simp [Outcome.nodes] at h

theorem complete_nodes {owner field : String} {answer : String → Source → Outcome}
    {type : TypeExpr} {found : Found}
    (h : node ∈ (complete s round owner field answer type found).nodes) :
    ∃ source type', found.Has source ∧ AnsweredAs s type.base source type' ∧
      node ∈ (answer type' source).nodes := by
  induction type generalizing found with
  | named name =>
    cases found with
    | nothing => simp [complete, Outcome.nodes] at h
    | leaf v => simp [complete, leafOutcome_nodes] at h
    | one source =>
      obtain ⟨type', hanswered, hnode⟩ := objectOutcome_nodes h
      exact ⟨source, type', .one source, hanswered, hnode⟩
    | many items => simp [complete, Outcome.nodes] at h
  | list item ih =>
    cases found with
    | many items =>
      obtain ⟨o, ho, hnode⟩ := Outcome.mem_nodesOf.mp h
      obtain ⟨found, hfound, rfl⟩ := List.mem_map.mp ho
      obtain ⟨source, type', hhas, hanswered, hnode⟩ := ih hnode
      exact ⟨source, type', .many hfound hhas, hanswered, hnode⟩
    | nothing => simp [complete, Outcome.nodes] at h
    | leaf v => simp [complete, Outcome.nodes] at h
    | one source => simp [complete, Outcome.nodes] at h
  | nonNull inner ih =>
    cases found with
    | nothing => simp [complete, Outcome.nodes] at h
    | leaf v => exact ih h
    | one source => exact ih h
    | many items => exact ih h

end Completion

section Execution

variable {x : Execution} {node : String × Source}

theorem answerField_nodes {answer : Nat → List Selection → String → Source → Outcome}
    {owner : TypeDef} {source : Source} {round : Nat} {uses : List FieldUse} {o : Outcome}
    (h : answerField x answer owner source round uses = some o) (hnode : node ∈ o.nodes) :
    ∃ name f args found source' type round' selections,
      Schema.field? owner name = some f ∧
        (resolve x.schema x.store? owner.name source round args f.resolver).result = .ok found ∧
        found.Has source' ∧ AnsweredAs x.schema f.type.base source' type ∧
        node ∈ (answer round' selections type source').nodes := by
  unfold answerField at h
  obtain ⟨use, huse, h⟩ := Option.bind_eq_some_iff.mp h
  obtain ⟨f, hf, h⟩ := Option.bind_eq_some_iff.mp h
  split at h
  · obtain rfl := Option.some.inj h
    simp [Outcome.nodes_at, Outcome.nodes] at hnode
  · next args hargs =>
    dsimp only at h
    split at h
    · obtain rfl := Option.some.inj h
      simp [Outcome.nodes_at, Outcome.nodes] at hnode
    · next found hfound =>
      obtain rfl := Option.some.inj h
      obtain ⟨source', type, hhas, hanswered, hnode⟩ := complete_nodes hnode
      exact ⟨use.name, f, args, found, source', type, _, _, hf, hfound, hhas, hanswered, hnode⟩

/-- A property of objects that every resolver hands on holds of all objects of an answer. -/
theorem nodes_of_step {P : String → Source → Prop}
    (step : ∀ owner source name f args round found source' type, P owner.name source →
      x.schema.lookup owner.name = some owner → Schema.field? owner name = some f →
      (resolve x.schema x.store? owner.name source round args f.resolver).result = .ok found →
      found.Has source' → AnsweredAs x.schema f.type.base source' type → P type source')
    {room round : Nat} {selections : List Selection} {type : String} {source : Source}
    (h : P type source) (hnode : node ∈ (answerObject x room round selections type source).nodes) :
    P node.1 node.2 := by
  induction room generalizing round selections type source with
  | zero =>
    obtain rfl : node = (type, source) := by
      simpa [answerObject, Outcome.nodes, Outcome.nodesIn] using hnode
    exact h
  | succ room ih =>
    unfold answerObject at hnode
    split at hnode
    · obtain rfl : node = (type, source) := by
        simpa [Outcome.nodes, Outcome.nodesIn] using hnode
      exact h
    · next owner howner =>
      have hname : owner.name = type := by simpa using List.find?_some howner
      subst hname
      split at hnode
      · simp [Outcome.nodes] at hnode
      · next g hg =>
        rcases List.mem_cons.mp hnode with rfl | hnode
        · exact h
        · obtain ⟨⟨label, o⟩, hfield, hnode⟩ := Outcome.mem_nodesIn.mp hnode
          obtain ⟨⟨label', uses⟩, -, huses⟩ := List.mem_filterMap.mp hfield
          obtain ⟨o', ho', heq⟩ := Option.map_eq_some_iff.mp huses
          obtain ⟨-, rfl⟩ := Prod.mk.inj heq
          obtain ⟨name, f, args, found, source', type, round', selections', hf, hfound, hhas,
            hanswered, hnode⟩ := answerField_nodes ho' hnode
          exact ih (step owner source name f args round found source' type h howner hf hfound hhas
            hanswered) hnode

end Execution

end WorldQuery.Query
