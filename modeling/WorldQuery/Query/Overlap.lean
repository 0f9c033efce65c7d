import Std.Data.HashMap
import WorldQuery.Query.Site

/-!
# Fields that answer to one name

Two fields of a selection that answer under the same name must be the same field with the same
arguments, unless they stand in different object types; and their types must agree in shape. The
same holds of their own selections taken together. Selections are compared set by set: the fields of
a set with each other, and with those of the fragments that it spreads. `conflictsIn` gives the
number of conflicts in one set. The pairs of fields that are compared in a document are limited.
-/

namespace WorldQuery.Query

/-- A field of a set of selections, with the type that it stands in. -/
structure Entry where
  place : Place
  label : String
  parent : Option TypeDef
  name : String
  arguments : List Argument
  selections : List Selection

namespace Entry

/-- The output type of an entry; fields about the schema have none here. -/
def type? (e : Entry) : Option TypeExpr :=
  (e.parent.bind fun t => t.field? e.name).map (·.type)

end Entry

mutual

def sameLiteral : Literal → Literal → Bool
  | .variable a, .variable b => a == b
  | .int a, .int b => a == b
  | .float a, .float b => a == b
  | .string a x, .string b y => a == b && x == y
  | .bool a, .bool b => a == b
  | .null, .null => true
  | .enum a, .enum b => a == b
  | .list as, .list bs => sameItems as bs
  | .object as, .object bs => sameMembers as bs
  | _, _ => false

def sameItems : List Literal → List Literal → Bool
  | [], [] => true
  | a :: as, b :: bs => sameLiteral a b && sameItems as bs
  | _, _ => false

def sameMembers : List (String × Literal) → List (String × Literal) → Bool
  | [], [] => true
  | (x, a) :: as, (y, b) :: bs => x == y && sameLiteral a b && sameMembers as bs
  | _, _ => false

end

/-- Same arguments in any order. -/
def sameArguments (as bs : List Argument) : Bool :=
  as.length == bs.length &&
    as.all fun a => bs.any fun b => a.name == b.name && sameLiteral a.value b.value

/-- Whether two output types differ in shape, or in a leaf. -/
def typesConflict (s : Schema) : TypeExpr → TypeExpr → Bool
  | .list a, .list b => typesConflict s a b
  | .list _, _ => true
  | _, .list _ => true
  | .nonNull a, .nonNull b => typesConflict s a b
  | .nonNull _, _ => true
  | _, .nonNull _ => true
  | .named a, .named b =>
    let leaf (name : String) : Bool := ((s.lookup name).map TypeDef.isLeaf).getD false
    (leaf a || leaf b) && a != b

/-- Whether two types are different object types, so that no object has both. -/
def disjoint (a b : Option TypeDef) : Bool :=
  match a, b with
  | some a, some b => a.isObject && b.isObject && a.name != b.name
  | _, _ => false

/-- A set of selections, its groups opened: fields, and the fragments that it spreads. -/
structure FieldSet where
  place : Place
  entries : List Entry
  fragments : List String

mutual

def entriesOf (s : Schema) (parent : Option TypeDef) (place : Place) : Selection → List Entry
  | .field label? name arguments _ selections =>
    [⟨place, label?.getD name, parent, name, arguments, selections⟩]
  | .spread _ _ => []
  | .group type? _ selections =>
    entries s (match type? with
      | none => parent
      | some name => s.lookup name) place 0 selections

/-- The fields of the selections from a position on, in the set of an owner. -/
def entries (s : Schema) (parent : Option TypeDef) (owner : Place) (position : Nat) :
    List Selection → List Entry
  | [] => []
  | sel :: rest =>
    entriesOf s parent (position :: owner) sel ++ entries s parent owner (position + 1) rest

end

mutual

/-- The fragments that a selection spreads outside of fields. -/
def openSpreadsOf : Selection → List String
  | .field _ _ _ _ _ => []
  | .spread fragment _ => [fragment]
  | .group _ _ selections => openSpreads selections

def openSpreads : List Selection → List String
  | [] => []
  | sel :: rest => openSpreadsOf sel ++ openSpreads rest

end

def FieldSet.of (s : Schema) (place : Place) (parent : Option TypeDef)
    (selections : List Selection) : FieldSet :=
  ⟨place, Query.entries s parent place 0 selections, (openSpreads selections).eraseDups⟩

/-- The set of a field's own selections. -/
def Entry.inner (s : Schema) (e : Entry) : FieldSet :=
  .of s e.place (e.type?.bind fun t => s.lookup t.base) e.selections

/-- What is compared only once: a set with a fragment, or two fragments. -/
inductive Pairing where
  | setWithFragment (place : Place) (fragment : String)
  | fragments (a b : String)
  deriving BEq, Hashable

structure Progress where
  /-- The number of pairs of fields that may still be compared. -/
  left : Nat
  /-- The pairings that were compared, and whether only for fields that never occur together. -/
  done : Std.HashMap Pairing Bool

/-- A comparison, which ends without a result when too many pairs of fields are compared. -/
abbrev Comparison := StateT Progress Option

namespace Comparison

/-- The most pairs of fields that are compared in a document. -/
def limit : Nat := 250000

def start : Progress := ⟨limit, ∅⟩

def count : Comparison Unit := do
  let p ← get
  match p.left with
  | 0 => failure
  | n + 1 => set { p with left := n }

/-- Notes a pairing, and tells whether it is new. A pairing that was compared for fields that occur
together is done for those that do not, too. -/
def isNew (pairing : Pairing) (apart : Bool) : Comparison Bool := do
  let p ← get
  match p.done[pairing]? with
  | some before =>
    if apart || !before then return false
    else
      set { p with done := p.done.insert pairing apart }
      return true
  | none =>
    set { p with done := p.done.insert pairing apart }
    return true

/-- The conflicts of all items taken together. -/
def total {α : Type} (check : α → Comparison Nat) : List α → Comparison Nat
  | [] => return 0
  | x :: rest => do
    let n ← check x
    let m ← total check rest
    return n + m

/-- The conflicts of one field with those of the same label in a list. -/
def against (check : Entry → Entry → Comparison Nat) (e : Entry) : List Entry → Comparison Nat
  | [] => return 0
  | x :: rest => do
    let n ← if e.label == x.label then check e x else pure 0
    let m ← against check e rest
    return n + m

/-- The conflicts within a list of fields. -/
def among (check : Entry → Entry → Comparison Nat) : List Entry → Comparison Nat
  | [] => return 0
  | e :: rest => do
    let n ← against check e rest
    let m ← among check rest
    return n + m

/-- The conflicts between two lists of fields. -/
def between (check : Entry → Entry → Comparison Nat) (as bs : List Entry) : Comparison Nat :=
  total (fun a => against check a bs) as

end Comparison

open Comparison

/-- What overlaps are looked for in: a document, read against a schema. -/
structure Scene where
  schema : Schema
  doc : Document

def Scene.fragmentSet? (x : Scene) (name : String) : Option FieldSet := do
  let position ← x.doc.fragmentPosition? name
  let f ← x.doc.fragment? name
  return .of x.schema [position] (x.schema.lookup f.type) f.selections

/-- A pairing of two fragments in either order. -/
def Pairing.ofFragments (a b : String) : Pairing :=
  if a < b then .fragments a b else .fragments b a

mutual

/-- Compares two fields of one label: one conflict or none. `apart` tells that they never occur
together. The first argument bounds the depth. -/
def conflict (x : Scene) : Nat → Bool → Entry → Entry → Comparison Nat
  | 0, _, _, _ => failure
  | room + 1, apart, a, b => do
    count
    let apart := apart || disjoint a.parent b.parent
    let differ := a.name != b.name || !sameArguments a.arguments b.arguments
    let shapes := match a.type?, b.type? with
      | some s, some t => typesConflict x.schema s t
      | _, _ => false
    if (!apart && differ) || shapes then return 1
    else if a.selections.isEmpty || b.selections.isEmpty then return 0
    else
      let s := a.inner x.schema
      let t := b.inner x.schema
      let fields ← between (conflict x room apart) s.entries t.entries
      let right ← total (withFragment x room apart s) t.fragments
      let left ← total (withFragment x room apart t) s.fragments
      let both ← total (fun f => total (twoFragments x room apart f) t.fragments) s.fragments
      return if fields + right + left + both = 0 then 0 else 1

/-- Compares a set of fields with a fragment and those that it spreads. -/
def withFragment (x : Scene) : Nat → Bool → FieldSet → String → Comparison Nat
  | 0, _, _, _ => failure
  | room + 1, apart, set, name => do
    match x.fragmentSet? name with
    | none => return 0
    | some other =>
      if set.place == other.place then return 0
      else if ← isNew (.setWithFragment set.place name) apart then
        let fields ← between (conflict x room apart) set.entries other.entries
        let nested ← total (withFragment x room apart set) other.fragments
        return fields + nested
      else return 0

/-- Compares two fragments and those that they spread. -/
def twoFragments (x : Scene) : Nat → Bool → String → String → Comparison Nat
  | 0, _, _, _ => failure
  | room + 1, apart, a, b => do
    if a == b then return 0
    else if ← isNew (.ofFragments a b) apart then
      match x.fragmentSet? a, x.fragmentSet? b with
      | some s, some t =>
        let fields ← between (conflict x room apart) s.entries t.entries
        let right ← total (twoFragments x room apart a) t.fragments
        let left ← total (fun f => twoFragments x room apart f b) s.fragments
        return fields + right + left
      | _, _ => return 0
    else return 0

end

/-- A bound on the depth of a comparison: every step down counts a pair of fields or notes a
pairing, of which there are two for every set or fragment with a fragment. -/
def Scene.depth (x : Scene) : Nat :=
  let sets := x.doc.size + x.doc.length
  limit + 4 * (sets + 1) * (x.doc.fragments.length + 1)

/-- Conflicts between the fragments of a set, each with those after it, and with the set's own
fields. -/
def fragmentConflicts (x : Scene) (set : FieldSet) : List String → Comparison Nat
  | [] => return 0
  | f :: rest => do
    let own ← withFragment x x.depth false set f
    let others ← total (twoFragments x x.depth false f) rest
    let more ← fragmentConflicts x set rest
    return own + others + more

def conflictsIn (x : Scene) (place : Place) (parent : Option TypeDef)
    (selections : List Selection) : Comparison Nat := do
  let set := FieldSet.of x.schema place parent selections
  let fields ← among (conflict x x.depth false) set.entries
  let fragments ← fragmentConflicts x set set.fragments
  return fields + fragments

end WorldQuery.Query
