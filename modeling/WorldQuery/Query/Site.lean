import WorldQuery.Query.Document
import WorldQuery.Schema.Meta

/-!
# Sites of a document

For validation a document is laid out as a list of sites: every set of selections, and every field,
spread and group with the type that it stands in, in the order of the text. A field has a second
site after its selections. `reachable` gives the fragments that some spreads lead to.
-/

namespace WorldQuery.Query

/-- A place in a document: the positions that lead to it, the innermost first and that of the
definition last. -/
abbrev Place := List Nat

/-- A selection with the type that it is a selection of, if that is known. -/
inductive Site where
  /-- The beginning of a set of selections, which belongs to the place of its owner. -/
  | set (place : Place) (parent : Option TypeDef) (selections : List Selection)
  | field (parent : Option TypeDef) (def? : Option FieldDef) (name : String)
      (arguments : List Argument) (directives : List Directive) (selections : List Selection)
  /-- The end of a field. -/
  | left (def? : Option FieldDef) (arguments : List Argument)
  | spread (parent : Option TypeDef) (fragment : String) (directives : List Directive)
  | group (parent : Option TypeDef) (type? : Option String) (directives : List Directive)

namespace Site

def directives : Site → List Directive
  | field _ _ _ _ ds _ => ds
  | spread _ _ ds => ds
  | group _ _ ds => ds
  | _ => []

def fragment? : Site → Option String
  | spread _ name _ => some name
  | _ => none

end Site

def compositeType (s : Schema) (name : String) : Option TypeDef :=
  (s.lookup name).filter (·.isComposite)

def innerType (s : Schema) (def? : Option FieldDef) : Option TypeDef :=
  def?.bind fun f => compositeType s f.type.base

def groupType (s : Schema) (parent : Option TypeDef) : Option String → Option TypeDef
  | none => parent
  | some name => compositeType s name

mutual

def sitesOf (s : Schema) (parent : Option TypeDef) (place : Place) : Selection → List Site
  | .field _ name arguments directives selections =>
    let def? := parent.bind fun t => Schema.field? t name
    let inner := innerType s def?
    let nested :=
      if selections.isEmpty then []
      else .set place inner selections :: sites s inner place 0 selections
    .field parent def? name arguments directives selections :: (nested ++ [.left def? arguments])
  | .spread fragment directives => [.spread parent fragment directives]
  | .group type? directives selections =>
    let inner := groupType s parent type?
    .group parent type? directives :: .set place inner selections ::
      sites s inner place 0 selections

/-- The sites of the selections from a position on, in the set of an owner. -/
def sites (s : Schema) (parent : Option TypeDef) (owner : Place) (position : Nat) :
    List Selection → List Site
  | [] => []
  | sel :: rest =>
    sitesOf s parent (position :: owner) sel ++ sites s parent owner (position + 1) rest

end

/-- The type that an operation starts from. Only queries have one. -/
def rootType (s : Schema) : OperationKind → Option TypeDef
  | .query => s.lookup queryType
  | _ => none

def Operation.sites (s : Schema) (place : Place) (op : Operation) : List Site :=
  .set place (rootType s op.kind) op.selections ::
    Query.sites s (rootType s op.kind) place 0 op.selections

def Fragment.sites (s : Schema) (place : Place) (f : Fragment) : List Site :=
  .set place (compositeType s f.type) f.selections ::
    Query.sites s (compositeType s f.type) place 0 f.selections

mutual

/-- The fragments that a selection spreads, in the order of the text. -/
def spreadsOf : Selection → List String
  | .field _ _ _ _ selections => spreads selections
  | .spread fragment _ => [fragment]
  | .group _ _ selections => spreads selections

def spreads : List Selection → List String
  | [] => []
  | sel :: rest => spreadsOf sel ++ spreads rest

end

/-- Names reached from `names` in a number of rounds. -/
def reach (next : String → List String) : Nat → List String → List String
  | 0, names => names
  | n + 1, names =>
    let found := (names.flatMap next).filter (!names.contains ·)
    if found.isEmpty then names else reach next n (names ++ found.eraseDups)

def Document.spreadsIn (doc : Document) (name : String) : List String :=
  ((doc.fragment? name).map fun f => spreads f.selections).getD []

/-- The fragments of a document that some selections lead to. -/
def reachable (doc : Document) (selections : List Selection) : List String :=
  reach doc.spreadsIn doc.fragments.length (spreads selections).eraseDups

/-- The fragments that an operation leads to. -/
def Operation.fragments (doc : Document) (op : Operation) : List Fragment :=
  (reachable doc op.selections).filterMap doc.fragment?

end WorldQuery.Query
