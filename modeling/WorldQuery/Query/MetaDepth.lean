import WorldQuery.Query.Site

/-!
# Depth of questions about the schema

Lists of fields and types lead from a type to other types, and so on without end. Below a question
about the schema such lists may be nested to a small depth only.
-/

namespace WorldQuery.Query.MetaDepth

/-- The root fields that ask about the schema. -/
def rootNames : List String := [Meta.schemaField.name, Meta.typeField.name]

/-- The fields with lists that lead to other types. -/
def listNames : List String := ["fields", "interfaces", "possibleTypes", "inputFields"]

def limit : Nat := 3

mutual

/-- Whether a selection in some number of lists has too many nested ones. Spread fragments are
followed by `follow`. -/
def isDeepOf (follow : String → Nat → Bool) (depth : Nat) : Selection → Bool
  | .field _ name _ _ selections =>
    let depth := if listNames.contains name then depth + 1 else depth
    limit ≤ depth || isDeep follow depth selections
  | .spread fragment _ => follow fragment depth
  | .group _ _ selections => isDeep follow depth selections

def isDeep (follow : String → Nat → Bool) (depth : Nat) : List Selection → Bool
  | [] => false
  | sel :: rest => isDeepOf follow depth sel || isDeep follow depth rest

end

/-- Follows a spread fragment, unless it is open already. The first argument bounds the number of
open fragments. -/
def follow (doc : Document) : Nat → List String → String → Nat → Bool
  | 0, _, _, _ => false
  | room + 1, opened, fragment, depth =>
    if opened.contains fragment then false
    else
      match doc.fragment? fragment with
      | none => false
      | some f => isDeep (follow doc room (fragment :: opened)) depth f.selections

/-- Whether a field of some name asks about the schema with too many nested lists. -/
def exceeds (doc : Document) (name : String) (selections : List Selection) : Bool :=
  rootNames.contains name &&
    isDeep (follow doc (doc.fragments.length + 1) []) 0 selections

end WorldQuery.Query.MetaDepth
