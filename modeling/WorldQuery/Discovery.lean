import WorldQuery.Schema.Object

/-!
# Discovery of storage types

Every component name comes with its storage definitions, newest first. A name is kept if one of them
can be read when the kept names are the record types; the newest such definition gives its layout.
Since dropping a name can make others unreadable, names are dropped round by round until a round
drops none: what remains is the largest set of names that is closed in this sense.
-/

namespace WorldQuery.Discovery

def newest (known : List String) : List String → Option Layout
  | [] => none
  | definition :: older =>
    match Layout.readChars known definition.toList with
    | .ok layout => some layout
    | .error _ => newest known older

/-- One round: the names of `known` that have a readable definition, with their layouts. -/
def round (definitions : List (String × List String)) (known : List String) :
    List (String × Layout) :=
  definitions.filterMap fun (name, candidates) =>
    if known.contains name then (newest known candidates).map fun layout => (name, layout) else none

/-- Rounds until one drops nothing. -/
def settle (definitions : List (String × List String)) (known : List String) :
    List (String × Layout) :=
  let kept := round definitions known
  if kept.length < known.length then settle definitions (Assoc.keys kept) else kept
termination_by known.length
decreasing_by simpa [Assoc.keys] using ‹_›

/-- The kept names with their layouts. -/
def kept (definitions : List (String × List String)) : List (String × Layout) :=
  settle definitions (Assoc.keys definitions)

def objects (definitions : List (String × List String)) (tablePrefix : String) : List ObjectDef :=
  let found := kept definitions
  found.map fun (name, layout) => ObjectDef.storage name layout (Assoc.keys found) tablePrefix

/-- A definition as a text; one that is no text reads like an empty one. -/
def asText (d : Datum) : String := (Component.definitionText d).toOption.getD ""

/-- The names that are texts, with their definitions as texts. -/
def textEntries (entries : List (Datum × List Datum)) : List (String × List String) :=
  entries.filterMap fun
    | (.text name, candidates) => some (name, candidates.map asText)
    | _ => none

/-- The fault of the first definition that is no text, among those down to the newest that can be
read. -/
def obstacle? (known : List String) : List Datum → Option Fault
  | [] => none
  | candidate :: older =>
    match Component.definitionText candidate with
    | .error fault => some fault
    | .ok definition =>
      match Layout.readChars known definition.toList with
      | .ok _ => none
      | .error _ => obstacle? known older

/-- The first obstacle that the rounds meet, starting from some names. -/
def roundsFault? (entries : List (Datum × List Datum)) (known : List String) : Option Fault :=
  match entries.findSome? fun entry => obstacle? known entry.2 with
  | some fault => some fault
  | none =>
    let kept := round (textEntries entries) known
    if kept.length < known.length then roundsFault? entries (Assoc.keys kept) else none
termination_by known.length
decreasing_by simpa [Assoc.keys] using ‹_›

/-- The fault of the first kept name that is no text. -/
def nameFault? (entries : List (Datum × List Datum)) (known : List String) : Option Fault :=
  entries.findSome? fun (name, candidates) =>
    match Component.nameText name, newest known (candidates.map asText) with
    | .error fault, some _ => some fault
    | _, _ => none

/-- What keeps entries from being discovered: a definition or a name that is no text. -/
def fault? (entries : List (Datum × List Datum)) : Option Fault :=
  let named := textEntries entries
  match roundsFault? entries (Assoc.keys named) with
  | some fault => some fault
  | none => nameFault? entries (Assoc.keys (kept named))

def ofStore (s : Store) (tablePrefix : String) : Except Fault (List ObjectDef) := do
  let entries ← Component.definitions s
  match fault? entries with
  | some fault => throw fault
  | none => return objects (textEntries entries) tablePrefix

end WorldQuery.Discovery
