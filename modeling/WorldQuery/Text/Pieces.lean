/-!
# Pieces between separators

`pieces` cuts a text at every separator and keeps empty pieces; `cutAt` cuts it once.
-/

namespace WorldQuery.Text

/-- Adds a character to the first piece of a list. -/
def extendHead (c : Char) : List (List Char) → List (List Char)
  | [] => [[c]]
  | piece :: rest => (c :: piece) :: rest

/-- The pieces between separators; neighbouring separators have an empty piece between them. -/
def pieces (sep : Char → Bool) : List Char → List (List Char)
  | [] => [[]]
  | c :: rest => if sep c then [] :: pieces sep rest else extendHead c (pieces sep rest)

/-- The parts before and after the first occurrence of a character, if it occurs. -/
def cutAt (sep : Char) : List Char → Option (List Char × List Char)
  | [] => none
  | c :: rest =>
    if c = sep then some ([], rest)
    else (cutAt sep rest).map fun (before, after) => (c :: before, after)

end WorldQuery.Text
