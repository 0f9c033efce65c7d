import WorldQuery.Text.Blank
import WorldQuery.Text.Case.Lower
import WorldQuery.Text.Case.Upper
import WorldQuery.Text.Pieces

/-!
# Names

A declared name is split into words at runs of underscores, hyphens and blanks; the words with upper
case initials make the type name, and the type name with a lower case initial makes the field name.
`snakeCase` and `camelCase` go between the spellings of columns and fields.
-/

namespace WorldQuery.Name

open Text Text.Case

/-- Characters between the words of a declared name. -/
def isBreak (c : Char) : Bool := c == '_' || c == '-' || isBlank c

def words (name : List Char) : List (List Char) := (pieces isBreak (trim name)).filter (!·.isEmpty)

/-- Upper case of the first character only. -/
def capitalize : List Char → List Char
  | [] => []
  | c :: rest => upper [c] ++ rest

/-- Lower case of the first character only. -/
def uncapitalize : List Char → List Char
  | [] => []
  | c :: rest => lower [c] ++ rest

def typeChars (name : List Char) : List Char := ((words name).map capitalize).flatten

def fieldChars (name : List Char) : List Char := uncapitalize (typeChars name)

def typeName (name : String) : String := String.ofList (typeChars name.toList)

def fieldName (name : String) : String := String.ofList (fieldChars name.toList)

def isLowerOrDigit (c : Char) : Bool := ('a' ≤ c && c ≤ 'z') || ('0' ≤ c && c ≤ '9')

def isUpper (c : Char) : Bool := 'A' ≤ c && c ≤ 'Z'

def isLower (c : Char) : Bool := 'a' ≤ c && c ≤ 'z'

/-- Whether a new word starts between two characters, given what follows: at a capital after a small
letter or digit, and at the last capital of a row of them. ASCII letters only. -/
def startsWord (before c : Char) (rest : List Char) : Bool :=
  isUpper c && (isLowerOrDigit before || (isUpper before && rest.head?.any isLower))

/-- Puts an underscore before every word but the first. -/
def markWords : List Char → List Char
  | [] => []
  | [c] => [c]
  | before :: c :: rest =>
    if startsWord before c rest then before :: '_' :: markWords (c :: rest)
    else before :: markWords (c :: rest)

/-- Words joined by underscores, in lower case. -/
def snakeChars (name : List Char) : List Char := lower (markWords name)

/-- Words after the first with upper case initials and no underscores. -/
def camelChars (name : List Char) : List Char :=
  match pieces (· == '_') name with
  | [] => []
  | head :: rest => head ++ (rest.map capitalize).flatten

def snakeCase (name : String) : String := String.ofList (snakeChars name.toList)

def camelCase (name : String) : String := String.ofList (camelChars name.toList)

/-- Drops one pair of equal quotes around a text. -/
def unquoteChars (text : List Char) : List Char :=
  match text with
  | [] => []
  | first :: rest =>
    if (first == '"' || first == '\'') && rest.getLast? == some first then rest.dropLast else text

def unquote (text : String) : String := String.ofList (unquoteChars text.toList)

def defaultTablePrefix : String := "storage_"

def tableName (tablePrefix name : String) : String := tablePrefix ++ snakeCase (typeName name)

end WorldQuery.Name
