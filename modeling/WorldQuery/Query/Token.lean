import WorldQuery.Json.Reader
import WorldQuery.Layout

/-!
# Tokens of a request text

Blanks, line ends, commas, comments and byte order marks separate tokens and mean nothing else.
Strings are taken with their escapes resolved; block strings without their common indentation.
`Token.scan` gives the tokens of a text, or nothing if some part of it is no token.
-/

namespace WorldQuery.Query

open Json Text

inductive Token where
  | mark (c : Char)
  | spread
  | name (text : String)
  | int (text : String)
  | float (text : String)
  | string (text : String) (block : Bool)
  deriving DecidableEq, Repr, Inhabited

namespace Token

/-- Characters between tokens. -/
def isIgnored (c : Char) : Bool :=
  c == '\ufeff' || c == '\t' || c == ' ' || c == ',' || c == '\n' || c == '\r'

/-- Tokens of one character. -/
def isMark (c : Char) : Bool :=
  ['!', '$', '&', '(', ')', ':', '=', '@', '[', ']', '{', '|', '}'].contains c

def isAsciiDigit (c : Char) : Bool := '0' ≤ c && c ≤ '9'

/-- One digit at least, and what follows. -/
def digits (text : List Char) : Option (List Char × List Char) :=
  match text.takeWhile isAsciiDigit with
  | [] => none
  | ds => some (ds, text.dropWhile isAsciiDigit)

/-- The digits of a whole number: no zero in front of other digits. -/
def whole : List Char → Option (List Char × List Char)
  | '0' :: rest => if rest.head?.any isAsciiDigit then none else some (['0'], rest)
  | text => digits text

/-- The digits after a point, with the point; nothing if there is no point. -/
def fraction : List Char → Option (List Char × List Char)
  | '.' :: rest => (digits rest).map fun (ds, left) => ('.' :: ds, left)
  | text => some ([], text)

/-- The power, with its mark and sign; nothing if there is no mark. -/
def power : List Char → Option (List Char × List Char)
  | e :: rest =>
    if e = 'e' ∨ e = 'E' then
      match rest with
      | sign :: more =>
        if sign = '+' ∨ sign = '-' then
          (digits more).map fun (ds, left) => (e :: sign :: ds, left)
        else (digits rest).map fun (ds, left) => (e :: ds, left)
      | [] => none
    else some ([], e :: rest)
  | [] => some ([], [])

/-- A number, which must not run into a name or a point. -/
def number (text : List Char) : Option (Token × List Char) := do
  let (sign, body) := match text with
    | '-' :: rest => (['-'], rest)
    | _ => ([], text)
  let (ds, rest) ← whole body
  let (part, rest) ← fraction rest
  let (shift, rest) ← power rest
  if rest.head?.any fun c => c == '.' || Layout.isNameStart c then none
  else if part.isEmpty && shift.isEmpty then some (.int (String.ofList (sign ++ ds)), rest)
  else some (.float (String.ofList (sign ++ ds ++ part ++ shift)), rest)

/-- Up to eight hexadecimal digits and a closing brace. -/
def braced : Nat → Nat → Nat → List Char → Option (Nat × List Char)
  | 0, _, _, _ => none
  | room + 1, count, n, text =>
    match text with
    | '}' :: rest => if count = 0 then none else some (n, rest)
    | c :: rest => (hexValue c).bind fun d => braced room (count + 1) (n * 16 + d) rest
    | [] => none

/-- The character after `\u`, and what follows it. Surrogates count in pairs only. -/
def unicode (text : List Char) : Option (Char × List Char) :=
  match text with
  | '{' :: rest => do
    let (n, left) ← braced 9 0 0 rest
    some (← scalarChar n, left)
  | _ => do
    let (high, rest) ← hexQuad text
    if isHighSurrogate high then
      match rest with
      | '\\' :: 'u' :: more =>
        let (low, left) ← hexQuad more
        if isLowSurrogate low then some (joinSurrogates high low, left) else none
      | _ => none
    else some (← scalarChar high, rest)

/-- The rest of a string after its opening quote. The first argument bounds its length. -/
def stringRest : Nat → List Char → Option (List Char × List Char)
  | 0, _ => none
  | room + 1, text =>
    match text with
    | [] => none
    | '"' :: rest => some ([], rest)
    | '\\' :: 'u' :: rest => do
      let (c, left) ← unicode rest
      let (cs, left) ← stringRest room left
      some (c :: cs, left)
    | '\\' :: e :: rest => do
      let c ← letterEscape e
      let (cs, left) ← stringRest room rest
      some (c :: cs, left)
    | c :: rest =>
      if c = '\n' ∨ c = '\r' ∨ c = '\\' then none
      else do
        let (cs, left) ← stringRest room rest
        some (c :: cs, left)

/-- The lines of a block string after its opening quotes, and what follows it. -/
def blockLines : Nat → List Char → Option (List (List Char) × List Char)
  | 0, _ => none
  | room + 1, text =>
    match text with
    | [] => none
    | '"' :: '"' :: '"' :: rest => some ([[]], rest)
    | '\\' :: '"' :: '"' :: '"' :: rest =>
      (blockLines room rest).map fun (lines, left) =>
        (extendHead '"' (extendHead '"' (extendHead '"' lines)), left)
    | '\r' :: '\n' :: rest => (blockLines room rest).map fun (lines, left) => ([] :: lines, left)
    | c :: rest =>
      if c = '\n' ∨ c = '\r' then
        (blockLines room rest).map fun (lines, left) => ([] :: lines, left)
      else (blockLines room rest).map fun (lines, left) => (extendHead c lines, left)

def isIndent (c : Char) : Bool := c == ' ' || c == '\t'

def isBlankLine (line : List Char) : Bool := line.all isIndent

/-- The least indentation of some lines, blank lines left aside. -/
def commonIndent (lines : List (List Char)) : Option Nat :=
  ((lines.filter (!isBlankLine ·)).map fun line => (line.takeWhile isIndent).length).min?

/-- Drops blank lines at both ends, and the indentation common to all lines but the first. -/
def dedent (lines : List (List Char)) : List (List Char) :=
  let shifted :=
    match lines with
    | [] => []
    | first :: rest =>
      match commonIndent rest with
      | some n => first :: rest.map (List.drop n)
      | none => first :: rest
  ((shifted.dropWhile isBlankLine).reverse.dropWhile isBlankLine).reverse

def joinLines : List (List Char) → List Char
  | [] => []
  | [line] => line
  | line :: rest => line ++ '\n' :: joinLines rest

def quotedText (text : List Char) : Option (Token × List Char) :=
  match text with
  | '"' :: '"' :: '"' :: rest =>
    (blockLines (rest.length + 1) rest).map fun (lines, left) =>
      (.string (String.ofList (joinLines (dedent lines))) true, left)
  | '"' :: rest =>
    (stringRest (rest.length + 1) rest).map fun (cs, left) =>
      (.string (String.ofList cs) false, left)
  | _ => none

def next (c : Char) (rest : List Char) : Option (Token × List Char) :=
  if isMark c then some (.mark c, rest)
  else if c = '.' then
    match rest with
    | '.' :: '.' :: left => some (.spread, left)
    | _ => none
  else if Layout.isNameStart c then
    some (.name (String.ofList (c :: rest.takeWhile Layout.isNamePart)),
      rest.dropWhile Layout.isNamePart)
  else if c = '-' ∨ isAsciiDigit c then number (c :: rest)
  else if c = '"' then quotedText (c :: rest)
  else none

def isLineEnd (c : Char) : Bool := c == '\n' || c == '\r'

/-- The tokens of a text. The first argument bounds their number. -/
def scanFrom : Nat → List Char → Option (List Token)
  | 0, _ => none
  | room + 1, text =>
    match text with
    | [] => some []
    | c :: rest =>
      if isIgnored c then scanFrom room rest
      else if c = '#' then scanFrom room (rest.dropWhile (!isLineEnd ·))
      else do
        let (t, left) ← next c rest
        let ts ← scanFrom room left
        some (t :: ts)

def scan (text : String) : Option (List Token) :=
  let cs := text.toList
  scanFrom (cs.length + 1) cs

end Token

end WorldQuery.Query
