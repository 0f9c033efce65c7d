import WorldQuery.Assoc
import WorldQuery.Number.Numeral
import WorldQuery.Text.Percent
import WorldQuery.Text.Pieces
import WorldQuery.Text.Word

/-!
# Addresses of databases

The address of a database names a driver and may name a user with a password, a host with a port, a
database and options. `DatabaseUrl.redacted` writes an address for a log: the password is masked,
the options are sorted by name.
-/

namespace WorldQuery

open Number Text

structure DatabaseUrl where
  driver : String
  user? : Option String
  password? : Option String
  host? : Option String
  port? : Option Int
  database? : Option String
  /-- The options in order of their first mention, each with its values. -/
  options : List (String × List String)
  deriving DecidableEq, Repr

inductive UrlFault where
  | unreadable
  | port (fault : NumeralFault)
  deriving DecidableEq, Repr

def UrlFault.message : UrlFault → String
  | .unreadable => "Could not parse SQLAlchemy URL from given URL string"
  | .port fault => fault.message

namespace DatabaseUrl

/-- The characters of a text up to one of some marks, and the rest. -/
def upTo (marks : List Char) (text : List Char) : List Char × List Char :=
  (text.takeWhile (!marks.contains ·), text.dropWhile (!marks.contains ·))

/-- The parts around the last occurrence of a character, if it occurs. -/
def cutAtLast (sep : Char) (text : List Char) : Option (List Char × List Char) :=
  (cutAt sep text.reverse).map fun (after, before) => (before.reverse, after.reverse)

/-- The driver and what follows the mark after it. -/
def splitDriver (text : List Char) : Option (List Char × List Char) :=
  let isDriverChar (c : Char) : Bool := isWordChar c || c == '+'
  match text.takeWhile isDriverChar, text.dropWhile isDriverChar with
  | [], _ => none
  | driver, ':' :: '/' :: '/' :: rest => some (driver, rest)
  | _, _ => none

/-- A user with a password at the front of a text, and what follows. -/
structure Login where
  user? : Option (List Char)
  password? : Option (List Char)
  rest : List Char

/-- The user at the front of a text. A name goes up to a colon or slash; the password after a colon
goes up to the first at sign. Without a password the name ends at its last at sign. -/
def splitLogin (text : List Char) : Login :=
  let (name, rest) := upTo [':', '/'] text
  let plain : Login :=
    match cutAtLast '@' name with
    | some (user, more) => ⟨some user, none, more ++ rest⟩
    | none => ⟨none, none, text⟩
  match rest with
  | ':' :: more =>
    match cutAt '@' more with
    | some (password, left) => ⟨some name, some password, left⟩
    | none => plain
  | _ => plain

/-- A host between brackets at the front of a text: up to the last closing bracket before a slash or
question mark. -/
def splitBracketed : List Char → Option (List Char × List Char)
  | '[' :: text =>
    let (run, rest) := upTo ['/', '?'] text
    match cutAtLast ']' run with
    | some (host, more) => if host.isEmpty then none else some (host, more ++ rest)
    | none => none
  | _ => none

def splitHost (text : List Char) : Option (List Char) × List Char :=
  match splitBracketed text with
  | some (host, rest) => (some host, rest)
  | none =>
    let (host, rest) := upTo ['/', ':', '?'] text
    if host.isEmpty then (none, text) else (some host, rest)

/-- The part after a mark at the front of a text, up to one of some marks. -/
def splitPart (mark : Char) (ends : List Char) : List Char → Option (List Char) × List Char
  | [] => (none, [])
  | c :: rest =>
    if c = mark then
      let (part, left) := upTo ends rest
      (some part, left)
    else (none, c :: rest)

def addOption (options : List (String × List String)) (name value : String) :
    List (String × List String) :=
  Assoc.put options name ((Assoc.get? options name).getD [] ++ [value])

/-- The options in a query; one without a value does not count. -/
def readOptions (query : List Char) : List (String × List String) :=
  (pieces (· == '&') query).foldl
    (fun options piece =>
      match cutAt '=' piece with
      | some (name, value) =>
        if value.isEmpty then options
        else
          addOption options (String.ofList (queryDecoded name))
            (String.ofList (queryDecoded value))
      | none => options)
    []

/-- Reads the part after the colon of a host. -/
def readPort : Option (List Char) → Except UrlFault (Option Int)
  | none => .ok none
  | some text => ((readInteger 10 text).map some).mapError .port

/-- The text of a part in which bytes may be written as percent signs and digits. -/
def decodedPart (part : List Char) : String := String.ofList (percentDecoded part)

def read (text : String) : Except UrlFault DatabaseUrl := do
  match splitDriver text.toList with
  | none => throw .unreadable
  | some (driver, rest) =>
    let login := splitLogin rest
    let (host, rest) := splitHost login.rest
    let (port, rest) := splitPart ':' ['/', '?'] rest
    let (database, rest) := splitPart '/' ['?'] rest
    let (query, _) := splitPart '?' ['\n'] rest
    return {
      driver := String.ofList driver
      user? := login.user?.map decodedPart
      password? := login.password?.map decodedPart
      host? := host.map String.ofList
      port? := ← readPort port
      database? := database.map decodedPart
      options := (query.map readOptions).getD [] }

/-- What stands for a password in a log. -/
def mask : String := "***"

/-- The written form of a part. Blanks and plus signs stand, and in the name of a database slashes. -/
def encodedPart (more : Char → Bool) (part : String) : String :=
  String.ofList (percentEncoded (fun c => c == ' ' || c == '+' || more c) part.toList)

/-- A text that is there only with its value. -/
def written (value? : Option String) (before after : String) : String :=
  match value? with
  | some value => before ++ value ++ after
  | none => ""

def writtenLogin (url : DatabaseUrl) : String :=
  match url.user? with
  | none => ""
  | some user =>
    encodedPart (fun _ => false) user ++ written (url.password?.map fun _ => mask) ":" "" ++ "@"

/-- A host; one with colons stands between brackets. -/
def writtenHost (host : String) : String :=
  if host.toList.contains ':' then "[" ++ host ++ "]" else host

def writtenOption (name value : String) : String :=
  String.ofList (queryEncoded name.toList ++ '=' :: queryEncoded value.toList)

def writtenOptions (options : List (String × List String)) : String :=
  let sorted := options.mergeSort fun a b => decide (a.1 ≤ b.1)
  if sorted.isEmpty then ""
  else "?" ++ String.intercalate "&" (sorted.flatMap fun (name, values) =>
    values.map (writtenOption name))

def redacted (url : DatabaseUrl) : String :=
  url.driver ++ "://" ++ url.writtenLogin ++ written (url.host?.map writtenHost) "" "" ++
    written (url.port?.map decimalText) ":" "" ++
      written (url.database?.map (encodedPart (· == '/'))) "/" "" ++ writtenOptions url.options

end DatabaseUrl

end WorldQuery
