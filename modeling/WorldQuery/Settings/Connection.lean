import WorldQuery.Settings.Basic

/-!
# Connections to a store

A database in memory lives as long as its connection, so all fetches share one. A database in a file
is opened as often as needed; to a database server there is a pool of connections.
-/

namespace WorldQuery

open Number

/-- How many connections a pool holds, how many more it opens under load, and how many seconds a
fetch waits for one, all as they are given. -/
structure Pool where
  size : Datum := .int Settings.standard.poolSize
  overflow : Datum := .int Settings.standard.maxOverflow
  timeout : Datum := .real Settings.standard.poolTimeout
  deriving Repr

inductive ConnectionKind where
  | shared
  | file
  | pooled (pool : Pool)
  deriving Repr

/-- How a store is connected; with `echo` its statements are logged. -/
structure Connection where
  url : String
  echo : Datum
  kind : ConnectionKind
  deriving Repr

inductive ConnectionFault where
  | settings (fault : SettingsFault)
  | url (fault : UrlFault)
  | unknownOption (name : String)
  | repeatedUrl
  deriving Repr

/-- The wording of a fault; issues have none. -/
def ConnectionFault.message : ConnectionFault → String
  | .settings fault => fault.message
  | .url fault => fault.message
  | .unknownOption name => "create_engine() got an unexpected keyword argument '" ++ name ++ "'"
  | .repeatedUrl => "create_engine() got multiple values for argument 'database_url'"

namespace Connection

/-- Whether a text occurs in another. -/
def occurs (part : List Char) : List Char → Bool
  | [] => part.isEmpty
  | c :: rest => part.isPrefixOf (c :: rest) || occurs part rest

def isServerless (url : List Char) : Bool := "sqlite".toList.isPrefixOf url

/-- The address names no file, or memory as its file. -/
def isInMemory (url : List Char) : Bool :=
  (url.reverse.dropWhile (· == '/')).head? == some ':' || occurs ":memory:".toList url

/-- The connection to the database of an address. -/
def plan (url : String) (echo : Datum) (pool : Pool) : Connection where
  url := url
  echo := echo
  kind :=
    if !isServerless url.toList then .pooled pool
    else if isInMemory url.toList then .shared
    else .file

def optionNames : List String := ["pool_size", "max_overflow", "pool_timeout", "echo"]

def optionFault? (name : String) : Option ConnectionFault :=
  if optionNames.contains name then none
  else if name = "database_url" then some .repeatedUrl
  else some (.unknownOption name)

def ofOptions (url : String) (options : List (String × Datum)) :
    Except ConnectionFault Connection :=
  match options.findSome? fun option => optionFault? option.1 with
  | some fault => .error fault
  | none =>
    let given (name : String) (default : Datum) : Datum := (Assoc.get? options name).getD default
    let standard : Pool := {}
    .ok (plan url (given "echo" (.bool false))
      ⟨given "pool_size" standard.size, given "max_overflow" standard.overflow,
        given "pool_timeout" standard.timeout⟩)

/-- The connection that settings describe. Their address must be one that a log can name. -/
def ofSettings (s : Settings) : Except ConnectionFault Connection := do
  let _ ← s.redactedUrl.mapError .url
  return plan s.databaseUrl (.bool s.debug)
    ⟨.int s.poolSize, .int s.maxOverflow, .real s.poolTimeout⟩

end Connection

end WorldQuery
