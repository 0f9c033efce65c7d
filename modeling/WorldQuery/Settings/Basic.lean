import WorldQuery.Coercion
import WorldQuery.Felt
import WorldQuery.Name
import WorldQuery.Settings.DatabaseUrl

/-!
# Settings

The settings of a service are read from environment variables, whose names are given without the
prefix that the variables of a deployment share, or from data given by name. A `Draft` holds what
was read for every setting; it makes settings if every reading succeeded and is in its range. The
world address is brought into canonical form.
-/

namespace WorldQuery

open Number Text Text.Case

structure Settings where
  serviceName : String := "worldgraph"
  environment : String := "development"
  debug : Bool := false
  databaseUrl : String := "sqlite+aiosqlite:///indexer.db"
  poolSize : Int := 10
  maxOverflow : Int := 20
  poolTimeout : Binary64 := Binary64.ofDecimal false 30 0
  tablePrefix : String := Name.defaultTablePrefix
  worldAddress? : Option String := none
  rpcUrl? : Option String := none
  host : String := "0.0.0.0"
  port : Int := 8080
  deriving Repr

inductive SettingsFault where
  | numeral (fault : NumeralFault)
  | notReal (text : String)
  | issues (found : List Issue)
  deriving Repr

/-- The wording of a fault; issues have none. -/
def SettingsFault.message : SettingsFault → String
  | .numeral fault => fault.message
  | .notReal text => "could not convert string to float: " ++ quote text
  | .issues _ => ""
namespace Settings

def isBlankText (s : String) : Bool := s.toList.all isBlank

/-- The canonical form of a world address; a blank one is none. -/
def canonicalAddress : Option String → Except ScalarFault (Option String)
  | none => .ok none
  | some s => if isBlankText s then .ok none else (Felt.canonical (.text s)).map some

/-- A world address that was read, in canonical form. -/
def readAddress (read : Except IssueKind (Option String)) : Except IssueKind (Option String) := do
  match canonicalAddress (← read) with
  | .ok address => .ok address
  | .error fault => .error (.rejected fault.message)

/-- A reading that has to hold a value with a property. -/
def demand {α : Type} (read : Except IssueKind α) (holds : α → Bool) (kind : IssueKind) :
    Except IssueKind α := do
  let value ← read
  if holds value then .ok value else .error kind

def greatestPort : Int := 65535

/-- The settings unless others are given. -/
def standard : Settings := {}

/-- What was read for every setting. -/
structure Draft where
  serviceName : Except IssueKind String := .ok standard.serviceName
  environment : Except IssueKind String := .ok standard.environment
  debug : Except IssueKind Bool := .ok standard.debug
  databaseUrl : Except IssueKind String := .ok standard.databaseUrl
  poolSize : Except IssueKind Int := .ok standard.poolSize
  maxOverflow : Except IssueKind Int := .ok standard.maxOverflow
  poolTimeout : Except IssueKind Binary64 := .ok standard.poolTimeout
  tablePrefix : Except IssueKind String := .ok standard.tablePrefix
  worldAddress? : Except IssueKind (Option String) := .ok standard.worldAddress?
  rpcUrl? : Except IssueKind (Option String) := .ok standard.rpcUrl?
  host : Except IssueKind String := .ok standard.host
  port : Except IssueKind Int := .ok standard.port

/-- The readings of a draft, refused where they are out of range. -/
def Draft.inRange (d : Draft) : Draft :=
  { d with
    poolSize := demand d.poolSize (1 ≤ ·) .belowLeast
    maxOverflow := demand d.maxOverflow (0 ≤ ·) .belowLeast
    poolTimeout := demand d.poolTimeout Binary64.isPositive .notAbove
    worldAddress? := readAddress d.worldAddress?
    port := demand (demand d.port (1 ≤ ·) .belowLeast) (· ≤ greatestPort) .aboveGreatest }

def Draft.issues (d : Draft) : List Issue :=
  Issue.ofReading "service_name" d.serviceName ++ Issue.ofReading "environment" d.environment ++
    Issue.ofReading "debug" d.debug ++ Issue.ofReading "database_url" d.databaseUrl ++
    Issue.ofReading "pool_size" d.poolSize ++ Issue.ofReading "max_overflow" d.maxOverflow ++
    Issue.ofReading "pool_timeout" d.poolTimeout ++
    Issue.ofReading "storage_table_prefix" d.tablePrefix ++
    Issue.ofReading "world_address" d.worldAddress? ++ Issue.ofReading "rpc_url" d.rpcUrl? ++
    Issue.ofReading "host" d.host ++ Issue.ofReading "port" d.port

def Draft.values (d : Draft) : Except IssueKind Settings := do
  return {
    serviceName := ← d.serviceName, environment := ← d.environment, debug := ← d.debug
    databaseUrl := ← d.databaseUrl, poolSize := ← d.poolSize, maxOverflow := ← d.maxOverflow
    poolTimeout := ← d.poolTimeout, tablePrefix := ← d.tablePrefix
    worldAddress? := ← d.worldAddress?, rpcUrl? := ← d.rpcUrl?, host := ← d.host, port := ← d.port }

/-- Makes settings if every reading succeeded and is in its range. -/
def ofDraft (draft : Draft) : Except SettingsFault Settings :=
  match draft.inRange.values with
  | .ok s => .ok s
  | .error _ => .error (.issues draft.inRange.issues)

def readInt (value : Option String) (default : Int) : Except SettingsFault Int :=
  match value with
  | none => .ok default
  | some text => (readInteger 10 text.toList).mapError .numeral

def readReal (value : Option String) (default : Binary64) : Except SettingsFault Binary64 :=
  match value with
  | none => .ok default
  | some text =>
    match Binary64.read text.toList with
    | some x => .ok x
    | none => .error (.notReal text)

def ofEnvironment (env : List (String × String)) : Except SettingsFault Settings := do
  let value (name : String) : Option String := Assoc.get? env name
  let textOr (name default : String) : Except IssueKind String := .ok ((value name).getD default)
  let poolSize ← readInt (value "POOL_SIZE") standard.poolSize
  let maxOverflow ← readInt (value "MAX_OVERFLOW") standard.maxOverflow
  let poolTimeout ← readReal (value "POOL_TIMEOUT") standard.poolTimeout
  let port ← readInt (value "PORT") standard.port
  ofDraft
    { serviceName := textOr "SERVICE_NAME" standard.serviceName
      environment := textOr "ENVIRONMENT" standard.environment
      debug := .ok
        (match value "DEBUG" with
        | some text => lower text.toList == "true".toList
        | none => standard.debug)
      databaseUrl := textOr "DATABASE_URL" standard.databaseUrl
      poolSize := .ok poolSize
      maxOverflow := .ok maxOverflow
      poolTimeout := .ok poolTimeout
      tablePrefix := textOr "STORAGE_TABLE_PREFIX" standard.tablePrefix
      worldAddress? := .ok (value "WORLD_ADDRESS")
      rpcUrl? := .ok (value "RPC_URL")
      host := textOr "HOST" standard.host
      port := .ok port }

/-- Reads a setting from the data given by name; one that is not given keeps its standard value. -/
def given {α : Type} (options : List (String × Datum)) (name : String)
    (read : Datum → Except IssueKind α) (default : α) : Except IssueKind α :=
  match Assoc.get? options name with
  | some d => read d
  | none => .ok default

/-- Reads the settings from data given by name, for the database of an address. -/
def ofOptions (url : String) (options : List (String × Datum)) : Except SettingsFault Settings :=
  ofDraft
    { serviceName := given options "service_name" Coercion.text standard.serviceName
      environment := given options "environment" Coercion.text standard.environment
      debug := given options "debug" Coercion.bool standard.debug
      databaseUrl := .ok url
      poolSize := given options "pool_size" Coercion.int standard.poolSize
      maxOverflow := given options "max_overflow" Coercion.int standard.maxOverflow
      poolTimeout := given options "pool_timeout" Coercion.real standard.poolTimeout
      tablePrefix := given options "storage_table_prefix" Coercion.text standard.tablePrefix
      worldAddress? := given options "world_address" Coercion.optionalText standard.worldAddress?
      rpcUrl? := given options "rpc_url" Coercion.optionalText standard.rpcUrl?
      host := given options "host" Coercion.text standard.host
      port := given options "port" Coercion.int standard.port }

/-- The address of the database for a log. -/
def redactedUrl (s : Settings) : Except UrlFault String :=
  (DatabaseUrl.read s.databaseUrl).map (·.redacted)

end Settings

end WorldQuery
