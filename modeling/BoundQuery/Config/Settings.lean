import BoundQuery.Executor

/-!
# Application settings

The database connection and the handling of statements. Settings are checked field by field in
a fixed order, the database before the statements; the first defect found is reported.
-/

namespace BoundQuery

structure DatabaseSettings where
  host : String
  port : UInt16
  database : String
  username : String
  password : String
  minConnections : UInt32
  maxConnections : UInt32
  connectionTimeoutSeconds : UInt64
  idleTimeoutSeconds : UInt64
  maxLifetimeSeconds : UInt64
deriving DecidableEq, Repr, Inhabited

structure AppSettings where
  database : DatabaseSettings
  query : QuerySettings := {}
deriving DecidableEq, Repr, Inhabited

/-- The most values that the database server takes for one statement. -/
def serverParameterLimit : Nat := 65535

/-- What is wrong with settings of the right shape. -/
inductive SettingsDefect where
  | emptyHost
  | zeroPort
  | emptyDatabase
  | emptyUsername
  | zeroMinConnections
  | zeroMaxConnections
  | minAboveMax
  | zeroConnectionTimeout
  | zeroMaxBoundParameters
  | maxBoundParametersAboveLimit
  /-- No settings file is named and the default one does not exist. -/
  | noSettingsFile
deriving DecidableEq, Repr

/-- The file that is read if none is named. -/
def defaultSettingsPath : String := "./queryhaus.toml"

def SettingsDefect.message : SettingsDefect → String
  | emptyHost => "Database host cannot be empty"
  | zeroPort => "Database port cannot be zero"
  | emptyDatabase => "Database name cannot be empty"
  | emptyUsername => "Database username cannot be empty"
  | zeroMinConnections => "Database min_connections must be greater than 0"
  | zeroMaxConnections => "Database max_connections must be greater than 0"
  | minAboveMax => "Database min_connections cannot be greater than max_connections"
  | zeroConnectionTimeout => "Database connection_timeout_seconds must be greater than 0"
  | zeroMaxBoundParameters => "Query max_bound_parameters must be greater than 0"
  | maxBoundParametersAboveLimit =>
    "Query max_bound_parameters cannot exceed " ++ serverParameterLimit.repr
  | noSettingsFile =>
    "Config path must be specified in .env file as QUERYHAUS_CONFIG or in " ++
      defaultSettingsPath ++ " file"

namespace DatabaseSettings

/-- The first defect, field by field. -/
def defect? (d : DatabaseSettings) : Option SettingsDefect :=
  if d.host = "" then some .emptyHost
  else if d.port = 0 then some .zeroPort
  else if d.database = "" then some .emptyDatabase
  else if d.username = "" then some .emptyUsername
  else if d.minConnections = 0 then some .zeroMinConnections
  else if d.maxConnections = 0 then some .zeroMaxConnections
  else if d.maxConnections < d.minConnections then some .minAboveMax
  else if d.connectionTimeoutSeconds = 0 then some .zeroConnectionTimeout
  else none

/-- The URL of the database; its parts are written as they are. -/
def connectionString (d : DatabaseSettings) : String :=
  "postgresql://" ++ d.username ++ ":" ++ d.password ++ "@" ++ d.host ++ ":" ++
    d.port.toNat.repr ++ "/" ++ d.database

end DatabaseSettings

/-- The first defect of the limit on values. -/
def QuerySettings.defect? (q : QuerySettings) : Option SettingsDefect :=
  if q.maxBoundParameters = 0 then some .zeroMaxBoundParameters
  else if serverParameterLimit < q.maxBoundParameters then some .maxBoundParametersAboveLimit
  else none

namespace AppSettings

/-- The first defect, database first. -/
def defect? (s : AppSettings) : Option SettingsDefect := s.database.defect?.or s.query.defect?

/-- The settings themselves, if they have no defect. -/
def validate (s : AppSettings) : Except SettingsDefect AppSettings :=
  match s.defect? with
  | some defect => .error defect
  | none => .ok s

end AppSettings

end BoundQuery
