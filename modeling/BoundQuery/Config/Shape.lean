import BoundQuery.Config.Settings
import BoundQuery.Toml
import BoundQuery.Text.Quoted

/-!
# Settings in TOML

A document has the shape of settings if it has the tables and fields with values of their types.
Tables are looked through in key order; the first value of a wrong type is reported before any
missing field. A table may also be an array of its fields in their fixed order.
-/

namespace BoundQuery

/-- What a field has to hold. -/
inductive Expected where
  | string
  | boolean
  | u16
  | u32
  | u64
  | usize
  | databaseTable
  | queryTable
deriving DecidableEq, Repr

def Expected.text : Expected → String
  | string => "a string"
  | boolean => "a boolean"
  | u16 => "u16"
  | u32 => "u32"
  | u64 => "u64"
  | usize => "usize"
  | databaseTable => "struct DatabaseConfig"
  | queryTable => "struct QueryConfig"

/-- What stands in its place. -/
inductive Found where
  | string (s : String)
  | integer (i : Int)
  /-- An integer that fits 128 bits and no fewer. -/
  | wideInteger (i : Int) (signed : Bool)
  | float (x : Binary64)
  | boolean (b : Bool)
  | sequence
  | map
deriving DecidableEq, Repr

/-- A double in a message has a fraction, except infinity and no number. -/
def floatText : Binary64 → String
  | .finite x =>
    let text := (Binary64.finite x).display
    if '.' ∈ text.toList then text else text ++ ".0"
  | x => x.display

def Found.text : Found → String
  | string s => "string " ++ Text.quoted s
  | integer i => "integer `" ++ String.ofList (Text.intDigits i) ++ "`"
  | wideInteger i signed =>
    "integer `" ++ String.ofList (Text.intDigits i) ++ "` as " ++
      (if signed then "i128" else "u128")
  | float x => "floating point `" ++ floatText x ++ "`"
  | boolean b => "boolean `" ++ (if b then "true" else "false") ++ "`"
  | sequence => "sequence"
  | map => "map"

/-- Why a document does not have the shape of settings. -/
inductive ShapeError where
  | missingField (name : String)
  | invalidType (found : Found) (expected : Expected)
  | invalidValue (i : Int) (expected : Expected)
  /-- An array of database fields ends too early. -/
  | shortSequence (length : Nat)
  | integerOverflow
  | floatOverflow
deriving DecidableEq, Repr

def ShapeError.message : ShapeError → String
  | missingField name => "missing field `" ++ name ++ "`"
  | invalidType found expected => "invalid type: " ++ found.text ++ ", expected " ++ expected.text
  | invalidValue i expected =>
    "invalid value: " ++ (Found.integer i).text ++ ", expected " ++ expected.text
  | shortSequence length =>
    "invalid length " ++ length.repr ++ ", expected struct DatabaseConfig with 10 elements"
  | integerOverflow => "integer number overflowed"
  | floatOverflow => "floating-point number overflowed"

namespace Shape

/-- An integer as it is found: 64 bits with or without sign, else 128 bits, else too large. -/
def foundInteger (i : Int) : Except ShapeError Found :=
  if -0x8000000000000000 ≤ i ∧ i < 0x10000000000000000 then .ok (.integer i)
  else if -0x80000000000000000000000000000000 ≤ i ∧ i < 0x80000000000000000000000000000000 then .ok (.wideInteger i true)
  else if 0 ≤ i ∧ i < 0x100000000000000000000000000000000 then .ok (.wideInteger i false)
  else .error .integerOverflow

/-- What a value is found as. -/
def found : Toml → Except ShapeError Found
  | .string s => .ok (.string s)
  | .integer i => foundInteger i
  | .float x => .ok (.float x)
  | .hugeFloat => .error .floatOverflow
  | .boolean b => .ok (.boolean b)
  | .dateTime => .ok .map
  | .array _ => .ok .sequence
  | .tables _ => .ok .sequence
  | .table _ _ => .ok .map

/-- The error for a value that is not of the expected type. -/
def mismatch {α : Type} (v : Toml) (expected : Expected) : Except ShapeError α :=
  match found v with
  | .ok f => .error (.invalidType f expected)
  | .error e => .error e

def string (v : Toml) : Except ShapeError String :=
  match v with
  | .string s => .ok s
  | _ => mismatch v .string

def boolean (v : Toml) : Except ShapeError Bool :=
  match v with
  | .boolean b => .ok b
  | _ => mismatch v .boolean

/-- An integer from zero up to a limit. -/
def unsigned (limit : Nat) (expected : Expected) (v : Toml) : Except ShapeError Nat :=
  match v with
  | .integer i =>
    match foundInteger i with
    | .ok (.integer i) =>
      if 0 ≤ i ∧ i < limit then .ok i.toNat else .error (.invalidValue i expected)
    | .ok f => .error (.invalidType f expected)
    | .error e => .error e
  | _ => mismatch v expected

def u16 (v : Toml) : Except ShapeError UInt16 :=
  (unsigned UInt16.size .u16 v).map UInt16.ofNat

def u32 (v : Toml) : Except ShapeError UInt32 :=
  (unsigned UInt32.size .u32 v).map UInt32.ofNat

def u64 (v : Toml) : Except ShapeError UInt64 :=
  (unsigned UInt64.size .u64 v).map UInt64.ofNat

def usize (v : Toml) : Except ShapeError Nat := unsigned UInt64.size .usize v

mutual
/-- A value nobody asks for; only numbers too large for any type are refused. -/
def ignored : Toml → Except ShapeError Unit
  | .integer i => (foundInteger i).map fun _ => ()
  | .hugeFloat => .error .floatOverflow
  | .array items => ignoredItems items
  | .tables items => ignoredItems items
  | .table _ entries => ignoredEntries entries
  | _ => .ok ()

def ignoredItems : List Toml → Except ShapeError Unit
  | [] => .ok ()
  | item :: items =>
    match ignored item with
    | .ok _ => ignoredItems items
    | .error e => .error e

def ignoredEntries : List (String × Toml) → Except ShapeError Unit
  | [] => .ok ()
  | (_, v) :: entries =>
    match ignored v with
    | .ok _ => ignoredEntries entries
    | .error e => .error e
end

/-- A field that has to be there. -/
def required {α : Type} (name : String) (read : Toml → Except ShapeError α)
    (entries : Toml.Entries) : Except ShapeError α :=
  match Table.lookup name entries with
  | some v => read v
  | none => .error (.missingField name)

/-- A field that may be missing. -/
def optional {α : Type} (name : String) (default : α) (read : Toml → Except ShapeError α)
    (entries : Toml.Entries) : Except ShapeError α :=
  match Table.lookup name entries with
  | some v => read v
  | none => .ok default

/-- Checks entries in order, each by its key. -/
def checkEntries (check : String → Toml → Except ShapeError Unit) :
    Toml.Entries → Except ShapeError Unit
  | [] => .ok ()
  | (key, v) :: entries =>
    match check key v with
    | .ok _ => checkEntries check entries
    | .error e => .error e

def discard {α : Type} (result : Except ShapeError α) : Except ShapeError Unit :=
  result.map fun _ => ()

/-- The check of a database field. -/
def checkDatabaseField (key : String) (v : Toml) : Except ShapeError Unit :=
  match key with
  | "host" | "database" | "username" | "password" => discard (string v)
  | "port" => discard (u16 v)
  | "min_connections" | "max_connections" => discard (u32 v)
  | "connection_timeout_seconds" | "idle_timeout_seconds" | "max_lifetime_seconds" =>
    discard (u64 v)
  | _ => ignored v

def databaseOfEntries (entries : Toml.Entries) : Except ShapeError DatabaseSettings := do
  checkEntries checkDatabaseField entries
  return {
    host := ← required "host" string entries
    port := ← required "port" u16 entries
    database := ← required "database" string entries
    username := ← required "username" string entries
    password := ← required "password" string entries
    minConnections := ← required "min_connections" u32 entries
    maxConnections := ← required "max_connections" u32 entries
    connectionTimeoutSeconds := ← required "connection_timeout_seconds" u64 entries
    idleTimeoutSeconds := ← required "idle_timeout_seconds" u64 entries
    maxLifetimeSeconds := ← required "max_lifetime_seconds" u64 entries }

/-- The field at a place of an array. -/
def place {α : Type} (n : Nat) (read : Toml → Except ShapeError α) (items : List Toml) :
    Except ShapeError α :=
  match items[n]? with
  | some v => read v
  | none => .error (.shortSequence n)

def databaseOfItems (items : List Toml) : Except ShapeError DatabaseSettings := do
  return {
    host := ← place 0 string items
    port := ← place 1 u16 items
    database := ← place 2 string items
    username := ← place 3 string items
    password := ← place 4 string items
    minConnections := ← place 5 u32 items
    maxConnections := ← place 6 u32 items
    connectionTimeoutSeconds := ← place 7 u64 items
    idleTimeoutSeconds := ← place 8 u64 items
    maxLifetimeSeconds := ← place 9 u64 items }

def database (v : Toml) : Except ShapeError DatabaseSettings :=
  match v with
  | .table _ entries => databaseOfEntries entries
  | .dateTime => databaseOfEntries []
  | .array items => databaseOfItems items
  | .tables items => databaseOfItems items
  | _ => mismatch v .databaseTable

/-- The check of a field of the statement settings. -/
def checkQueryField (key : String) (v : Toml) : Except ShapeError Unit :=
  match key with
  | "log_statements" | "log_parameters" => discard (boolean v)
  | "max_bound_parameters" => discard (usize v)
  | _ => ignored v

def queryOfEntries (entries : Toml.Entries) : Except ShapeError QuerySettings := do
  checkEntries checkQueryField entries
  let default : QuerySettings := {}
  return {
    logStatements := ← optional "log_statements" default.logStatements boolean entries
    logParameters := ← optional "log_parameters" default.logParameters boolean entries
    maxBoundParameters :=
      ← optional "max_bound_parameters" default.maxBoundParameters usize entries }

/-- The field at a place of an array that may end before it. -/
def optionalPlace {α : Type} (n : Nat) (default : α) (read : Toml → Except ShapeError α)
    (items : List Toml) : Except ShapeError α :=
  match items[n]? with
  | some v => read v
  | none => .ok default

def queryOfItems (items : List Toml) : Except ShapeError QuerySettings := do
  let default : QuerySettings := {}
  return {
    logStatements := ← optionalPlace 0 default.logStatements boolean items
    logParameters := ← optionalPlace 1 default.logParameters boolean items
    maxBoundParameters := ← optionalPlace 2 default.maxBoundParameters usize items }

def query (v : Toml) : Except ShapeError QuerySettings :=
  match v with
  | .table _ entries => queryOfEntries entries
  | .dateTime => queryOfEntries []
  | .array items => queryOfItems items
  | .tables items => queryOfItems items
  | _ => mismatch v .queryTable

/-- The check of an entry of the root table. -/
def checkRootField (key : String) (v : Toml) : Except ShapeError Unit :=
  match key with
  | "database" => discard (database v)
  | "query" => discard (query v)
  | _ => ignored v

/-- The settings of a root table whose tables are sorted by key. -/
def settings (entries : Toml.Entries) : Except ShapeError AppSettings := do
  checkEntries checkRootField entries
  return {
    database := ← required "database" database entries
    query := ← optional "query" {} query entries }

/-- The entries of a document, all tables sorted by key. -/
def sortedRoot (entries : Toml.Entries) : Toml.Entries :=
  match (Toml.table .header entries).sorted with
  | .table _ entries => entries
  | _ => []

end Shape

end BoundQuery
