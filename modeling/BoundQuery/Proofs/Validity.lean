import BoundQuery.Config.Load
import BoundQuery.Proofs.Delivery

/-!
# Valid settings

Settings are looked through in a fixed order, and the first condition that fails gives the message.
Some conditions overlap: a maximum of zero is below every minimum, yet it is told as a maximum of
zero. No settings leave the library in any other way than through these conditions, so no statement
binds more values than the server takes.

Results:
1. `message_defect?`: the defect that is found is the first failure of the list of conditions.
2. `defect?_eq_none_iff`: there is none exactly if the settings are valid.
3. `Shape.eq_default_of_query` / `completed_of_settings`: what is not written has its default.
4. `handed_out_valid`: what a document, a file or an environment gives is valid, and what else
   happens.
-/

namespace BoundQuery

namespace AppSettings

/-- Settings that can be worked with. -/
structure Valid (s : AppSettings) : Prop where
  host : s.database.host ≠ ""
  port : s.database.port ≠ 0
  database : s.database.database ≠ ""
  username : s.database.username ≠ ""
  connections : 1 ≤ s.database.minConnections ∧
    s.database.minConnections ≤ s.database.maxConnections
  connectionTimeout : 1 ≤ s.database.connectionTimeoutSeconds
  limit : 1 ≤ s.query.maxBoundParameters ∧ s.query.maxBoundParameters ≤ 65535

/-- The conditions on a database, each with what is said where it fails, in their order. -/
def databaseChecks (d : DatabaseSettings) : List (Bool × String) :=
  [(d.host ≠ "", "Database host cannot be empty"),
   (d.port ≠ 0, "Database port cannot be zero"),
   (d.database ≠ "", "Database name cannot be empty"),
   (d.username ≠ "", "Database username cannot be empty"),
   (d.minConnections ≠ 0, "Database min_connections must be greater than 0"),
   (d.maxConnections ≠ 0, "Database max_connections must be greater than 0"),
   (d.minConnections ≤ d.maxConnections,
    "Database min_connections cannot be greater than max_connections"),
   (d.connectionTimeoutSeconds ≠ 0,
    "Database connection_timeout_seconds must be greater than 0")]

/-- The conditions on the handling of statements. -/
def queryChecks (q : QuerySettings) : List (Bool × String) :=
  [(q.maxBoundParameters ≠ 0, "Query max_bound_parameters must be greater than 0"),
   (q.maxBoundParameters ≤ 65535, "Query max_bound_parameters cannot exceed 65535")]

/-- What is said of the first condition of a list that fails. -/
def firstFailure? (checks : List (Bool × String)) : Option String :=
  (checks.find? fun check => !check.1).map Prod.snd

/-- All conditions, the database first. -/
def checks (s : AppSettings) : List (Bool × String) :=
  databaseChecks s.database ++ queryChecks s.query

/-! ## The first failure -/

theorem firstFailure?_cons (holds : Bool) (message : String) (rest : List (Bool × String)) :
    firstFailure? ((holds, message) :: rest) =
      if holds then firstFailure? rest else some message := by
  cases holds <;> rfl

theorem firstFailure?_append (front back : List (Bool × String)) :
    firstFailure? (front ++ back) = (firstFailure? front).or (firstFailure? back) := by
  rw [firstFailure?, List.find?_append, Option.map_or]
  rfl

/-- One test of a chain of tests beside one condition of a list of conditions. -/
theorem message_test {fails : Prop} [Decidable fails] {holds : Bool}
    (opposite : holds = !decide fails)
    {defect : SettingsDefect} {message : String} (words : defect.message = message)
    {others : Option SettingsDefect} {rest : List (Bool × String)}
    (behind : others.map SettingsDefect.message = firstFailure? rest) :
    (if fails then some defect else others).map SettingsDefect.message =
      firstFailure? ((holds, message) :: rest) := by
  rw [firstFailure?_cons, opposite]
  by_cases failed : fails
  · simp [failed, words]
  · simp [failed, behind]

theorem message_databaseDefect? (d : DatabaseSettings) :
    d.defect?.map SettingsDefect.message = firstFailure? (databaseChecks d) := by
  refine message_test (by simp) rfl ?_
  refine message_test (by simp) rfl ?_
  refine message_test (by simp) rfl ?_
  refine message_test (by simp) rfl ?_
  refine message_test (by simp) rfl ?_
  refine message_test (by simp) rfl ?_
  refine message_test ?_ rfl (message_test (by simp) rfl rfl)
  rw [← decide_not]
  exact decide_eq_decide.mpr UInt32.not_lt.symm

theorem message_queryDefect? (q : QuerySettings) :
    q.defect?.map SettingsDefect.message = firstFailure? (queryChecks q) := by
  refine message_test (by simp) rfl (message_test ?_ (by decide) rfl)
  rw [← decide_not]
  exact decide_eq_decide.mpr Nat.not_lt.symm

/-- The defect that is found is the first condition that fails, the database before the
statements. -/
theorem message_defect? (s : AppSettings) :
    s.defect?.map SettingsDefect.message = firstFailure? s.checks := by
  rw [defect?, checks, firstFailure?_append, Option.map_or, message_databaseDefect?,
    message_queryDefect?]

theorem firstFailure?_eq_none_iff {checks : List (Bool × String)} :
    firstFailure? checks = none ↔ ∀ check ∈ checks, check.1 = true := by
  simp [firstFailure?, List.find?_eq_none]

/-- All conditions hold exactly of valid settings. -/
theorem defect?_eq_none_iff (s : AppSettings) : s.defect? = none ↔ s.Valid := by
  have atLeastOne (n : UInt32) : 1 ≤ n ↔ n ≠ 0 := UInt32.pos_iff_ne_zero
  have inTime (n : UInt64) : 1 ≤ n ↔ n ≠ 0 := UInt64.pos_iff_ne_zero
  rw [← Option.map_eq_none_iff (f := SettingsDefect.message), message_defect?,
    firstFailure?_eq_none_iff]
  simp only [checks, databaseChecks, queryChecks, List.cons_append, List.nil_append,
    List.forall_mem_cons, decide_eq_true_eq]
  constructor
  · rintro ⟨host, port, database, username, min, _, order, timeout, limit, upper, _⟩
    exact ⟨host, port, database, username, ⟨(atLeastOne _).mpr min, order⟩, (inTime _).mpr timeout,
      Nat.pos_of_ne_zero limit, upper⟩
  · rintro ⟨host, port, database, username, ⟨min, order⟩, timeout, limit, upper⟩
    have max := UInt32.le_trans min order
    exact ⟨host, port, database, username, (atLeastOne _).mp min, (atLeastOne _).mp max, order,
      (inTime _).mp timeout, Nat.ne_of_gt limit, upper, nofun⟩

/-- Validation hands out the settings themselves or nothing. -/
theorem validated_eq_ok_iff {s s' : AppSettings} :
    s.validate.mapError ConfigError.invalid = .ok s' ↔ s' = s ∧ s.Valid := by
  rw [validate, ← defect?_eq_none_iff]
  cases s.defect? with
  | none => simp [Except.mapError, eq_comm]
  | some defect => simp [Except.mapError]

theorem validated_of_invalid {s : AppSettings} (invalid : ¬s.Valid) :
    ∃ defect, s.validate.mapError ConfigError.invalid = .error (.invalid defect) ∧
      firstFailure? s.checks = some defect.message := by
  rw [validate, ← message_defect?]
  cases found : s.defect? with
  | none => exact absurd ((defect?_eq_none_iff s).mp found) invalid
  | some defect => exact ⟨defect, rfl, rfl⟩

end AppSettings

/-! ## Defaults -/

theorem exists_of_bind_eq_ok {ε α β : Type} {x : Except ε α} {f : α → Except ε β} {b : β}
    (h : (x >>= f) = .ok b) : ∃ a, x = .ok a ∧ f a = .ok b := by
  cases x with
  | error e => cases h
  | ok a => exact ⟨a, rfl, h⟩

namespace Shape

theorem eq_default_of_missing {α : Type} {name : String} {default a : α}
    {read : Toml → Except ShapeError α} {entries : Toml.Entries}
    (h : optional name default read entries = .ok a) (missing : Table.lookup name entries = none) :
    a = default := by
  rw [optional, missing] at h
  exact (Except.ok.inj h).symm

theorem optional_query {root : Toml.Entries} {s : AppSettings} (h : settings root = .ok s) :
    optional "query" {} query root = .ok s.query := by
  obtain ⟨_, _, h⟩ := exists_of_bind_eq_ok h
  obtain ⟨database, _, h⟩ := exists_of_bind_eq_ok h
  obtain ⟨q, read, h⟩ := exists_of_bind_eq_ok h
  cases h
  exact read

/-- Each field of a table that is not there has its default. -/
theorem eq_default_of_query {fields : Toml.Entries} {q : QuerySettings}
    (h : queryOfEntries fields = .ok q) :
    (Table.lookup "log_statements" fields = none → q.logStatements = false) ∧
      (Table.lookup "log_parameters" fields = none → q.logParameters = false) ∧
      (Table.lookup "max_bound_parameters" fields = none → q.maxBoundParameters = 65535) := by
  obtain ⟨_, _, h⟩ := exists_of_bind_eq_ok h
  obtain ⟨logStatements, readStatements, h⟩ := exists_of_bind_eq_ok h
  obtain ⟨logParameters, readParameters, h⟩ := exists_of_bind_eq_ok h
  obtain ⟨maxBoundParameters, readLimit, h⟩ := exists_of_bind_eq_ok h
  cases h
  exact ⟨eq_default_of_missing readStatements, eq_default_of_missing readParameters,
    eq_default_of_missing readLimit⟩

end Shape

namespace AppSettings

/-- The statement settings of a document: the defaults where it has none of its own, and else those
of its table, whose missing fields have their defaults. -/
structure Completed (root : Toml.Entries) (q : QuerySettings) : Prop where
  missing : Table.lookup "query" root = none →
    q = { logStatements := false, logParameters := false, maxBoundParameters := 65535 }
  fields : ∀ origin fields, Table.lookup "query" root = some (.table origin fields) →
    (Table.lookup "log_statements" fields = none → q.logStatements = false) ∧
      (Table.lookup "log_parameters" fields = none → q.logParameters = false) ∧
      (Table.lookup "max_bound_parameters" fields = none → q.maxBoundParameters = 65535)

theorem completed_of_settings {root : Toml.Entries} {s : AppSettings}
    (h : Shape.settings root = .ok s) : Completed root s.query := by
  have read := Shape.optional_query h
  refine ⟨Shape.eq_default_of_missing read, fun origin fields found => ?_⟩
  rw [Shape.optional, found] at read
  exact Shape.eq_default_of_query read

theorem exists_of_read {text : String} {s : AppSettings} (h : read text = .ok s) :
    ∃ entries, Toml.ofText? text = some entries ∧
      Shape.settings (Shape.sortedRoot entries) = .ok s := by
  rw [read] at h
  split at h
  · cases h
  · next entries parsed =>
    refine ⟨entries, parsed, ?_⟩
    dsimp only at h
    split at h
    · next settings shaped =>
      cases h
      exact shaped
    · cases h

/-! ## What is handed out -/

theorem ofToml_of_read {text : String} {s : AppSettings} (h : read text = .ok s) :
    ofToml text = s.validate.mapError .invalid := by
  rw [ofToml, h]

theorem valid_of_ofToml {text : String} {s : AppSettings} (h : ofToml text = .ok s) : s.Valid := by
  cases shaped : read text with
  | error e =>
    rw [ofToml, shaped] at h
    cases h
  | ok settings =>
    rw [ofToml_of_read shaped] at h
    obtain ⟨rfl, valid⟩ := validated_eq_ok_iff.mp h
    exact valid

theorem valid_of_ofFile {files : FileSystem} {path : String} {s : AppSettings}
    (h : ofFile files path = .ok s) : s.Valid := by
  rw [ofFile] at h
  split at h
  · cases h
  · exact valid_of_ofToml h

/-- The validation at the end of loading is enough by itself, wherever the settings come from. -/
theorem valid_of_load {env : Environment} {files : FileSystem} {s : AppSettings}
    (h : load env files = .ok s) : s.Valid := by
  rw [load] at h
  split at h
  · cases h
  · split at h
    · cases h
    · obtain ⟨rfl, valid⟩ := validated_eq_ok_iff.mp h
      exact valid

/-- Settings that are handed out for a document, for a file or for an environment. -/
inductive HandedOut (s : AppSettings) : Prop
  | document {text : String} : ofToml text = .ok s → HandedOut s
  | file {files : FileSystem} {path : String} : ofFile files path = .ok s → HandedOut s
  | environment {env : Environment} {files : FileSystem} : load env files = .ok s → HandedOut s

theorem HandedOut.valid {s : AppSettings} (h : HandedOut s) : s.Valid := by
  cases h with
  | document read => exact valid_of_ofToml read
  | file read => exact valid_of_ofFile read
  | environment loaded => exact valid_of_load loaded

/-- Only valid settings are handed out. Settings that a document has are completed by defaults, and
handed out as they are if they are valid; if not, the first condition that fails is reported. So an
executor with settings from a document, a file or an environment never binds more than 65535
values. -/
theorem handed_out_valid :
    (∀ text s, read text = .ok s →
      (∃ entries, Toml.ofText? text = some entries ∧
        Completed (Shape.sortedRoot entries) s.query) ∧
      (∀ s', ofToml text = .ok s' ↔ s' = s ∧ s.Valid) ∧
      (¬s.Valid → ∃ defect, ofToml text = .error (.invalid defect) ∧
        firstFailure? s.checks = some defect.message)) ∧
    ∀ s, HandedOut s → s.Valid ∧
      ∀ {Row : Type} (executor : Executor Row), executor.settings = s.query →
        ∀ (statement : Statement) (p : Positional),
          (statement.prepare executor.settings).outcome = .ok p → p.values.length ≤ 65535 := by
  constructor
  · intro text s shaped
    obtain ⟨entries, parsed, settings⟩ := exists_of_read shaped
    refine ⟨⟨entries, parsed, completed_of_settings settings⟩, fun s' => ?_, fun invalid => ?_⟩
    · rw [ofToml_of_read shaped]
      exact validated_eq_ok_iff
    · rw [ofToml_of_read shaped]
      exact validated_of_invalid invalid
  · intro s handedOut
    refine ⟨handedOut.valid, fun executor same statement p prepared => ?_⟩
    rw [same, Builder.outcome_prepare] at prepared
    exact Nat.le_trans (Statement.length_values_le prepared) handedOut.valid.limit.2

/-- The fields of a database in their order, without a port to connect to. -/
def portlessDocument : String := "database = ['h', 0, 'd', 'u', '', 1, 1, 1, 0, 0]"

def reachableDocument : String := "database = ['h', 5432, 'd', 'u', '', 1, 1, 1, 0, 0]"

def listedSettings (port : UInt16) : AppSettings :=
  { database := ⟨"h", port, "d", "u", "", 1, 1, 1, 0, 0⟩ }

theorem read_portlessDocument : read portlessDocument = .ok (listedSettings 0) := by
  decide +kernel

theorem read_reachableDocument : read reachableDocument = .ok (listedSettings 5432) := by
  decide +kernel

/-- With a port, the settings are handed out and keep statements to the limit; without one, that is
what is reported. -/
theorem handed_out_with_port :
    ofToml reachableDocument = .ok (listedSettings 5432) ∧
      (∀ (statement : Statement) (p : Positional),
        (statement.prepare (listedSettings 5432).query).outcome = .ok p → p.values.length ≤ 65535) ∧
      ∃ defect, ofToml portlessDocument = .error (.invalid defect) ∧
        defect.message = "Database port cannot be zero" := by
  obtain ⟨documents, bounded⟩ := handed_out_valid
  have valid : (listedSettings 5432).Valid := by
    constructor <;> decide
  have read : ofToml reachableDocument = .ok (listedSettings 5432) :=
    ((documents _ _ read_reachableDocument).2.1 _).mpr ⟨rfl, valid⟩
  have portless : ¬(listedSettings 0).Valid := fun valid => valid.port rfl
  obtain ⟨defect, refused, told⟩ := (documents _ _ read_portlessDocument).2.2 portless
  have first : firstFailure? (listedSettings 0).checks = some "Database port cannot be zero" := by
    decide
  rw [first] at told
  refine ⟨read, fun statement p => ?_, defect, refused, (Option.some.inj told).symm⟩
  let executor : Executor Unit := ⟨.closed Unit, (listedSettings 5432).query⟩
  exact (bounded _ (.document read)).2 executor rfl statement p

end AppSettings

end BoundQuery
