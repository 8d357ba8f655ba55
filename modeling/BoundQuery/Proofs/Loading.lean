import BoundQuery.Config.FileMap
import BoundQuery.Proofs.Table
import BoundQuery.Proofs.Validity

/-!
# One settings file

A variable of the process, the environment file and the default path are asked in this order where
the settings are. The first one that says so decides: what becomes of that one file is the result,
also if it cannot be read, is no document or is not valid. No other file is tried instead.

Lines of an environment file are carried out one after another, so what a value says may depend on
the lines before it. `EnvFile.script` keeps the two apart: it is what the lines say, and
`EnvFile.ends_loadLines` is what comes of it. One thing that a line may say cannot be done. No
variable holds a null character, and loading ends in a panic where a line assigns one to a variable
that is not set yet.

Results:
1. `Environment.find?_ofProcess`: of the variables of a process, the texts are set.
2. `EnvFile.ends_loadLines`: how the loading of an environment file ends, and what is set then.
3. `EnvFile.failure_of_fault`: a file that is not read to its end says what is wrong with it.
4. `AppSettings.bind_validate_ofEnvironment`: the last validation changes nothing.
5. `AppSettings.load_one_file`: what loading returns, for every process and every file system.
-/

namespace BoundQuery

/-! ## The variables of a process -/

/-- A variable of a process is set if its value is a text. -/
theorem Environment.find?_ofProcess (process : ProcessVariables) (name : String) :
    (ofProcess process).find? name = (process.find? name).bind String.fromUTF8? := by
  show Table.lookup name (process.keys.filterMap fun k =>
    ((process.find? k).bind String.fromUTF8?).map (k, ·)) = _
  rw [Table.lookup_filterMap]
  split
  · rfl
  · next missing =>
    rw [Table.find?_eq_none_of_notMem missing]
    rfl

/-! ## The lines of an environment file -/

namespace EnvFile

/-- What the lines of a file say: assignments up to the first line that cannot be read, and what is
wrong with that line. -/
structure Script where
  assigned : List (String × String)
  failure? : Option EnvFileError

/-- One more assignment in front. -/
def Script.assign (script : Script) (name value : String) : Script :=
  { script with assigned := (name, value) :: script.assigned }

/-- Reads lines, each with the variables that those before it set. -/
def script (env : Environment) : List (Except EnvFileError (List Char)) → Script
  | [] => ⟨[], none⟩
  | .error e :: _ => ⟨[], some e⟩
  | .ok text :: lines =>
    match assignment env text with
    | .error e => ⟨[], some e⟩
    | .ok none => script env lines
    | .ok (some (name, v)) => (script (setNew env name v) lines).assign name v

/-- A variable that is not set gets a value no variable can hold. Only the first value that a file
assigns to a variable matters. -/
def Refused (env : Environment) (assigned : List (String × String)) : Prop :=
  ∃ name value, env.find? name = none ∧ Table.lookup name assigned = some value ∧
    '\x00' ∈ value.toList

/-- How the loading of a file ends: a variable keeps the value it has, and else takes the first one
that is assigned to it. -/
inductive Ends (env : Environment) (script : Script) : Except Stop Environment → Prop
  | panicked : Refused env script.assigned → Ends env script (.error .panicked)
  | failed {e : EnvFileError} : ¬Refused env script.assigned → script.failure? = some e →
      Ends env script (.error (.failed e))
  | done {final : Environment} : ¬Refused env script.assigned → script.failure? = none →
      (∀ name, final.find? name = (env.find? name).or (Table.lookup name script.assigned)) →
      Ends env script (.ok final)

theorem find?_setNew (env : Environment) (name value other : String) :
    (setNew env name value).find? other =
      (env.find? other).or (if name = other then some value else none) := by
  unfold setNew
  by_cases same : name = other
  · subst same
    cases known : env.find? name with
    | none => simp [Table.find?_insert]
    | some v => simp [known]
  · cases known : env.find? name with
    | none => simp [Table.find?_insert, same]
    | some v => simp [same]

theorem setPanics_iff {env : Environment} {name value : String} :
    setPanics env name value = true ↔ env.find? name = none ∧ '\x00' ∈ value.toList := by
  simp [setPanics]

theorem not_refused_nil (env : Environment) : ¬Refused env [] := by
  rintro ⟨name, value, _, found, _⟩
  cases found

/-- The first assignment is refused, or one behind it once it is carried out. -/
theorem refused_cons {env : Environment} {name value : String} {rest : List (String × String)} :
    Refused env ((name, value) :: rest) ↔
      setPanics env name value = true ∨ Refused (setNew env name value) rest := by
  rw [setPanics_iff]
  constructor
  · rintro ⟨other, v, missing, found, null⟩
    by_cases same : name = other
    · subst same
      rw [Table.lookup, if_pos rfl] at found
      cases found
      exact .inl ⟨missing, null⟩
    · rw [Table.lookup, if_neg same] at found
      refine .inr ⟨other, v, ?_, found, null⟩
      rw [find?_setNew, missing, if_neg same]
      rfl
  · rintro (⟨missing, null⟩ | ⟨other, v, missing, found, null⟩)
    · exact ⟨name, value, missing, if_pos rfl, null⟩
    · rw [find?_setNew, Option.or_eq_none_iff] at missing
      have same : name ≠ other := fun same => by simp [same] at missing
      refine ⟨other, v, missing.1, ?_, null⟩
      rw [Table.lookup, if_neg same]
      exact found

/-- One assignment that can be carried out. -/
theorem Ends.assign {env : Environment} {name value : String} {script : Script}
    {r : Except Stop Environment} (held : ¬setPanics env name value = true)
    (rest : Ends (setNew env name value) script r) : Ends env (script.assign name value) r := by
  have refused : Refused env (script.assign name value).assigned ↔
      Refused (setNew env name value) script.assigned :=
    refused_cons.trans (or_iff_right held)
  cases rest with
  | panicked h => exact .panicked (refused.mpr h)
  | failed h failure => exact .failed (mt refused.mp h) failure
  | done h whole values =>
    refine .done (mt refused.mp h) whole fun other => ?_
    rw [values, find?_setNew, Option.or_assoc]
    congr 1
    show _ = Table.lookup other ((name, value) :: script.assigned)
    rw [Table.lookup]
    split <;> rfl

/-- Every loading ends as the lines say. -/
theorem ends_loadLines (env : Environment) (lines : List (Except EnvFileError (List Char))) :
    Ends env (script env lines) (loadLines env lines) := by
  induction lines generalizing env with
  | nil => exact .done (not_refused_nil env) rfl fun name => (Option.or_none).symm
  | cons line lines ih =>
    cases line with
    | error e => exact .failed (not_refused_nil env) rfl
    | ok text =>
      unfold script loadLines
      rcases assignment env text with e | _ | ⟨name, v⟩
      · exact .failed (not_refused_nil env) rfl
      · exact ih env
      · dsimp only
        by_cases panics : setPanics env name v = true
        · rw [if_pos panics]
          exact .panicked (refused_cons.mpr (.inl panics))
        · rw [if_neg panics]
          exact (ih _).assign panics

/-! ## Files that are not read to their end -/

/-- A line that cannot be read is not lost among joined lines. -/
theorem exists_error_logicalLines {state : Scan} {pending : List Char}
    {lines : List (Except EnvFileError (List Char))} (failing : ∃ e, .error e ∈ lines) :
    ∃ e, .error e ∈ logicalLines state pending lines := by
  induction lines generalizing state pending with
  | nil =>
    obtain ⟨_, member⟩ := failing
    cases member
  | cons line lines ih =>
    cases line with
    | error e => exact ⟨e, List.mem_singleton_self _⟩
    | ok text =>
      obtain ⟨e, member⟩ := failing
      have later (state : Scan) (pending : List Char) :
          ∃ e, .error e ∈ logicalLines state pending lines :=
        ih ⟨e, (List.mem_cons.mp member).resolve_left nofun⟩
      have behind (first : Except EnvFileError (List Char)) :
          ∃ e, .error e ∈ first :: logicalLines .bare [] lines :=
        (later .bare []).imp fun _ member => List.mem_cons_of_mem _ member
      unfold logicalLines
      dsimp only
      split
      · exact behind _
      · split
        · exact behind _
        · exact later _ _
        · exact behind _

/-- The first line that cannot be read ends the script, if no assignment before it does. -/
theorem failure_of_error_mem {env : Environment} {lines : List (Except EnvFileError (List Char))}
    (failing : ∃ e, .error e ∈ lines) : (script env lines).failure?.isSome := by
  induction lines generalizing env with
  | nil =>
    obtain ⟨_, member⟩ := failing
    cases member
  | cons line lines ih =>
    cases line with
    | error e => rfl
    | ok text =>
      obtain ⟨e, member⟩ := failing
      have later (env : Environment) : (script env lines).failure?.isSome :=
        ih ⟨e, (List.mem_cons.mp member).resolve_left nofun⟩
      unfold script
      rcases assignment env text with e | _ | ⟨name, v⟩
      · rfl
      · exact later env
      · exact later _

theorem failure_of_fault {env : Environment} {content : FileBytes} {why : ReadFault}
    (fault : content.fault? = some why) : (script env (lines content)).failure?.isSome := by
  refine failure_of_error_mem (exists_error_logicalLines ⟨.fault why, ?_⟩)
  simp only [readLines, fault]
  exact List.mem_append_right _ (List.mem_singleton_self _)

end EnvFile

/-! ## The settings -/

namespace AppSettings

/-- What the nearest environment file says, and nothing if there is none. -/
def fileScript (env : Environment) (files : FileSystem) : EnvFile.Script :=
  match files.environmentFile? with
  | none => ⟨[], none⟩
  | some content => EnvFile.script env (EnvFile.lines content)

theorem ends_loadEnvironment (env : Environment) (files : FileSystem) :
    EnvFile.Ends env (fileScript env files) (loadEnvironment env files) := by
  unfold fileScript loadEnvironment
  rcases files.environmentFile? with _ | content
  · exact .done (EnvFile.not_refused_nil env) rfl fun name => (Option.or_none).symm
  · exact EnvFile.ends_loadLines env _

theorem valid_of_ofEnvironment {env : Environment} {files : FileSystem} {s : AppSettings}
    (h : ofEnvironment env files = .ok s) : s.Valid := by
  unfold ofEnvironment at h
  split at h
  · exact valid_of_ofFile h
  · split at h
    · exact valid_of_ofFile h
    · cases h

/-- Settings from an environment have been validated; to validate them again changes nothing. -/
theorem bind_validate_ofEnvironment (env : Environment) (files : FileSystem) :
    ((ofEnvironment env files).bind fun s => s.validate.mapError .invalid) =
      ofEnvironment env files := by
  cases found : ofEnvironment env files with
  | error e => rfl
  | ok s => exact validated_eq_ok_iff.mpr ⟨rfl, valid_of_ofEnvironment found⟩

/-- Loading without the last validation. -/
theorem load_eq_bind (env : Environment) (files : FileSystem) :
    load env files =
      ((loadEnvironment env files).mapError .ofStop).bind fun env => ofEnvironment env files := by
  unfold load
  cases loadEnvironment env files with
  | error stop => rfl
  | ok final =>
    refine Eq.trans ?_ (bind_validate_ofEnvironment final files)
    dsimp only
    cases ofEnvironment final files <;> rfl

/-- The path that the process names, or else the environment file by what it assigns. -/
def namedPath? (process : ProcessVariables) (assigned : List (String × String)) : Option String :=
  ((process.find? pathVariable).bind String.fromUTF8?).or (Table.lookup pathVariable assigned)

/-- Where the settings come from once the environment file is read. -/
inductive Resolves (process : ProcessVariables) (assigned : List (String × String))
    (files : FileSystem) : Except ConfigError AppSettings → Prop
  | named {path : String} : namedPath? process assigned = some path →
      Resolves process assigned files (ofFile files path)
  | default : namedPath? process assigned = none → files.contains defaultSettingsPath = true →
      Resolves process assigned files (ofFile files defaultSettingsPath)
  | nowhere : namedPath? process assigned = none → files.contains defaultSettingsPath = false →
      Resolves process assigned files (.error (.invalid .noSettingsFile))

/-- What loading returns in a process that finds an environment file with this script. -/
inductive Loads (process : ProcessVariables) (script : EnvFile.Script) (files : FileSystem) :
    Except ConfigError AppSettings → Prop
  | panicked : EnvFile.Refused (.ofProcess process) script.assigned →
      Loads process script files (.error .panicked)
  | envFile {e : EnvFileError} : ¬EnvFile.Refused (.ofProcess process) script.assigned →
      script.failure? = some e → Loads process script files (.error (.envFile e))
  | settings {r : Except ConfigError AppSettings} :
      ¬EnvFile.Refused (.ofProcess process) script.assigned → script.failure? = none →
      Resolves process script.assigned files r → Loads process script files r

section

variable {process : ProcessVariables} {assigned : List (String × String)} {files : FileSystem}
  {script : EnvFile.Script} {r r' : Except ConfigError AppSettings}

theorem Resolves.unique (first : Resolves process assigned files r)
    (second : Resolves process assigned files r') : r = r' := by
  cases first <;> cases second <;> simp_all

theorem Loads.unique (first : Loads process script files r)
    (second : Loads process script files r') : r = r' := by
  cases first with
  | panicked refused =>
    cases second with
    | panicked _ => rfl
    | envFile held _ => exact absurd refused held
    | settings held _ _ => exact absurd refused held
  | envFile held failed =>
    cases second with
    | panicked refused => exact absurd refused held
    | envFile _ failed' => rw [Option.some.inj (failed.symm.trans failed')]
    | settings _ whole _ => cases failed.symm.trans whole
  | settings held whole found =>
    cases second with
    | panicked refused => exact absurd refused held
    | envFile _ failed => cases failed.symm.trans whole
    | settings _ _ found' => exact found.unique found'

end

theorem resolves_ofEnvironment {process : ProcessVariables} {assigned : List (String × String)}
    {final : Environment} (files : FileSystem)
    (path : final.find? pathVariable = namedPath? process assigned) :
    Resolves process assigned files (ofEnvironment final files) := by
  unfold ofEnvironment
  rw [path]
  cases named : namedPath? process assigned with
  | some path => exact .named named
  | none =>
    dsimp only
    split
    · next there => exact .default named there
    · next missing => exact .nowhere named (Bool.eq_false_iff.mpr missing)

theorem loads_load (process : ProcessVariables) (files : FileSystem) :
    Loads process (fileScript (.ofProcess process) files) files
      (load (.ofProcess process) files) := by
  rw [load_eq_bind]
  have ends := ends_loadEnvironment (.ofProcess process) files
  generalize loadEnvironment (.ofProcess process) files = result at ends
  cases ends with
  | panicked refused => exact .panicked refused
  | failed held failed => exact .envFile held failed
  | done held whole values =>
    refine .settings held whole (resolves_ofEnvironment files ?_)
    rw [values, Environment.find?_ofProcess]
    rfl

/-- A file with the bytes of a text is read as the text. -/
theorem readText_of_readBytes {files : FileMap} {path text : String}
    (bytes : files.readBytes path = .ok text.toUTF8) : files.system.readText path = .ok text := by
  have decoded : String.fromUTF8? text.toUTF8 = some text := dif_pos text.isValidUTF8
  simp only [FileMap.system, FileMap.readText, bytes, decoded]

/-- A process that names a path. -/
def naming (path : String) : ProcessVariables := Table.empty.insert pathVariable path.toUTF8

/-- The empty path leads nowhere, and that is reported though the default file is there. -/
example (document : ByteArray) :
    load (.ofProcess (naming ""))
        (FileMap.system { nodes := [(["queryhaus.toml"], .file document)] }) =
      .error (.io .notFound) := by
  rfl

/-- A document beside an environment file with a null character. -/
def besideNull (document : String) : FileMap :=
  { nodes := [([".env"], .file "A=\x00".toUTF8), (["p"], .file document.toUTF8)] }

theorem fileScript_besideNull (document : String) :
    fileScript (.ofProcess (naming "p")) (besideNull document) = ⟨[("A", "\x00")], none⟩ := by
  have found : (besideNull document).system.environmentFile? = some ⟨"A=\x00".toUTF8, none⟩ := rfl
  have lines : EnvFile.lines ⟨"A=\x00".toUTF8, none⟩ = [.ok ['A', '=', '\x00']] := by decide +kernel
  rw [fileScript, found]
  show EnvFile.script _ (EnvFile.lines _) = _
  rw [lines]
  rfl

end AppSettings

end BoundQuery
