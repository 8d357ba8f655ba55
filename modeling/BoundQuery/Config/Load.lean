import BoundQuery.Config.Shape
import BoundQuery.Config.EnvFile
import BoundQuery.Config.Files
import BoundQuery.Toml.Document
import BoundQuery.Toml.Standard

/-!
# Loading settings

Settings come from one file. Its path is the value of a variable, of the process or else of the
environment file, or the default path if that variable is not set. What happens to that one file
is the result; no other file is tried.
-/

namespace BoundQuery

/-- Why there are no settings. -/
inductive ConfigError where
  | io (e : FileError)
  | envFile (e : EnvFileError)
  | tomlSyntax
  | tomlShape (e : ShapeError)
  | invalid (defect : SettingsDefect)
  /-- No error is returned; loading ends in a panic. -/
  | panicked
deriving DecidableEq, Repr

/-- What stops the environment file stops the loading of settings. -/
def ConfigError.ofStop : EnvFile.Stop → ConfigError
  | .failed e => envFile e
  | .panicked => panicked

/-- The message, where it does not quote the document. -/
def ConfigError.message? : ConfigError → Option String
  | io e => some ("IO error: " ++ e.message)
  | envFile e => some ("Dotenvy error: " ++ e.message)
  | tomlSyntax => none
  | tomlShape _ => none
  | invalid defect => some ("Invalid configuration: " ++ defect.message)
  | panicked => none

namespace AppSettings

/-- The settings in a document, not yet validated. A wrong shape is only reported for a document
whose values can all be read. -/
def read (text : String) : Except ConfigError AppSettings :=
  match Toml.ofText? text with
  | none => .error .tomlSyntax
  | some entries =>
    let root := Shape.sortedRoot entries
    match Shape.settings root with
    | .ok settings => .ok settings
    | .error e => .error (if Toml.entriesStandard root then .tomlShape e else .tomlSyntax)

/-- The valid settings in a document. -/
def ofToml (text : String) : Except ConfigError AppSettings :=
  match read text with
  | .error e => .error e
  | .ok settings => settings.validate.mapError .invalid

/-- The valid settings in a file. -/
def ofFile (files : FileSystem) (path : String) : Except ConfigError AppSettings :=
  match files.readText path with
  | .error e => .error (.io e)
  | .ok text => ofToml text

/-- The variable that names the settings file. -/
def pathVariable : String := "QUERYHAUS_CONFIG"

/-- The environment after the environment file, if there is one. -/
def loadEnvironment (env : Environment) (files : FileSystem) : Except EnvFile.Stop Environment :=
  match files.environmentFile? with
  | none => .ok env
  | some content => EnvFile.load env content

/-- The settings of the file that the environment names, or of the default file. -/
def ofEnvironment (env : Environment) (files : FileSystem) : Except ConfigError AppSettings :=
  match env.find? pathVariable with
  | some path => ofFile files path
  | none =>
    if files.contains defaultSettingsPath then ofFile files defaultSettingsPath
    else .error (.invalid .noSettingsFile)

/-- Loads the settings for an environment and a file system, and validates them again. -/
def load (env : Environment) (files : FileSystem) : Except ConfigError AppSettings :=
  match loadEnvironment env files with
  | .error stop => .error (.ofStop stop)
  | .ok env =>
    match ofEnvironment env files with
    | .error e => .error e
    | .ok settings => settings.validate.mapError .invalid

end AppSettings

/-- Any failure of the library. -/
inductive Failure where
  | executor (e : ExecutorError)
  | configuration (e : ConfigError)
deriving DecidableEq, Repr

/-- The message with the part of the library in front. -/
def Failure.message? : Failure → Option String
  | executor e => some e.message
  | configuration e => e.message?.map ("Configuration error: " ++ ·)

end BoundQuery
