import AgentPipeline.Settings.Section
import AgentPipeline.Store.Directory
import AgentPipeline.Toml.Reader

/-!
# The settings file

A project may keep its settings in a file below its root.  Without the file
the standard settings hold.  Loaded settings always name the directory of the
stored state.
-/

namespace AgentPipeline

/-- Why the settings could not be loaded. -/
inductive SettingsError where
  | fileRead (path : String) (cause : String)
  /-- The file is not TOML, or a setting has a value that it cannot have. -/
  | tomlParse (path : String)
  | invalid (path : String) (reason : String)
deriving DecidableEq, Inhabited, Repr

namespace SettingsError

def message : SettingsError → String
  | .fileRead path cause =>
      "Failed to read config file at " ++ path ++ ": " ++ cause
  | .tomlParse path => "Failed to parse TOML file at " ++ path
  | .invalid path reason =>
      "Invalid configuration in " ++ path ++ ": " ++ reason

end SettingsError

namespace Settings

/-- The directory of a project that holds its settings and its state. -/
def projectDirectory : String := ".agentflow"

def fileName : String := "config.toml"

/-- The directory of the state where none is configured. -/
def stateDirectory : String := "state"

/-- The path of the settings file below a root. -/
def filePath (root : String) : String :=
  DirectoryStore.joinPath (DirectoryStore.joinPath root projectDirectory)
    fileName

/-- What is wrong with settings whose values are all possible. -/
def defect? (settings : Settings) : Option String :=
  if settings.pipeline.maxAttempts = 0 then
    some "pipeline.max_attempts must be at least 1"
  else if settings.pipeline.historyCapacity = 0 then
    some "pipeline.history_capacity must be at least 1"
  else if settings.evaluator.pollInterval = 0 then
    some "evaluator.poll_interval_ms must be positive"
  else none

/-- The directory of the state: a configured one counts from the root. -/
def dataDirectory (root : String) : Option String → String
  | some directory => DirectoryStore.joinPath root directory
  | none =>
      DirectoryStore.joinPath (DirectoryStore.joinPath root projectDirectory)
        stateDirectory

/-- The settings with the directory of the state below a root. -/
def located (settings : Settings) (root : String) : Settings :=
  { settings with
    storage := ⟨some (dataDirectory root settings.storage.dataDirectory)⟩ }

/-- The settings in a file, whose path is known for reports. -/
def ofFile (path : String) (content : Except FileError String) :
    Except SettingsError Settings :=
  match content with
  | .error error => .error (.fileRead path error.message)
  | .ok text =>
      match (Toml.parse? text).bind ofToml? with
      | none => .error (.tomlParse path)
      | some settings => .ok settings

/-- Loads the settings of the project below a root; `origin` is the directory
from which a relative path leads. -/
def load (tree : FileTree) (origin : FilePath) (root : String) :
    Except SettingsError Settings := do
  let path := filePath root
  let settings ← match tree.resolve origin path with
    | .error _ => .ok standard
    | .ok file =>
        match tree.node? file with
        | none => .ok standard
        | some _ => ofFile path (tree.readText file)
  match settings.defect? with
  | some reason => .error (.invalid path reason)
  | none => .ok (settings.located root)

end Settings

end AgentPipeline
