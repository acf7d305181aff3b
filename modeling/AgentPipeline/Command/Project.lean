import AgentPipeline.Command.Perform
import AgentPipeline.Http.Client

/-!
# Projects and invocations

An invocation of the program names a project, whose settings and state are
files below its root, and a command.
-/

namespace AgentPipeline

structure Project where
  settings : Settings
  store : DirectoryStore

namespace Project

def client (project : Project) : HttpClient :=
  .ofSettings project.settings.service

/-- The directory of the state of a project below a root. -/
def stateDirectory (settings : Settings) (root : String) : String :=
  settings.storage.dataDirectory.getD (Settings.dataDirectory root none)

/-- Opens the project below a root; an address takes the place of the one in
the settings.  `origin` is the directory from which a relative path leads. -/
def openAt (tree : FileTree) (origin : FilePath) (root : String)
    (address : Option String) : Except CommandError Project := do
  let found ← (Settings.load tree origin root).mapError .settings
  let service := match address with
    | some baseUrl => { found.service with baseUrl }
    | none => found.service
  let settings := { found with service }
  let store ← (DirectoryStore.openAt tree origin
    (stateDirectory settings root)).mapError .storage
  .ok { settings, store }

end Project

/-- The variables of the environment that the program looks at. -/
structure Environment where
  /-- The variables that are set, and their values. -/
  entries : List (String × String)
deriving DecidableEq, Inhabited, Repr

namespace Environment

/-- The variable with the address of the service. -/
def addressName : String := "AGENTFLOW_BASE_URL"

/-- The variable with the key of a model that is added. -/
def modelKeyName : String := "AGENTFLOW_MODEL_API_KEY"

/-- The names of all variables that the program looks at. -/
def names : List String :=
  [addressName, modelKeyName, "CLICOLOR", "CLICOLOR_FORCE", "NO_COLOR"]

def get? (environment : Environment) (name : String) : Option String :=
  environment.entries.lookup name

/-- Whether a variable switches something on; `0` switches it off. -/
def switch? (environment : Environment) (name : String) : Option Bool :=
  (environment.get? name).map (· ≠ "0")

/-- Whether styles are written: on a terminal, unless the environment demands
or forbids them. -/
def colors (environment : Environment) (isTerminal : Bool) : Bool :=
  if environment.switch? "CLICOLOR_FORCE" = some true then true
  else if (environment.switch? "NO_COLOR").isSome then false
  else (environment.switch? "CLICOLOR").getD true && isTerminal

end Environment

/-- A call of the program. -/
structure Invocation where
  root : String
  /-- The address of the service, where it is not the configured one. -/
  address : Option String
  command : Command
deriving DecidableEq, Inhabited

namespace Invocation

/-- The options that stand behind any command. -/
def sharedOptions : List Argument :=
  [.option "root", .option Command.baseUrlOption]

/-- Reads the words of a call of the program. -/
def read (environment : Environment) (words : List String) :
    Except UsageError Invocation := do
  let line ← CommandLine.read
    (Command.grammar sharedOptions [.version]) words
  let key := environment.get? Environment.modelKeyName
  match Command.ofLine? line key with
  | none => .error .missingArgument
  | some command =>
      .ok {
        root := (line.value? "root").getD "."
        address := line.value? Command.baseUrlOption
          <|> environment.get? Environment.addressName
        command }

/-- The name of the program and its version. -/
def versionLine : String := "agentflow 0.1.0"

def helpText : List String :=
  ["Client-side orchestration for the agent pipeline service",
    "",
    "Usage: agentflow [OPTIONS] <COMMAND>",
    "",
    "Commands:",
    "  run      Send a text through parse, reason, generate and validate",
    "  history  Show recorded pipeline runs",
    "  models   Inspect and edit the model registry",
    "  eval     Start and follow batch evaluator runs",
    "  help     Print this message",
    "",
    "Options:",
    "      --root <ROOT>          Project root holding the settings",
    "      --base-url <BASE_URL>  Address of the service",
    "  -h, --help                 Print help",
    "  -V, --version              Print version"]

end Invocation

end AgentPipeline
