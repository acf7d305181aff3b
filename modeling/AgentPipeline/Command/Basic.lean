import AgentPipeline.Command.Grammar
import AgentPipeline.Model.Basic
import AgentPipeline.Number.Reading
import AgentPipeline.Text.Blank

/-!
# Commands

The commands of the program, and the grammar of its command lines.
-/

namespace AgentPipeline

structure RunCommand where
  /-- The input text; without it the text is read from the input. -/
  text : Option String
  model : Option String
  /-- The models of single agents; of several for one agent the last counts. -/
  agentModels : List (String × String)
  temperature : Option Double
  /-- Whether the run goes through the checkpoint. -/
  auto : Bool
  /-- Whether the run stops at the checkpoint. -/
  manual : Bool
  /-- Whether no question is asked. -/
  assumesYes : Bool
deriving DecidableEq, Inhabited

inductive HistoryCommand where
  | list
  /-- Shows the entry with a number in the listing. -/
  | entry (number : Nat)
  | clear
deriving DecidableEq, Inhabited, Repr

inductive ModelsCommand where
  | list
  | add (model : CustomModel)
  | remove (id : String)
  | select (model : String)
deriving DecidableEq, Inhabited

inductive EvaluatorCommand where
  | start (kind : Option String) (limit : Option UInt32)
      (model : Option String) (detach : Bool)
  | watch
  | status
  | suspend
  | resume
  | stop
  | record (index : UInt32)
  | clear
deriving DecidableEq, Inhabited, Repr

/-- What the program is asked to do. -/
inductive Command where
  | run (command : RunCommand)
  | history (command : HistoryCommand)
  | models (command : ModelsCommand)
  | evaluator (command : EvaluatorCommand)
deriving DecidableEq, Inhabited

namespace Command

/-! ## The grammar -/

/-- A model for an agent, written with an equals sign between them. -/
def agentModel? (text : String) : Option (String × String) :=
  let agent := text.toList.takeWhile (· ≠ '=')
  match text.toList.drop agent.length with
  | [] => none
  | _ :: model =>
      let agent := Text.trim (String.ofList agent)
      let model := Text.trim (String.ofList model)
      if agent = "" ∨ model = "" then none else some (agent, model)

/-- The family of a model server by its name on the command line. -/
def provider? (text : String) : Option ProviderKind :=
  ProviderKind.all.find? fun kind => kind.name.replace "_" "-" == text

/-- The position of a history entry; it fits a machine word. -/
def position? (text : String) : Option Nat := Text.natural? UInt64.size text

open Argument (positional option flag)

def runGrammar (shared : List Argument) : Grammar :=
  .leaf ([(option "model").withShort 'm',
    { (option "agent-model").checked agentModel? .malformedValue with
      repeats := true },
    ((option "temperature").withShort 't').checked Double.ofText?
      .malformedValue,
    { flag "auto" with excludes := ["manual"] },
    flag "manual",
    (flag "yes").withShort 'y'] ++ shared) [positional "text" false]

def historyGrammar (shared : List Argument) : Grammar :=
  .group shared false [
    ("list", .leaf shared []),
    ("show", .leaf shared [(positional "index" true).checked position?
      .malformedValue]),
    ("clear", .leaf shared [])]

/-- The name of the option with the address of a service. -/
def baseUrlOption : String := "base-url"

/-- The options with the details of a model; the address of its server takes
the place of a shared option of the same name. -/
def connectionOptions (shared : List Argument) : List Argument :=
  [((option "provider").checked provider? .invalidValue).required,
    (option baseUrlOption).required,
    (option "model-id").required,
    option "display-name",
    option "api-key",
    (option "context-length").checked Text.word32? .malformedValue,
    (option "temperature-default").checked Double.ofText? .malformedValue]
    ++ shared.filter fun argument => argument.name ≠ baseUrlOption

def modelsGrammar (shared : List Argument) : Grammar :=
  .group shared true [
    ("list", .leaf shared []),
    ("add", .leaf (connectionOptions shared) [positional "id" true]),
    ("remove", .leaf shared [positional "id" true]),
    ("select", .leaf shared [positional "model" true])]

def evaluatorGrammar (shared : List Argument) : Grammar :=
  .group shared true [
    ("start", .leaf ([
      ((option "limit").withShort 'n').checked Text.word32? .malformedValue,
      (option "model").withShort 'm',
      flag "detach"] ++ shared) [positional "evaluator" false]),
    ("watch", .leaf shared []),
    ("status", .leaf shared []),
    ("suspend", .leaf shared []),
    ("resume", .leaf shared []),
    ("stop", .leaf shared []),
    ("record", .leaf shared [(positional "index" true).checked Text.word32?
      .malformedValue]),
    ("clear", .leaf shared [])]

/-- The grammar of all commands; shared options may stand behind any of them,
and further ones only in front. -/
def grammar (shared first : List Argument) : Grammar :=
  .group (shared ++ first) true [
    ("run", runGrammar shared),
    ("history", historyGrammar shared),
    ("models", modelsGrammar shared),
    ("eval", evaluatorGrammar shared)]

/-! ## Reading -/

def runOf (line : CommandLine) : RunCommand where
  text := line.value? "text"
  model := line.value? "model"
  agentModels := (line.values "agent-model").filterMap agentModel?
  temperature := (line.value? "temperature").bind Double.ofText?
  auto := line.has "auto"
  manual := line.has "manual"
  assumesYes := line.has "yes"

/-- The model that a command line describes; its key may come from
elsewhere. -/
def modelOf? (line : CommandLine) (key : Option String) :
    Option CustomModel := do
  let connection : ModelConnection := {
    provider := ← (line.value? "provider").bind provider?
    baseUrl := ← line.value? baseUrlOption
    modelId := ← line.value? "model-id"
    apiKey := line.value? "api-key" <|> key
    contextLength := (line.value? "context-length").bind Text.word32?
    defaultTemperature :=
      (line.value? "temperature-default").bind Double.ofText? }
  some {
    id := ← line.value? "id"
    displayName := (line.value? "display-name").getD ""
    connection
    updatedAt := none }

/-- The command that a command line names; `key` is the key of a model that is
used where the line gives none. -/
def ofLine? (line : CommandLine) (key : Option String) : Option Command :=
  match line.path with
  | ["run"] => some (.run (runOf line))
  | ["history"] | ["history", "list"] => some (.history .list)
  | ["history", "show"] =>
      ((line.value? "index").bind position?).map fun number =>
        .history (.entry number)
  | ["history", "clear"] => some (.history .clear)
  | ["models", "list"] => some (.models .list)
  | ["models", "add"] =>
      (modelOf? line key).map fun model => .models (.add model)
  | ["models", "remove"] =>
      (line.value? "id").map fun id => .models (.remove id)
  | ["models", "select"] =>
      (line.value? "model").map fun model => .models (.select model)
  | ["eval", "start"] =>
      some (.evaluator (.start (line.value? "evaluator")
        ((line.value? "limit").bind Text.word32?) (line.value? "model")
        (line.has "detach")))
  | ["eval", "watch"] => some (.evaluator .watch)
  | ["eval", "status"] => some (.evaluator .status)
  | ["eval", "suspend"] => some (.evaluator .suspend)
  | ["eval", "resume"] => some (.evaluator .resume)
  | ["eval", "stop"] => some (.evaluator .stop)
  | ["eval", "record"] =>
      ((line.value? "index").bind Text.word32?).map fun index =>
        .evaluator (.record index)
  | ["eval", "clear"] => some (.evaluator .clear)
  | _ => none

/-- Reads the words of a command line without shared options. -/
def read (words : List String) : Except UsageError Command := do
  let line ← CommandLine.read (grammar [] []) words
  match ofLine? line none with
  | some command => .ok command
  | none => .error .missingArgument

end Command

end AgentPipeline
