import AgentPipeline.Command.Basic
import AgentPipeline.Command.Scene

/-!
# Commands for the registry
-/

namespace AgentPipeline

open Style (boldface faint colored)

/-- The model as it is listed; the selected one is marked. -/
def ModelRegistry.listed (colors : Bool) (selected : Option String)
    (model : String) : String :=
  if selected = some model then
    (colored .green).apply colors model ++ " "
      ++ faint.apply colors "(default)"
  else model

def Provider.report (provider : Provider) (colors : Bool)
    (selected : Option String) : List String :=
  (boldface.apply colors provider.name
      ++ if provider.available then ""
        else " " ++ faint.apply colors "(unavailable)")
    :: provider.models.map fun model =>
      "  " ++ ModelRegistry.listed colors selected model

/-- The line of a model of the user. -/
def CustomModel.row (model : CustomModel) (colors : Bool)
    (selected : Option String) : String :=
  "  " ++ ModelRegistry.listed colors selected model.id
    ++ (if model.displayName = "" then ""
      else " \"" ++ model.displayName ++ "\"")
    ++ "  " ++ model.connection.provider.name ++ " "
    ++ model.connection.modelId ++ " @ " ++ model.connection.baseUrl

def ModelRegistry.report (registry : ModelRegistry) (colors : Bool)
    (selected : Option String) : List String :=
  registry.catalog.providers.flatMap (·.report colors selected)
    ++ [boldface.apply colors "custom"]
    ++ (if registry.custom.isEmpty then ["  " ++ faint.apply colors "none"]
      else [])
    ++ registry.custom.map (·.row colors selected)

/-- The line that reports a change of the registry. -/
def MirrorOutcome.report (outcome : MirrorOutcome) (colors : Bool)
    (action id : String) : String :=
  match outcome with
  | .mirrored => action ++ " " ++ id
  | .skipped =>
      action ++ " " ++ id ++ " " ++ faint.apply colors "(local only)"
  | .failed error =>
      action ++ " " ++ id ++ " locally; "
        ++ (colored .yellow).apply colors "service update failed:" ++ " "
        ++ error.message

namespace Act

variable {σ ς : Type} [KeyValueStore σ] [DelayedService ς]

/-- Changes the registry and reports what became of the change. -/
def changeRegistry (action id : String)
    (change : σ → ς → RegistryChange σ ς) : Act σ ς Unit := do
  let result ← onWorld fun world =>
    let changed := change world.store world.service
    ({ world with store := changed.store, service := changed.service },
      changed.result)
  print ((← expect .registry result).report (← colors) action id)

def listModels (registry : ModelRegistry) : Act σ ς Unit := do
  let colors ← colors
  match registry.connectivity with
  | .online => pure ()
  | .unreachable reason =>
      print ((colored .yellow).apply colors "offline:"
        ++ " service unreachable (" ++ reason
        ++ "); showing local models only\n")
  let selected ← expect .storage (registry.selectedDefault (← store))
  printAll (registry.report colors selected)

/-- Selects the model that is used where none is chosen; a model that nobody
knows is selected too, with a warning. -/
def selectModel (registry : ModelRegistry) (model : String) :
    Act σ ς Unit := do
  let colors ← colors
  let isKnown :=
    registry.catalog.contains model || (registry.find? model).isSome
  if !isKnown && registry.isOnline then
    print ((colored .yellow).apply colors "warning:" ++ " " ++ model
      ++ " is not in the catalog or the registry")
  let (outcome, changed) := ModelRegistry.selectDefault (← store) model
  keepStore changed
  expect .registry outcome
  print ("Default model set to " ++ boldface.apply colors model)

end Act

/-- Lists or changes the models. -/
def ModelsCommand.perform {σ ς : Type} [KeyValueStore σ] [DelayedService ς]
    (command : ModelsCommand) : Act σ ς Unit := do
  let registry ← Act.loadRegistry
  let sync := (← get).settings.registry.sync
  match command with
  | .list => Act.listModels registry
  | .add model =>
      let now ← Act.onWorld fun world =>
        let (now, supply) := world.supply.tick
        ({ world with supply }, now)
      Act.changeRegistry "Saved" model.id fun store service =>
        registry.upsert model now store service sync
  | .remove id =>
      Act.changeRegistry "Removed" id fun store service =>
        registry.remove id store service sync
  | .select model => Act.selectModel registry model

end AgentPipeline
