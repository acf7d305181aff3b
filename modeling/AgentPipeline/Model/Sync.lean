import AgentPipeline.Event
import AgentPipeline.Model.Registry
import AgentPipeline.Service.Request
import AgentPipeline.Settings
import AgentPipeline.Store.Basic
import AgentPipeline.Text.Blank

/-!
# Loading and changing the registry

The registry is loaded from the store and from the service.  A change goes to
the store first; then, if the settings and the connection allow it, to the
service.  A change that the service did not take stands nevertheless.
-/

namespace AgentPipeline

/-- Why an operation of the registry was refused or failed. -/
inductive RegistryError where
  | storage (error : StorageError)
  | invalidModel (reason : String)
  | unknownModel (id : String)
deriving DecidableEq, Inhabited, Repr

namespace RegistryError

/-- The name of the cause. -/
def kind : RegistryError → String
  | .storage _ => "Storage"
  | .invalidModel _ => "InvalidModel"
  | .unknownModel _ => "UnknownModel"

def message : RegistryError → String
  | .storage error => error.message
  | .invalidModel reason => "Invalid model definition: " ++ reason
  | .unknownModel id => "Unknown custom model: " ++ id

end RegistryError

/-- What became of the copy of a change that the service keeps. -/
inductive MirrorOutcome where
  | mirrored
  /-- The change was not sent. -/
  | skipped
  | failed (error : ServiceError)
deriving DecidableEq, Inhabited, Repr

/-- What a change of the registry leaves behind. -/
structure RegistryChange (σ ς : Type) where
  registry : ModelRegistry
  store : σ
  service : ς
  events : List Event
  result : Except RegistryError MirrorOutcome

namespace CustomModel

/-- The field that is missing in a definition. -/
def missingField? (model : CustomModel) : Option String :=
  if Text.isBlankText model.id then some "id"
  else if Text.isBlankText model.connection.baseUrl then some "base_url"
  else if Text.isBlankText model.connection.modelId then some "model_id"
  else none

end CustomModel

namespace ModelRegistry

variable {σ ς : Type} [KeyValueStore σ] [AgentService ς]

def storedModels (store : σ) : Except StorageError (List CustomModel) :=
  (KeyValueStore.read CustomModel.listDecoder store
    StoreKey.customModels.name).map (·.getD [])

/-- Asks the service for its catalog and its models; without the catalog it
counts as unreachable, and without the models it has none. -/
def discover (service : ς) :
    (Catalog × Connectivity × List CustomModel) × ς :=
  match AgentService.call Request.catalog service with
  | (.error error, service) =>
      ((.empty, .unreachable error.message, []), service)
  | (.ok (catalog : Catalog), service) =>
      match AgentService.call Request.listModels service with
      | (.error _, service) => ((catalog, .online, []), service)
      | (.ok (models : List CustomModel), service) =>
          ((catalog, .online, models), service)

def load (store : σ) (service : ς) : Except StorageError ModelRegistry × ς :=
  match storedModels store with
  | .error error => (.error error, service)
  | .ok stored =>
      let ((catalog, connectivity, offered), service) := discover service
      let custom := CustomModel.merge stored offered
      (.ok { catalog, connectivity, custom }, service)

/-- The model that is used where none is chosen: the one that was selected,
or else the default of the catalog. -/
def selectedDefault (registry : ModelRegistry) (store : σ) :
    Except StorageError (Option String) :=
  (KeyValueStore.read Decoder.text store StoreKey.selectedModel.name).map
    fun stored => stored <|> registry.catalog.defaultModel

/-- Selects the model that is used where none is chosen. -/
def selectDefault (store : σ) (model : String) :
    Except RegistryError Unit × σ :=
  if Text.isBlankText model then
    (.error (.invalidModel "model identifier is empty"), store)
  else
    let (outcome, store) := KeyValueStore.write store
      StoreKey.selectedModel.name (.string model)
    (outcome.mapError .storage, store)

/-- The models of the user without the one of an identifier. -/
def modelsWithout (registry : ModelRegistry) (id : String) :
    List CustomModel :=
  registry.custom.filter fun model => model.id ≠ id

/-- The models of the user with one of them added or replaced, in the order of
their identifiers. -/
def modelsWith (registry : ModelRegistry) (model : CustomModel) :
    List CustomModel :=
  (registry.modelsWithout model.id ++ [model]).mergeSort fun left right =>
    left.id ≤ right.id

/-- Whether changes are sent to the service. -/
def mirrors (registry : ModelRegistry) (sync : SyncMode) : Bool :=
  sync = .mirror && registry.isOnline

/-- What became of a request that sent a change. -/
def mirrorOutcome (id : String) :
    Except ServiceError Unit → MirrorOutcome × List Event
  | .ok () => (.mirrored, [])
  | .error error =>
      (.failed error, [.registryMirrorFailed id error.message])

/-- Stores a changed list of models and sends the change of one of them. -/
def change (registry : ModelRegistry) (custom : List CustomModel)
    (id : String) (send : ς → Except ServiceError Unit × ς) (store : σ)
    (service : ς) (sync : SyncMode) : RegistryChange σ ς :=
  let changed := { registry with custom }
  match KeyValueStore.write store StoreKey.customModels.name
      (.array (custom.map CustomModel.encode)) with
  | (.error error, store) =>
      { registry := changed, store, service, events := []
        result := .error (.storage error) }
  | (.ok (), store) =>
      if registry.mirrors sync then
        let (outcome, service) := send service
        let (copy, events) := mirrorOutcome id outcome
        { registry := changed, store, service, events, result := .ok copy }
      else
        { registry := changed, store, service, events := []
          result := .ok .skipped }

/-- Adds or replaces a model of the user at a given time. -/
def upsert (registry : ModelRegistry) (model : CustomModel) (now : Timestamp)
    (store : σ) (service : ς) (sync : SyncMode) : RegistryChange σ ς :=
  match model.missingField? with
  | some field =>
      { registry, store, service, events := []
        result := .error (.invalidModel (field ++ " is required")) }
  | none =>
      let stamped := { model with updatedAt := some now }
      registry.change (registry.modelsWith stamped) model.id
        (AgentService.call (Request.saveModel stamped)) store service sync

def remove (registry : ModelRegistry) (id : String) (store : σ) (service : ς)
    (sync : SyncMode) : RegistryChange σ ς :=
  match registry.find? id with
  | none =>
      { registry, store, service, events := []
        result := .error (.unknownModel id) }
  | some _ =>
      registry.change (registry.modelsWithout id) id
        (AgentService.call (Request.deleteModel id)) store service sync

end ModelRegistry

end AgentPipeline
