import AgentPipeline.Model.Basic

/-!
# The model registry

The registry holds the catalog of the service and the models of the user.  The
models of the user come from two lists, one stored on this side and one kept
by the service, which are united by identifier.
-/

namespace AgentPipeline

/-- Whether the service answered when the registry was loaded. -/
inductive Connectivity where
  | online
  | unreachable (reason : String)
deriving DecidableEq, Inhabited, Repr

namespace Connectivity

def isOnline : Connectivity → Bool
  | .online => true
  | .unreachable _ => false

end Connectivity

/-- The catalog of the service with the models of the user. -/
structure ModelRegistry where
  catalog : Catalog
  custom : List CustomModel
  connectivity : Connectivity
deriving DecidableEq, Inhabited

namespace CustomModel

/-- Whether the stored entry is kept against one of the service: both have a
time of change, and the stored one is strictly newer. -/
def outlasts (stored offered : CustomModel) : Bool :=
  match stored.updatedAt, offered.updatedAt with
  | some storedAt, some offeredAt => offeredAt.isBefore storedAt
  | _, _ => false

/-- Enters a model of the service into the union. -/
def offer (union : SortedMap String CustomModel) (model : CustomModel) :
    SortedMap String CustomModel :=
  match union.find? model.id with
  | some stored =>
      if stored.outlasts model then union else union.insert model.id model
  | none => union.insert model.id model

/-- The union of the stored models and those of the service, in the order of
their identifiers. -/
def merge (stored offered : List CustomModel) : List CustomModel :=
  (offered.foldl offer
    (SortedMap.ofList (stored.map fun model => (model.id, model)))).values

end CustomModel

namespace ModelRegistry

def isOnline (registry : ModelRegistry) : Bool :=
  registry.connectivity.isOnline

/-- The model of the user with an identifier. -/
def find? (registry : ModelRegistry) (id : String) : Option CustomModel :=
  registry.custom.find? fun model => model.id == id

/-- The configuration for a model: with its connection if it is a model of the
user. -/
def config (registry : ModelRegistry) (model : String) : ModelConfig :=
  ⟨model, (registry.find? model).map (·.connection)⟩

/-- The model for an agent: in the mode per agent the one chosen for it, and
otherwise the default; an empty name is no choice. -/
def resolve (registry : ModelRegistry) (agent : String) (mode : SelectionMode)
    (chosen : SortedMap String String) (defaultModel : Option String) :
    Option ModelConfig :=
  let explicit := match mode with
    | .perAgent => (chosen.find? agent).filter (!·.isEmpty)
    | .single => none
  (explicit <|> defaultModel.filter (!·.isEmpty)).map registry.config

/-- The model for an agent by the selections of the user; the catalog gives
the default where they have none. -/
def resolveFor (registry : ModelRegistry) (agent : String)
    (selections : ModelSelections) : Option ModelConfig :=
  registry.resolve agent selections.mode selections.perAgent
    (selections.defaultModel <|> registry.catalog.defaultModel)

end ModelRegistry

end AgentPipeline
