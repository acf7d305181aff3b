import AgentPipeline.Number.Double
import AgentPipeline.SortedMap
import AgentPipeline.Timestamp

/-!
# Models

The service offers a catalog of models by provider.  Users add models of their
own with the details of a connection, and choose a model for all agents or for
each.
-/

namespace AgentPipeline

/-- The family of the server behind a model of the user. -/
inductive ProviderKind where
  | openai
  | openaiCompatible
  | anthropic
  | ollama
  | vllm
deriving DecidableEq, Inhabited, Repr

namespace ProviderKind

/-- The name of the family in records. -/
def name : ProviderKind → String
  | .openai => "openai"
  | .openaiCompatible => "openai_compatible"
  | .anthropic => "anthropic"
  | .ollama => "ollama"
  | .vllm => "vllm"

def all : List ProviderKind :=
  [.openai, .openaiCompatible, .anthropic, .ollama, .vllm]

end ProviderKind

/-- How to reach a model of the user. -/
structure ModelConnection where
  provider : ProviderKind
  baseUrl : String
  /-- The name of the model on its server. -/
  modelId : String
  apiKey : Option String
  contextLength : Option UInt32
  defaultTemperature : Option Double
deriving DecidableEq, Inhabited

structure CustomModel where
  id : String
  displayName : String
  connection : ModelConnection
  /-- The time of the last change. -/
  updatedAt : Option Timestamp
deriving DecidableEq, Inhabited

/-- A provider in the catalog of the service. -/
structure Provider where
  name : String
  models : List String
  available : Bool
deriving DecidableEq, Inhabited

structure Catalog where
  providers : List Provider
  defaultModel : Option String
deriving DecidableEq, Inhabited

namespace Catalog

def empty : Catalog := ⟨[], none⟩

/-- Whether any provider offers the model. -/
def contains (catalog : Catalog) (model : String) : Bool :=
  catalog.providers.any fun provider => provider.models.contains model

end Catalog

/-- The model to use for a call; it has a connection when it is a model of the
user, and otherwise the service knows it. -/
structure ModelConfig where
  model : String
  connection : Option ModelConnection
deriving DecidableEq, Inhabited

/-- Whether all agents use the same model. -/
inductive SelectionMode where
  | single
  | perAgent
deriving DecidableEq, Inhabited, Repr

/-- The models that the user has chosen for a run. -/
structure ModelSelections where
  mode : SelectionMode
  defaultModel : Option String
  /-- The model for each agent named. -/
  perAgent : SortedMap String String
deriving DecidableEq, Inhabited

namespace ModelSelections

def single (model : String) : ModelSelections :=
  ⟨.single, some model, .empty⟩

end ModelSelections

end AgentPipeline
