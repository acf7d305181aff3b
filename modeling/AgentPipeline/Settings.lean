import AgentPipeline.Run.Basic

/-!
# Settings

The settings of a project, in five sections, with the values that hold where
nothing is configured.
-/

namespace AgentPipeline

/-- How the service is reached. -/
structure ServiceSettings where
  baseUrl : String
  /-- The milliseconds after which discovery and listing calls give up. -/
  discoveryTimeout : UInt64
deriving DecidableEq, Inhabited

structure PipelineSettings where
  /-- The number of history items that are kept. -/
  historyCapacity : UInt64
  /-- The number of attempts that a run may make. -/
  maxAttempts : UInt32
  defaultTemperature : Double
  mode : ProgressionMode
deriving DecidableEq, Inhabited

structure EvaluatorSettings where
  /-- The milliseconds between two polls. -/
  pollInterval : UInt64
  defaultItemLimit : UInt32
deriving DecidableEq, Inhabited

structure StorageSettings where
  /-- The directory of the stored state. -/
  dataDirectory : Option String
deriving DecidableEq, Inhabited

/-- Whether changes of the registry are sent to the service. -/
inductive SyncMode where
  | mirror
  | localOnly
deriving DecidableEq, Inhabited, Repr

structure RegistrySettings where
  sync : SyncMode
deriving DecidableEq, Inhabited

structure Settings where
  service : ServiceSettings
  pipeline : PipelineSettings
  evaluator : EvaluatorSettings
  storage : StorageSettings
  registry : RegistrySettings
deriving DecidableEq, Inhabited

def ServiceSettings.standard : ServiceSettings :=
  ⟨"http://localhost:8000", 5000⟩

def PipelineSettings.standard : PipelineSettings :=
  ⟨50, 3, Double.ofDecimal 3 (-1), .manual⟩

def EvaluatorSettings.standard : EvaluatorSettings := ⟨2000, 10⟩

def StorageSettings.standard : StorageSettings := ⟨none⟩

def RegistrySettings.standard : RegistrySettings := ⟨.mirror⟩

/-- The settings that hold where nothing is configured. -/
def Settings.standard : Settings where
  service := .standard
  pipeline := .standard
  evaluator := .standard
  storage := .standard
  registry := .standard

end AgentPipeline
