import AgentPipeline.Codec.Member
import AgentPipeline.Evaluation.Error
import AgentPipeline.Model.Sync
import AgentPipeline.Run.Error

/-!
# Results of orders

An order is a step of a script that is not about the script itself: it asks
for an operation, whose result is written down as JSON.
-/

namespace AgentPipeline

/-- A type of errors with a name for every cause. -/
class Failure (ε : Type) where
  kind : ε → String
  message : ε → String

instance : Failure StorageError := ⟨StorageError.kind, StorageError.message⟩
instance : Failure ServiceError := ⟨ServiceError.kind, ServiceError.message⟩
instance : Failure PipelineError :=
  ⟨PipelineError.kind, PipelineError.message⟩
instance : Failure EvaluatorError :=
  ⟨EvaluatorError.kind, EvaluatorError.message⟩
instance : Failure RegistryError :=
  ⟨RegistryError.kind, RegistryError.message⟩

namespace Failure

variable {ε α : Type} [Failure ε]

/-- A failure as it is written down. -/
def report (kind message : String) : Json :=
  .object [("error", .string kind), ("message", .string message)]

def encode (error : ε) : Json :=
  report (kind error) (message error)

/-- The result of an operation with a value. -/
def encodeOutcome [JsonEncode α] : Except ε α → Json
  | .ok value => .object [("ok", JsonEncode.encode value)]
  | .error error => encode error

/-- The result of an operation without a value. -/
def encodeAttempt : Except ε Unit → Json
  | .ok () => .null
  | .error error => encode error

end Failure

end AgentPipeline
