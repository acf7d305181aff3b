import AgentPipeline.Evaluation.Basic
import AgentPipeline.Run.Basic

/-!
# Events

The pipeline, the evaluator and the model registry report what happens as
events, in the order in which it happens.
-/

namespace AgentPipeline

/-- Something that an observer is told. -/
inductive Event where
  /-- A run, or a further attempt of it, began. -/
  | runStarted (run : Uuid) (attempt : UInt32)
  | stageStarted (run : Uuid) (stage : Stage)
  | stageCompleted (run : Uuid) (stage : Stage) (milliseconds : UInt64)
  | stageFailed (run : Uuid) (stage : Stage) (error : String)
  | stageCancelled (run : Uuid) (stage : Stage)
  /-- A run paused behind the reason stage. -/
  | checkpointReached (run : Uuid)
  /-- A run completed, with the verdict that its validate output gives. -/
  | runCompleted (run : Uuid) (attempt : UInt32) (valid : Option Bool)
  | runFailed (run : Uuid) (error : String)
  | runCancelled (run : Uuid) (reason : String)
  /-- A snapshot was added to the history. -/
  | historyRecorded (item : Uuid) (status : RunStatus)
  | evaluatorStarted (run : String) (kind : String)
  /-- The answer to a poll was taken over. -/
  | pollTick (run : String) (cursor : UInt64) (itemsSeen : UInt64)
  /-- An evaluator run changed its status; only with `notify` is the user
  told. -/
  | evaluatorStatusChanged (run : String) (status : EvaluatorStatus)
      (notify : Bool)
  /-- A run found in the store is polled again. -/
  | evaluatorResumed (run : String)
  /-- An answer was rejected because it breaks the rules of polling. -/
  | protocolViolation (detail : String)
  /-- A change of the registry did not reach the service. -/
  | registryMirrorFailed (model : String) (error : String)
deriving DecidableEq, Inhabited, Repr

end AgentPipeline
