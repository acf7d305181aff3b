import AgentPipeline.Stage
import AgentPipeline.Text.Decimal

/-!
# Errors of the pipeline
-/

namespace AgentPipeline

/-- Why an operation of the pipeline was refused or failed. -/
inductive PipelineError where
  | emptyInput
  | noModel
  | runInProgress
  | noActiveRun
  | notAtCheckpoint
  /-- A regeneration lacks a part of what it builds on. -/
  | contextMissing (part : String)
  | attemptsExhausted (maximum : UInt32)
  | offline (reason : String)
  | stage (stage : Stage) (message : String)
  /-- The run was cancelled; callers see the cancelled run instead. -/
  | cancelled (reason : String)
  | invalidTransition (stage : Stage) (source target : StageState)
deriving DecidableEq, Inhabited, Repr

namespace PipelineError

/-- The name of the cause. -/
def kind : PipelineError → String
  | .emptyInput => "EmptyInput"
  | .noModel => "NoModel"
  | .runInProgress => "RunInProgress"
  | .noActiveRun => "NoActiveRun"
  | .notAtCheckpoint => "NotAtCheckpoint"
  | .contextMissing _ => "ContextMissing"
  | .attemptsExhausted _ => "AttemptsExhausted"
  | .offline _ => "Offline"
  | .stage .. => "Stage"
  | .cancelled _ => "Cancelled"
  | .invalidTransition .. => "InvalidTransition"

def message : PipelineError → String
  | .emptyInput => "Input text is empty"
  | .noModel => "No model could be resolved for the parser stage"
  | .runInProgress => "Another pipeline run is still live"
  | .noActiveRun => "No pipeline run is active"
  | .notAtCheckpoint => "The run is not paused at the checkpoint"
  | .contextMissing part => "Cannot regenerate without the " ++ part
  | .attemptsExhausted maximum =>
      "Regeneration limit reached after " ++ Text.decimal maximum.toNat
        ++ " attempts"
  | .offline reason => "Agent service is unreachable: " ++ reason
  | .stage failed reason => failed.agent ++ " stage failed: " ++ reason
  | .cancelled reason => "Run cancelled: " ++ reason
  | .invalidTransition moved source target =>
      "Invalid " ++ moved.agent ++ " transition from " ++ source.title
        ++ " to " ++ target.title

end PipelineError

end AgentPipeline
