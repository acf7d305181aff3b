import AgentPipeline.Evaluation.Error
import AgentPipeline.Model.Sync
import AgentPipeline.Run.Error
import AgentPipeline.Settings.File

/-!
# Failures of commands
-/

namespace AgentPipeline

/-- Why a command failed. -/
inductive CommandError where
  | settings (error : SettingsError)
  | storage (error : StorageError)
  | registry (error : RegistryError)
  | pipeline (error : PipelineError)
  | evaluator (error : EvaluatorError)
  | unreadableInput
  | noEntry (number count : Nat)
  /-- An operation of the pipeline returned before its run was at rest. -/
  | unfinishedRun (id : String)
  /-- The evaluator run that was watched has failed. -/
  | failedRun (id : String) (detail : Option String)
  /-- The evaluator run that was watched is gone. -/
  | lostRun
deriving DecidableEq, Inhabited, Repr

namespace CommandError

def message : CommandError → String
  | .settings error => error.message
  | .storage error => error.message
  | .registry error => error.message
  | .pipeline error => error.message
  | .evaluator error => error.message
  | .unreadableInput => "failed to read input text from stdin"
  | .noEntry number count =>
      "no history entry " ++ Text.decimal number ++ "; " ++ Text.decimal count
        ++ " recorded"
  | .unfinishedRun id => "run " ++ id ++ " returned while still running"
  | .failedRun id detail =>
      "evaluator run " ++ id ++ " failed: " ++ detail.getD "no detail"
  | .lostRun => "the evaluator run disappeared while watching"

end CommandError

end AgentPipeline
