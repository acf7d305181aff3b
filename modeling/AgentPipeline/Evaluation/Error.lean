import AgentPipeline.Service.Error
import AgentPipeline.Store.Basic

/-!
# Errors of evaluator operations
-/

namespace AgentPipeline

/-- Why an operation on an evaluator run was refused or failed. -/
inductive EvaluatorError where
  | noEvaluatorSelected
  | noModel
  | runAlreadyActive
  | noActiveRun
  | notRunning
  | notSuspended
  /-- The answer to a poll had a cursor behind the one already read. -/
  | cursorRegression (stored received : UInt64)
  | recordUnavailable (index : UInt32)
  | service (error : ServiceError)
  | storage (error : StorageError)
deriving DecidableEq, Inhabited, Repr

namespace EvaluatorError

/-- The name of the cause. -/
def kind : EvaluatorError → String
  | .noEvaluatorSelected => "NoEvaluatorSelected"
  | .noModel => "NoModel"
  | .runAlreadyActive => "RunAlreadyActive"
  | .noActiveRun => "NoActiveRun"
  | .notRunning => "NotRunning"
  | .notSuspended => "NotSuspended"
  | .cursorRegression .. => "CursorRegression"
  | .recordUnavailable _ => "RecordUnavailable"
  | .service _ => "Service"
  | .storage _ => "Storage"

def message : EvaluatorError → String
  | .noEvaluatorSelected => "No evaluator kind selected"
  | .noModel => "No model could be resolved for the evaluator run"
  | .runAlreadyActive => "An evaluator run is already active"
  | .noActiveRun => "No evaluator run is recorded"
  | .notRunning => "The evaluator run is not running"
  | .notSuspended => "The evaluator run is not suspended"
  | .cursorRegression stored received =>
      "Poll cursor went backwards: stored " ++ Text.decimal stored.toNat
        ++ ", received " ++ Text.decimal received.toNat
  | .recordUnavailable index =>
      "No record available for item " ++ Text.decimal index.toNat
  | .service error => error.message
  | .storage error => error.message

end EvaluatorError

end AgentPipeline
