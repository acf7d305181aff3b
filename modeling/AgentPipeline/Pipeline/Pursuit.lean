import AgentPipeline.Pipeline.Operations

/-!
# Pursuing a run

The owner of a pipeline starts a run and goes on with it until nothing is left
to do.  At the checkpoint and after a failed validation this takes an answer
from the user.
-/

namespace AgentPipeline

/-- A question about a run that is at rest. -/
inductive RunQuestion where
  /-- Whether to go on behind the checkpoint. -/
  | proceed
  /-- Whether to repeat the last two stages after a failed validation. -/
  | regenerate
deriving DecidableEq, Inhabited, Repr

/-- The operations that are called in the pursuit of a run. -/
inductive RunOperation where
  | start
  | settlePendingCancel
  | continueRun
  | regenerate
deriving DecidableEq, Inhabited, Repr

/-- What is noted of the operations that are called. -/
inductive OperationNotice where
  | called (operation : RunOperation)
  | returned (operation : RunOperation) (result : Except PipelineError Run)

/-- Why a run is left that could have gone on. -/
inductive RunRemark where
  | stopped
  | noAttemptsLeft
deriving DecidableEq, Inhabited, Repr

/-- How a pursuit ends. -/
inductive PursuitEnd where
  | left (run : Run) (remark : Option RunRemark)
  | failed (error : PipelineError)
  /-- An operation returned a run that is not at rest. -/
  | unfinished (run : Run)
deriving DecidableEq, Inhabited

inductive PursuitPhase where
  | working (operation : RunOperation)
  | asking (question : RunQuestion) (run : Run)
  | ended (ending : PursuitEnd)
deriving DecidableEq, Inhabited

/-- What is remarked when the answer to a question is no. -/
def RunQuestion.remark : RunQuestion → Option RunRemark
  | .proceed => some .stopped
  | .regenerate => none

namespace Pipeline

variable {σ : Type}

/-- What follows when an operation has returned a run.  A user who assumes yes
passes the checkpoint, but never repeats an attempt. -/
def phaseWith (pipeline : Pipeline σ) (assumesYes : Bool) (run : Run) :
    PursuitPhase :=
  match run.status with
  | .pausedAtCheckpoint => .asking .proceed run
  | .completed =>
      if run.validationFailure.isNone then .ended (.left run none)
      else if pipeline.maxAttempts ≤ run.attempt then
        .ended (.left run (some .noAttemptsLeft))
      else if assumesYes then .ended (.left run none)
      else .asking .regenerate run
  | .running => .ended (.unfinished run)
  | .failed | .cancelled => .ended (.left run none)

/-- What follows from the result of an operation, once it has returned. -/
def phaseAfter (pipeline : Pipeline σ) (assumesYes : Bool)
    (operation : RunOperation) :
    Option (Except PipelineError Run) → PursuitPhase
  | none => .working operation
  | some (.error error) => .ended (.failed error)
  | some (.ok run) =>
      match operation with
      | .settlePendingCancel => .ended (.left run none)
      | .start | .continueRun | .regenerate =>
          pipeline.phaseWith assumesYes run

variable [KeyValueStore σ]

/-- The operation that an answer leads to; without one the run is left as it
is.  A cancellation that was requested at the checkpoint only marked the
token, and comes before the answer. -/
def operationFor (pipeline : Pipeline σ) (yes : Bool) :
    RunQuestion → Option (RunOperation × Turn σ)
  | .proceed =>
      match pipeline.settlePendingCancel with
      | some turn => some (.settlePendingCancel, turn)
      | none =>
          if yes then some (.continueRun, pipeline.continueRun) else none
  | .regenerate =>
      if yes then some (.regenerate, pipeline.regenerate) else none

end Pipeline

end AgentPipeline
