import AgentPipeline.Cancellation.Group
import AgentPipeline.History.Store
import AgentPipeline.Model.Registry
import AgentPipeline.Run.Lifecycle
import AgentPipeline.Service.Request

/-!
# The pipeline

The pipeline holds the current run and works on it one stage call at a time.
It does nothing by itself: an operation takes a turn, in which it announces
events, may dispatch one stage call, and either returns or waits for the
answer to that call.
-/

namespace AgentPipeline

/-- The stage call that is waited for, with the token that governs it. -/
structure AwaitedCall where
  stage : Stage
  token : TokenId
deriving DecidableEq, Inhabited, Repr

/-- The pipeline over a store. -/
structure Pipeline (σ : Type) where
  history : History σ
  supply : Supply
  cancellation : CancelGroup
  /-- The number of attempts that a run may make. -/
  maxAttempts : UInt32
  /-- The current run, live or settled last. -/
  run : Option Run
  /-- The model that was resolved for each stage of the current run. -/
  stageModels : PerStage (Option ModelConfig)
  awaited : Option AwaitedCall
deriving DecidableEq, Inhabited

/-- What others notice of a turn. -/
inductive Effect where
  | announce (event : Event)
  | dispatch (request : StageRequest)
deriving DecidableEq

/-- A part of an operation that runs without waiting. -/
structure Turn (σ : Type) where
  pipeline : Pipeline σ
  /-- The effects in the order in which they happen. -/
  effects : List Effect
  /-- The result of the operation, unless it waits for an answer. -/
  result : Option (Except PipelineError Run)

namespace Turn

variable {σ : Type}

/-- The turn with effects that happen before it. -/
def after (effects : List Effect) (turn : Turn σ) : Turn σ :=
  { turn with effects := effects ++ turn.effects }

/-- The turn with events that are announced before it. -/
def afterEvents (events : List Event) (turn : Turn σ) : Turn σ :=
  turn.after (events.map .announce)

def events (turn : Turn σ) : List Event :=
  turn.effects.filterMap fun effect => match effect with
    | .announce event => some event
    | .dispatch _ => none

def requests (turn : Turn σ) : List StageRequest :=
  turn.effects.filterMap fun effect => match effect with
    | .announce _ => none
    | .dispatch request => some request

end Turn

namespace Pipeline

variable {σ : Type} [KeyValueStore σ]

/-- The pipeline without a run. -/
def new (history : History σ) (supply : Supply) (maxAttempts : UInt32) :
    Pipeline σ where
  history
  supply
  cancellation := .new
  maxAttempts
  run := none
  stageModels := .all none
  awaited := none

/-- Whether the current run may still change. -/
def isBusy (pipeline : Pipeline σ) : Bool :=
  pipeline.run.any Run.isLive

/-- The turn in which nothing happens. -/
def idle (pipeline : Pipeline σ) : Turn σ := ⟨pipeline, [], none⟩

/-- The turn that refuses an operation and changes nothing. -/
def refuse (pipeline : Pipeline σ) (error : PipelineError) : Turn σ :=
  ⟨pipeline, [], some (.error error)⟩

/-- The turn that ends an operation: the run comes to rest as it is given, and
a snapshot is recorded, whether or not the history can be stored. -/
def conclude (pipeline : Pipeline σ) (run : Run)
    (result : Except PipelineError Run) : Turn σ :=
  let (item, _, history, supply) := pipeline.history.record pipeline.supply run
  { pipeline := { pipeline with
      history, supply, run := some run, awaited := none }
    effects := [.announce (.historyRecorded item.id run.status)]
    result := some result }

/-- The turn in which the run is cancelled; the operation returns the
cancelled run. -/
def concludeCancelled (pipeline : Pipeline σ) (run : Run) (reason : String) :
    Turn σ :=
  let (run, events) := run.cancel reason
  (pipeline.conclude run (.ok run)).afterEvents events

/-- The turn in which the run fails; the operation returns the error. -/
def concludeFailed (pipeline : Pipeline σ) (run : Run)
    (error : PipelineError) : Turn σ :=
  let (run, events) := run.fail error.message
  (pipeline.conclude run (.error error)).afterEvents events

/-- The turn in which the run pauses behind the reason stage. -/
def concludePaused (pipeline : Pipeline σ) (run : Run) : Turn σ :=
  let (run, events) := run.pauseAtCheckpoint
  (pipeline.conclude run (.ok run)).afterEvents events

def concludeCompleted (pipeline : Pipeline σ) (run : Run) : Turn σ :=
  let (run, events) := run.complete
  (pipeline.conclude run (.ok run)).afterEvents events

end Pipeline

end AgentPipeline
