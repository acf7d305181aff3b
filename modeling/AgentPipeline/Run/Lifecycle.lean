import AgentPipeline.Event
import AgentPipeline.Run.Error

/-!
# The life of a run

The moves of a run, each with the events it causes.  A stage only moves
forward, except that a further attempt returns the last two stages to where
they began.
-/

namespace AgentPipeline

namespace Run

/-- A run on its first attempt. -/
def new (id : Uuid) (inputText : String) (temperature : Double)
    (mode : ProgressionMode) (models : PerStage (Option (Option String))) :
    Run where
  id
  inputText
  temperature
  mode
  models
  outputs := .all none
  states := .all .idle
  attempt := 1
  durations := .all none
  status := .running
  error := none

/-- Announces the run, or its current attempt. -/
def start (run : Run) : Run × List Event :=
  ({ run with status := .running }, [.runStarted run.id run.attempt])

/-- The run with another state of a stage, if the stage may move there. -/
def move (run : Run) (stage : Stage) (target : StageState) :
    Except PipelineError Run :=
  let source := run.states.get stage
  if source.canMoveTo target then
    .ok { run with states := run.states.set stage target }
  else .error (.invalidTransition stage source target)

def beginStage (run : Run) (stage : Stage) :
    Except PipelineError (Run × List Event) := do
  let moved ← run.move stage .processing
  .ok (moved, [.stageStarted run.id stage])

def completeStage (run : Run) (stage : Stage) (output : Json)
    (milliseconds : UInt64) : Except PipelineError (Run × List Event) := do
  let moved ← run.move stage .completed
  .ok ({ moved with
      outputs := moved.outputs.set stage (some output)
      durations := moved.durations.set stage (some milliseconds) },
    [.stageCompleted run.id stage milliseconds])

def failStage (run : Run) (stage : Stage) (error : String)
    (milliseconds : UInt64) : Except PipelineError (Run × List Event) := do
  let moved ← run.move stage .error
  .ok ({ moved with
      durations := moved.durations.set stage (some milliseconds) },
    [.stageFailed run.id stage error])

/-- A stage that has not ended, and so can be cancelled. -/
def isOpen (run : Run) (stage : Stage) : Bool :=
  (run.states.get stage).canMoveTo .cancelled

/-- Cancels the stages that have not ended.  Only of a stage that had begun an
observer is told.  Besides run and events the cancelled stages are returned. -/
def cancelOpenStages (run : Run) : Run × List Event × List Stage :=
  let stages := Stage.all.filter run.isOpen
  let states := PerStage.ofFunction fun stage =>
    if run.isOpen stage then .cancelled else run.states.get stage
  let begun := Stage.all.filter fun stage =>
    run.states.get stage = .processing
  ({ run with states }, begun.map (.stageCancelled run.id), stages)

/-- Pauses behind the reason stage. -/
def pauseAtCheckpoint (run : Run) : Run × List Event :=
  ({ run with status := .pausedAtCheckpoint }, [.checkpointReached run.id])

/-- The stages that a further attempt repeats. -/
def repeatedStages : List Stage := [.generate, .validate]

/-- The run as a further attempt finds it: without a trace of the last two
stages. -/
def reopened (run : Run) : Run :=
  { run with
    attempt := run.attempt + 1
    states := { run.states with generate := .idle, validate := .idle }
    outputs := { run.outputs with generate := none, validate := none }
    durations := { run.durations with generate := none, validate := none }
    error := none }

/-- Opens a further attempt. -/
def startAttempt (run : Run) : Run × List Event :=
  run.reopened.start

/-- Completes the run; an observer is told the verdict of its output. -/
def complete (run : Run) : Run × List Event :=
  let valid := run.outputs.validate.bind fun output =>
    (ValidationSummary.ofOutput output).valid
  ({ run with status := .completed },
    [.runCompleted run.id run.attempt valid])

def fail (run : Run) (error : String) : Run × List Event :=
  ({ run with status := .failed, error := some error },
    [.runFailed run.id error])

/-- Cancels the run and the stages that have not ended. -/
def cancel (run : Run) (reason : String) : Run × List Event :=
  let (stopped, events, _) := run.cancelOpenStages
  ({ stopped with status := .cancelled, error := some reason },
    events ++ [.runCancelled run.id reason])

end Run

end AgentPipeline
