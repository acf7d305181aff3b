import AgentPipeline.Pipeline.Drive
import AgentPipeline.Text.Blank

/-!
# The operations of the pipeline

An operation that is refused changes nothing.  Every other operation that
touches the run ends with the run at rest, and then with a snapshot of it in
the history.
-/

namespace AgentPipeline

/-- What a run is started with. -/
structure RunRequest where
  inputText : String
  selections : ModelSelections
  temperature : Double
  mode : ProgressionMode
deriving DecidableEq, Inhabited

/-- The reason of the token of a run that was discarded. -/
def inputEdited : String := "input edited"

namespace Pipeline

variable {σ : Type} [KeyValueStore σ]

/-- Starts a run and drives it to the checkpoint or to its end. -/
def start (pipeline : Pipeline σ) (request : RunRequest)
    (registry : ModelRegistry) : Turn σ :=
  if Text.isBlankText request.inputText then pipeline.refuse .emptyInput
  else if pipeline.isBusy then pipeline.refuse .runInProgress
  else
    match registry.connectivity with
    | .unreachable reason => pipeline.refuse (.offline reason)
    | .online =>
        let stageModels := PerStage.ofFunction fun stage =>
          registry.resolveFor stage.agent request.selections
        match stageModels.parse with
        | none => pipeline.refuse .noModel
        | some _ =>
            let (cancellation, token) := pipeline.cancellation.issue
            let (id, supply) := pipeline.supply.nextId
            let models := PerStage.ofFunction fun stage =>
              some ((stageModels.get stage).map (·.model))
            let (run, events) := (Run.new id request.inputText
              request.temperature request.mode models).start
            let started := { pipeline with
              cancellation, supply, stageModels, run := some run }
            (started.callStage run token
              (.parse request.inputText)).afterEvents events

/-- Continues a run that is paused at the checkpoint, under the current
token. -/
def continueRun (pipeline : Pipeline σ) : Turn σ :=
  match pipeline.run with
  | none => pipeline.refuse .noActiveRun
  | some paused =>
      if paused.status = .pausedAtCheckpoint then
        let run := { paused with status := .running }
        let (cancellation, token) := match pipeline.cancellation.current? with
          | some token => (pipeline.cancellation, token)
          | none => pipeline.cancellation.issue
        { pipeline with cancellation, run := some run }.generate run token none
      else pipeline.refuse .notAtCheckpoint

/-- What a further attempt of a run builds on, or the part that is missing. -/
def regenerationContext (run : Run) : Except PipelineError Feedback :=
  if Text.isBlankText run.inputText then
    .error (.contextMissing "input text")
  else if run.outputs.parse.isNone then
    .error (.contextMissing "parse output")
  else if run.outputs.reason.isNone then
    .error (.contextMissing "reasoning output")
  else
    match run.outputs.generate with
    | none => .error (.contextMissing "previously generated output")
    | some previousOutput =>
        let failure :=
          if run.states.validate = .completed then run.validationFailure
          else none
        match failure with
        | none => .error (.contextMissing "validation errors")
        | some failure =>
            .ok { previousOutput, validationErrors := failure.errors }

/-- Repeats the last two stages of a run whose validation failed. -/
def regenerate (pipeline : Pipeline σ) : Turn σ :=
  match pipeline.run with
  | none => pipeline.refuse .noActiveRun
  | some run =>
      match regenerationContext run with
      | .error error => pipeline.refuse error
      | .ok feedback =>
          if run.isLive then pipeline.refuse .runInProgress
          else if pipeline.maxAttempts ≤ run.attempt then
            pipeline.refuse (.attemptsExhausted pipeline.maxAttempts)
          else
            let (cancellation, token) := pipeline.cancellation.issue
            let (run, events) := run.startAttempt
            ({ pipeline with cancellation, run := some run }.generate run token
              (some feedback)).afterEvents events

/-- Cancels the live run. -/
def cancelWith (pipeline : Pipeline σ) (reason : String) : Turn σ :=
  match pipeline.run with
  | none => pipeline.refuse .noActiveRun
  | some run =>
      if run.isLive then
        { pipeline with
          cancellation := pipeline.cancellation.cancel reason
        }.concludeCancelled run reason
      else pipeline.refuse .noActiveRun

/-- Settles a cancellation that was requested while no call was awaited;
nothing happens unless the current token is cancelled and the run is live. -/
def settlePendingCancel (pipeline : Pipeline σ) : Option (Turn σ) :=
  match pipeline.cancellation.pending?, pipeline.run with
  | some reason, some run =>
      if run.isLive then some (pipeline.concludeCancelled run reason) else none
  | _, _ => none

/-- Discards the current run, of which nothing is recorded. -/
def discard (pipeline : Pipeline σ) : Option Run × Pipeline σ :=
  (pipeline.run, { pipeline with
    cancellation := pipeline.cancellation.cancel inputEdited
    stageModels := .all none
    run := none })

end Pipeline

end AgentPipeline
