import AgentPipeline.Pipeline.Basic

/-!
# Driving a run

A drive takes a run from stage to stage.  The token of the operation is
examined before a call is dispatched, while its answer is waited for and when
the answer arrives; once it is cancelled the drive ends and an answer that is
still to come finds nobody waiting.
-/

namespace AgentPipeline

/-- What a further attempt is told about the one before. -/
structure Feedback where
  previousOutput : Json
  validationErrors : List Json
deriving DecidableEq, Inhabited

namespace Pipeline

variable {σ : Type} [KeyValueStore σ]

/-- Begins the stage of an input and dispatches its call. -/
def callStage (pipeline : Pipeline σ) (run : Run) (token : TokenId)
    (input : StageInput) : Turn σ :=
  match pipeline.cancellation.reason? token with
  | some reason => pipeline.concludeCancelled run reason
  | none =>
      match run.beginStage input.stage with
      | .error error => pipeline.concludeFailed run error
      | .ok (run, events) =>
          { pipeline := { pipeline with
              run := some run, awaited := some ⟨input.stage, token⟩ }
            effects := events.map .announce ++ [.dispatch
              { input
                model := pipeline.stageModels.get input.stage
                temperature := run.temperature }]
            result := none }

/-- Goes on with the generate stage, which builds on the outputs of the stages
before it. -/
def generate (pipeline : Pipeline σ) (run : Run) (token : TokenId)
    (feedback : Option Feedback) : Turn σ :=
  match run.outputs.parse, run.outputs.reason with
  | none, _ =>
      pipeline.concludeFailed run (.contextMissing "parse output")
  | some _, none =>
      pipeline.concludeFailed run (.contextMissing "reasoning output")
  | some parsed, some reasoning =>
      pipeline.callStage run token
        (.generate parsed reasoning run.inputText run.attempt
          (feedback.map (·.previousOutput))
          (feedback.map (·.validationErrors)))

/-- Goes on behind a stage that ended with an output. -/
def proceed (pipeline : Pipeline σ) (run : Run) (token : TokenId)
    (stage : Stage) (output : Json) : Turn σ :=
  match stage with
  | .parse => pipeline.callStage run token (.reason output run.inputText)
  | .reason =>
      match run.mode with
      | .manual => pipeline.concludePaused run
      | .auto => pipeline.generate run token none
  | .generate => pipeline.callStage run token (.validate output)
  | .validate => pipeline.concludeCompleted run

/-- Takes the answer to a stage call that took some milliseconds. -/
def settleCall (pipeline : Pipeline σ) (run : Run) (call : AwaitedCall)
    (outcome : Except ServiceError Json) (milliseconds : UInt64) : Turn σ :=
  match outcome with
  | .ok output =>
      match run.completeStage call.stage output milliseconds with
      | .error error => pipeline.concludeFailed run error
      | .ok (run, events) =>
          (pipeline.proceed run call.token call.stage output).afterEvents
            events
  | .error error =>
      match run.failStage call.stage error.message milliseconds with
      | .error error => pipeline.concludeFailed run error
      | .ok (run, events) =>
          (pipeline.concludeFailed run
            (.stage call.stage error.message)).afterEvents events

/-- The answer to the awaited call arrives; it is dropped when the token of
the call is cancelled, or when no call is awaited. -/
def reply (pipeline : Pipeline σ) (outcome : Except ServiceError Json)
    (milliseconds : UInt64) : Turn σ :=
  match pipeline.awaited, pipeline.run with
  | some call, some run =>
      match pipeline.cancellation.reason? call.token with
      | some reason => pipeline.concludeCancelled run reason
      | none => pipeline.settleCall run call outcome milliseconds
  | _, _ => pipeline.idle

/-- Ends the operation that waits, if its token is cancelled. -/
def notice (pipeline : Pipeline σ) : Turn σ :=
  match pipeline.awaited, pipeline.run with
  | some call, some run =>
      match pipeline.cancellation.reason? call.token with
      | some reason => pipeline.concludeCancelled run reason
      | none => pipeline.idle
  | _, _ => pipeline.idle

/-- The cancel handle is fired, at any time. -/
def fireCancel (pipeline : Pipeline σ) (reason : String) : Turn σ :=
  { pipeline with
    cancellation := pipeline.cancellation.cancel reason }.notice

/-- A token is issued through the cancel handle, at any time. -/
def issueToken (pipeline : Pipeline σ) : Turn σ :=
  { pipeline with cancellation := pipeline.cancellation.issue.1 }.notice

/-- The caller of the operation that waits goes away.  The run stays as it is
at that moment. -/
def abandon (pipeline : Pipeline σ) : Pipeline σ :=
  { pipeline with awaited := none }

end Pipeline

end AgentPipeline
