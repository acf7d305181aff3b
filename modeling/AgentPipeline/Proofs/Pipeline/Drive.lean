import AgentPipeline.Proofs.Cancellation.Group
import AgentPipeline.Proofs.Pipeline.Occurrence
import AgentPipeline.Proofs.Run.Shape

/-!
# What a drive does

For a run whose next stage may begin, every part of a drive has one outcome:
the call is dispatched, or the run comes to rest.  The errors that guard the
parts against runs in other states never arise.
-/

namespace AgentPipeline

namespace Pipeline

variable {σ : Type} [KeyValueStore σ]

/-! ## Coming to rest -/

section Conclude

variable (pipeline : Pipeline σ) (run : Run)
  (result : Except PipelineError Run)

@[simp]
theorem conclude_run :
    (pipeline.conclude run result).pipeline.run = some run := rfl

@[simp]
theorem conclude_awaited :
    (pipeline.conclude run result).pipeline.awaited = none := rfl

@[simp]
theorem conclude_cancellation :
    (pipeline.conclude run result).pipeline.cancellation =
      pipeline.cancellation := rfl

@[simp]
theorem conclude_result :
    (pipeline.conclude run result).result = some result := rfl

@[simp]
theorem requests_conclude :
    (pipeline.conclude run result).requests = [] := rfl

end Conclude

section ConcludeCancelled

variable (pipeline : Pipeline σ) (run : Run) (reason : String)

@[simp]
theorem concludeCancelled_run :
    (pipeline.concludeCancelled run reason).pipeline.run =
      some (run.cancel reason).1 := rfl

@[simp]
theorem concludeCancelled_awaited :
    (pipeline.concludeCancelled run reason).pipeline.awaited = none := rfl

@[simp]
theorem concludeCancelled_cancellation :
    (pipeline.concludeCancelled run reason).pipeline.cancellation =
      pipeline.cancellation := rfl

@[simp]
theorem concludeCancelled_result :
    (pipeline.concludeCancelled run reason).result =
      some (.ok (run.cancel reason).1) := rfl

@[simp]
theorem requests_concludeCancelled :
    (pipeline.concludeCancelled run reason).requests = [] := by
  simp [concludeCancelled]

end ConcludeCancelled

/-! ## The parts of a drive -/

/-- A call under a cancelled token is not dispatched. -/
theorem callStage_of_cancelled
    {pipeline : Pipeline σ} {token : TokenId} {reason : String}
    (cancelled : pipeline.cancellation.reason? token = some reason)
    (run : Run) (input : StageInput) :
    pipeline.callStage run token input =
      pipeline.concludeCancelled run reason := by
  simp [callStage, cancelled]

/-- A call under an open token is dispatched. -/
theorem callStage_of_open
    {pipeline : Pipeline σ} {token : TokenId} {run : Run}
    {input : StageInput}
    (isOpen : pipeline.cancellation.reason? token = none)
    (ready : run.IsReady input.stage.index) :
    pipeline.callStage run token input =
      { pipeline := { pipeline with
          run := some (run.begun input.stage)
          awaited := some ⟨input.stage, token⟩ }
        effects := [.announce (.stageStarted run.id input.stage), .dispatch
          { input
            model := pipeline.stageModels.get input.stage
            temperature := run.temperature }]
        result := none } := by
  simp [callStage, isOpen, Run.beginStage_eq ready, Run.begun]

/-- A run before the generate stage has the outputs that it builds on. -/
theorem outputs_of_isReady
    {run : Run} (ready : run.IsReady 2) :
    ∃ parsed reasoning, run.outputs.parse = some parsed ∧
      run.outputs.reason = some reasoning := by
  have parse : run.outputs.parse.isSome :=
    (ready.reaches.outputs .parse).mpr
      (ready.reaches.completed_of_before (by decide))
  have reason : run.outputs.reason.isSome :=
    (ready.reaches.outputs .reason).mpr
      (ready.reaches.completed_of_before (by decide))
  obtain ⟨parsed, parsedEq⟩ := Option.isSome_iff_exists.mp parse
  obtain ⟨reasoning, reasoningEq⟩ := Option.isSome_iff_exists.mp reason
  exact ⟨parsed, reasoning, parsedEq, reasoningEq⟩

/-- The generate stage of a run that is ready for it is called. -/
theorem generate_eq_callStage
    {run : Run} (ready : run.IsReady 2) (pipeline : Pipeline σ)
    (token : TokenId) (feedback : Option Feedback) :
    ∃ parsed reasoning, run.outputs.parse = some parsed ∧
      run.outputs.reason = some reasoning ∧
      pipeline.generate run token feedback =
        pipeline.callStage run token
          (.generate parsed reasoning run.inputText run.attempt
            (feedback.map (·.previousOutput))
            (feedback.map (·.validationErrors))) := by
  obtain ⟨parsed, reasoning, parsedEq, reasoningEq⟩ :=
    outputs_of_isReady ready
  refine ⟨parsed, reasoning, parsedEq, reasoningEq, ?_⟩
  simp [generate, parsedEq, reasoningEq]

/-- The generate stage is not called under a cancelled token. -/
theorem generate_of_cancelled
    {run : Run} (ready : run.IsReady 2) (pipeline : Pipeline σ)
    {token : TokenId} {reason : String}
    (cancelled : pipeline.cancellation.reason? token = some reason)
    (feedback : Option Feedback) :
    pipeline.generate run token feedback =
      pipeline.concludeCancelled run reason := by
  obtain ⟨_, _, _, _, called⟩ :=
    generate_eq_callStage ready pipeline token feedback
  rw [called, callStage_of_cancelled cancelled]

/-- An output is taken over, and the drive goes on. -/
theorem settleCall_ok
    {run : Run} {call : AwaitedCall} (underway : run.IsUnderway call.stage)
    (pipeline : Pipeline σ) (output : Json) (milliseconds : UInt64) :
    pipeline.settleCall run call (.ok output) milliseconds =
      (pipeline.proceed (run.finished call.stage output milliseconds)
        call.token call.stage output).afterEvents
          [.stageCompleted run.id call.stage milliseconds] := by
  simp [settleCall, Run.completeStage_eq underway]

/-- An error ends the stage and the run. -/
theorem settleCall_error
    {run : Run} {call : AwaitedCall} (underway : run.IsUnderway call.stage)
    (pipeline : Pipeline σ) (error : ServiceError) (milliseconds : UInt64) :
    pipeline.settleCall run call (.error error) milliseconds =
      (pipeline.concludeFailed (run.broken call.stage milliseconds)
        (.stage call.stage error.message)).afterEvents
          [.stageFailed run.id call.stage error.message] := by
  simp [settleCall, Run.failStage_eq underway]

end Pipeline

end AgentPipeline
