import AgentPipeline.Proofs.Pipeline.Drive
import AgentPipeline.Store.Memory

/-!
# Runs come to rest

Whatever happens to a pipeline, its current run is either in the middle of the
stage that is waited for, or at rest in a shape that its status determines.
Main statement: `isAtRest_after`.
-/

namespace AgentPipeline

namespace Run

/-- A run that is not being driven, with what it may look like in each
status. -/
structure IsAtRest (run : Run) : Prop where
  notRunning : run.status ≠ .running
  paused : run.status = .pausedAtCheckpoint →
    run.states.toList = [.completed, .completed, .idle, .idle]
  completed : run.status = .completed →
    run.states.toList = [.completed, .completed, .completed, .completed]
  failed : run.status = .failed → ∃ done left,
    run.states.toList = List.replicate done .completed
      ++ .error :: List.replicate left .idle
  cancelled : run.status = .cancelled → ∃ done left, 0 < left ∧
    run.states.toList = List.replicate done .completed
      ++ List.replicate left .cancelled
  outputs : ∀ stage, (run.outputs.get stage).isSome ↔
    run.states.get stage = .completed
  durations : ∀ stage, (run.durations.get stage).isSome ↔
    (run.states.get stage = .completed ∨ run.states.get stage = .error)
  error : run.error.isSome ↔
    (run.status = .failed ∨ run.status = .cancelled)

namespace Rests

/-- Outputs and durations of a run at rest belong to its states. -/
private theorem holdings
    {run : Run} (rests : run.Rests) :
    ∃ done front behind, run.Reaches done front behind := by
  cases rests with
  | paused reaches => exact ⟨_, _, _, reaches⟩
  | completed reaches => exact ⟨_, _, _, reaches⟩
  | failed _ reaches => exact ⟨_, _, _, reaches⟩
  | cancelled _ _ reaches => exact ⟨_, _, _, reaches⟩

/-- A run that came to rest in one of the four ways is at rest. -/
theorem isAtRest {run : Run} (rests : run.Rests) : run.IsAtRest := by
  obtain ⟨_, _, _, held⟩ := rests.holdings
  have outputs := held.outputs
  have durations := held.durations
  cases rests with
  | paused reaches status noError =>
      refine ⟨?_, ?_, ?_, ?_, ?_, outputs, durations, ?_⟩ <;>
        simp [status, noError]
      exact reaches.toList_eq
  | completed reaches status noError =>
      refine ⟨?_, ?_, ?_, ?_, ?_, outputs, durations, ?_⟩ <;>
        simp [status, noError]
      exact reaches.toList_eq
  | failed stage reaches status error =>
      refine ⟨?_, ?_, ?_, ?_, ?_, outputs, durations, ?_⟩ <;>
        simp [status, error]
      have isStage : stage.index < 4 := by cases stage <;> decide
      exact ⟨stage.index, 3 - stage.index, reaches.toList_split isStage⟩
  | cancelled done isStage reaches status error =>
      refine ⟨?_, ?_, ?_, ?_, ?_, outputs, durations, ?_⟩ <;>
        simp [status, error]
      refine ⟨done, 3 - done + 1, by omega, ?_⟩
      rw [reaches.toList_split isStage, List.replicate_succ]

end Rests

end Run

namespace Pipeline

variable {σ : Type} [KeyValueStore σ]

/-- While a call is waited for, the run is in the middle of its stage and the
token of the call is the current one; otherwise the run is at rest.  A run
always has a token. -/
structure IsSound (pipeline : Pipeline σ) : Prop where
  rests : pipeline.awaited = none →
    ∀ run, pipeline.run = some run → run.Rests
  waits : ∀ call, pipeline.awaited = some call →
    pipeline.cancellation.current? = some call.token ∧
      ∃ run, pipeline.run = some run ∧ run.IsUnderway call.stage
  hasToken : pipeline.run.isSome → pipeline.cancellation.current?.isSome

omit [KeyValueStore σ] in
theorem new_isSound (history : History σ) (supply : Supply)
    (maxAttempts : UInt32) : (new history supply maxAttempts).IsSound :=
  ⟨by simp [new], by simp [new], by simp [new]⟩

omit [KeyValueStore σ] in
/-- The token of the call that is waited for decides by what is pending. -/
theorem IsSound.reason?_eq_pending?
    {pipeline : Pipeline σ} (sound : pipeline.IsSound) {call : AwaitedCall}
    (waiting : pipeline.awaited = some call) :
    pipeline.cancellation.reason? call.token =
      pipeline.cancellation.pending? :=
  CancelGroup.reason?_eq_pending? (sound.waits call waiting).1

/-! ## The parts of a drive -/

omit [KeyValueStore σ] in
/-- A pipeline is sound once its run is at rest. -/
theorem isSound_of_rests
    {pipeline : Pipeline σ} {run : Run}
    (free : pipeline.awaited = none) (current : pipeline.run = some run)
    (rests : run.Rests)
    (hasToken : pipeline.cancellation.current?.isSome) :
    pipeline.IsSound := by
  refine ⟨?_, by simp [free], fun _ => hasToken⟩
  intro _ other same
  obtain rfl : run = other := by simpa [current] using same
  exact rests

theorem concludeCancelled_isSound
    {pipeline : Pipeline σ} {run : Run} {done : Nat} {front : StageState}
    (reaches : run.Reaches done front .idle) (isStage : done < 4)
    (isOpen : front = .idle ∨ front = .processing)
    (hasToken : pipeline.cancellation.current?.isSome) (reason : String) :
    (pipeline.concludeCancelled run reason).pipeline.IsSound :=
  isSound_of_rests rfl rfl
    (Run.cancel_rests reaches isStage isOpen reason) hasToken

theorem callStage_isSound
    {pipeline : Pipeline σ} {run : Run} {token : TokenId}
    {input : StageInput} (ready : run.IsReady input.stage.index)
    (current : pipeline.cancellation.current? = some token) :
    (pipeline.callStage run token input).pipeline.IsSound := by
  have hasToken : pipeline.cancellation.current?.isSome := by simp [current]
  cases cancelled : pipeline.cancellation.reason? token with
  | some reason =>
      rw [callStage_of_cancelled cancelled]
      have isStage : input.stage.index < 4 := by
        cases input.stage <;> decide
      exact concludeCancelled_isSound ready.reaches isStage (.inl rfl)
        hasToken reason
  | none =>
      rw [callStage_of_open cancelled ready]
      refine ⟨by simp, ?_, fun _ => hasToken⟩
      intro call waiting
      obtain rfl : ⟨input.stage, token⟩ = call := by simpa using waiting
      exact ⟨current, _, rfl, Run.begun_isUnderway ready⟩

theorem generate_isSound
    {pipeline : Pipeline σ} {run : Run} {token : TokenId}
    (ready : run.IsReady 2)
    (current : pipeline.cancellation.current? = some token)
    (feedback : Option Feedback) :
    (pipeline.generate run token feedback).pipeline.IsSound := by
  obtain ⟨_, _, _, _, called⟩ :=
    generate_eq_callStage ready pipeline token feedback
  rw [called]
  exact callStage_isSound ready current

theorem proceed_isSound
    {pipeline : Pipeline σ} {run : Run} {token : TokenId} {stage : Stage}
    (ready : run.IsReady (stage.index + 1))
    (current : pipeline.cancellation.current? = some token)
    (output : Json) :
    (pipeline.proceed run token stage output).pipeline.IsSound := by
  have hasToken : pipeline.cancellation.current?.isSome := by simp [current]
  cases stage with
  | parse => exact callStage_isSound ready current
  | reason =>
      simp only [proceed]
      cases run.mode with
      | manual =>
          exact isSound_of_rests rfl rfl
            (Run.pauseAtCheckpoint_rests ready) hasToken
      | auto => exact generate_isSound ready current none
  | generate => exact callStage_isSound ready current
  | validate =>
      exact isSound_of_rests rfl rfl (Run.complete_rests ready) hasToken

theorem settleCall_isSound
    {pipeline : Pipeline σ} {run : Run} {call : AwaitedCall}
    (underway : run.IsUnderway call.stage)
    (current : pipeline.cancellation.current? = some call.token)
    (outcome : Except ServiceError Json) (milliseconds : UInt64) :
    (pipeline.settleCall run call outcome milliseconds).pipeline.IsSound := by
  cases outcome with
  | ok output =>
      rw [settleCall_ok underway, Turn.afterEvents_pipeline]
      exact proceed_isSound
        (Run.finished_isReady underway output milliseconds) current output
  | error error =>
      rw [settleCall_error underway, Turn.afterEvents_pipeline]
      exact isSound_of_rests rfl rfl
        (Run.fail_rests (Run.broken_reaches underway milliseconds) _)
        (by simp [concludeFailed, current])

/-! ## The operations -/

omit [KeyValueStore σ] in
/-- Only the tokens of a pipeline have changed. -/
theorem IsSound.of_cancel
    {pipeline : Pipeline σ} (sound : pipeline.IsSound) (reason : String) :
    { pipeline with
      cancellation := pipeline.cancellation.cancel reason }.IsSound := by
  refine ⟨sound.rests, ?_, ?_⟩
  · intro call waiting
    obtain ⟨current, underway⟩ := sound.waits call waiting
    exact ⟨(CancelGroup.current?_cancel _ _).trans current, underway⟩
  · intro hasRun
    simpa [CancelGroup.current?_cancel] using sound.hasToken hasRun

/-- The parts of a turn that takes notice of a cancelled token. -/
theorem concludeWaiting_isSound
    {pipeline : Pipeline σ} (sound : pipeline.IsSound) {call : AwaitedCall}
    (waiting : pipeline.awaited = some call) {run : Run}
    (current : pipeline.run = some run) (reason : String) :
    (pipeline.concludeCancelled run reason).pipeline.IsSound := by
  obtain ⟨token, other, same, underway⟩ := sound.waits call waiting
  obtain rfl : run = other := by simpa [current] using same
  have isStage : call.stage.index < 4 := by cases call.stage <;> decide
  exact concludeCancelled_isSound underway.reaches isStage (.inr rfl)
    (by simp [token]) reason

theorem notice_isSound
    {pipeline : Pipeline σ} (sound : pipeline.IsSound) :
    pipeline.notice.pipeline.IsSound := by
  unfold notice
  split
  next call run waiting current =>
    split
    · exact concludeWaiting_isSound sound waiting current _
    · exact sound
  next => exact sound

theorem reply_isSound
    {pipeline : Pipeline σ} (sound : pipeline.IsSound)
    (outcome : Except ServiceError Json) (milliseconds : UInt64) :
    (pipeline.reply outcome milliseconds).pipeline.IsSound := by
  unfold reply
  split
  next call run waiting current =>
    split
    · exact concludeWaiting_isSound sound waiting current _
    · obtain ⟨token, other, same, underway⟩ := sound.waits call waiting
      obtain rfl : run = other := by simpa [current] using same
      exact settleCall_isSound underway token outcome milliseconds
  next => exact sound

theorem start_isSound
    {pipeline : Pipeline σ} (sound : pipeline.IsSound)
    (request : RunRequest) (registry : ModelRegistry) :
    (pipeline.start request registry).pipeline.IsSound := by
  unfold start
  split
  · exact sound
  split
  · exact sound
  split
  · exact sound
  dsimp only
  split
  · exact sound
  · rw [Turn.afterEvents_pipeline]
    exact callStage_isSound (Run.new_isReady ..)
      (CancelGroup.current?_issue _)

theorem continueRun_isSound
    {pipeline : Pipeline σ} (sound : pipeline.IsSound)
    (free : pipeline.awaited = none) :
    pipeline.continueRun.pipeline.IsSound := by
  unfold continueRun
  split
  · exact sound
  next paused current =>
    split
    next status =>
      have isLive : paused.isLive := by
        simp [Run.isLive, status, RunStatus.isTerminal]
      obtain ⟨reaches, _, noError⟩ :=
        (sound.rests free paused current).paused_of_isLive isLive
      have ready : ({ paused with status := .running } : Run).IsReady 2 :=
        ⟨⟨reaches.states, reaches.outputs, reaches.durations⟩, rfl, noError⟩
      dsimp only
      split
      next token hasToken => exact generate_isSound ready hasToken none
      next => exact generate_isSound ready (CancelGroup.current?_issue _) none
    · exact sound

/-- Only a validated run has what a further attempt builds on. -/
theorem validated_of_regenerationContext
    {run : Run} {feedback : Feedback}
    (context : regenerationContext run = .ok feedback) :
    run.states.get .validate = .completed := by
  by_cases validated : run.states.validate = .completed
  · exact validated
  · simp only [regenerationContext, validated, if_false] at context
    repeat' split at context
    all_goals simp at context

theorem regenerate_isSound
    {pipeline : Pipeline σ} (sound : pipeline.IsSound)
    (free : pipeline.awaited = none) :
    pipeline.regenerate.pipeline.IsSound := by
  unfold regenerate
  split
  · exact sound
  next run current =>
    split
    · exact sound
    next feedback context =>
      have rests := sound.rests free run current
      have validated := validated_of_regenerationContext context
      obtain ⟨reaches, _⟩ := rests.completed_of_validated validated
      split
      · exact sound
      split
      · exact sound
      · rw [Turn.afterEvents_pipeline]
        exact generate_isSound (Run.startAttempt_isReady reaches)
          (CancelGroup.current?_issue _) _

/-- A live run at rest can be cancelled from outside of a drive. -/
private theorem concludeResting_isSound
    {pipeline : Pipeline σ} (sound : pipeline.IsSound)
    (free : pipeline.awaited = none) {run : Run}
    (current : pipeline.run = some run) (isLive : run.isLive = true)
    (reason : String) :
    (pipeline.concludeCancelled run reason).pipeline.IsSound := by
  obtain ⟨reaches, _, _⟩ :=
    (sound.rests free run current).paused_of_isLive isLive
  exact concludeCancelled_isSound reaches (by decide) (.inl rfl)
    (sound.hasToken (by simp [current])) reason

theorem cancelWith_isSound
    {pipeline : Pipeline σ} (sound : pipeline.IsSound)
    (free : pipeline.awaited = none) (reason : String) :
    (pipeline.cancelWith reason).pipeline.IsSound := by
  unfold cancelWith
  split
  · exact sound
  next run current =>
    split
    next isLive =>
      exact concludeResting_isSound (sound.of_cancel reason) free current
        isLive reason
    · exact sound

theorem settlePendingCancel_isSound
    {pipeline : Pipeline σ} (sound : pipeline.IsSound)
    (free : pipeline.awaited = none) {turn : Turn σ}
    (settled : pipeline.settlePendingCancel = some turn) :
    turn.pipeline.IsSound := by
  unfold settlePendingCancel at settled
  split at settled
  next reason run _ current =>
    split at settled
    next isLive =>
      obtain rfl := Option.some.inj settled
      exact concludeResting_isSound sound free current isLive reason
    · cases settled
  · cases settled

omit [KeyValueStore σ] in
theorem discard_isSound
    {pipeline : Pipeline σ} (free : pipeline.awaited = none) :
    pipeline.discard.2.IsSound := by
  refine ⟨by simp [discard], ?_, by simp [discard]⟩
  intro call waiting
  simp [discard, free] at waiting

/-- Whatever happens to a pipeline keeps it sound. -/
theorem occur_isSound
    {pipeline : Pipeline σ} (sound : pipeline.IsSound)
    (occurrence : Occurrence) :
    (pipeline.occur occurrence).pipeline.IsSound := by
  cases waiting : pipeline.awaited with
  | some call =>
      cases occurrence with
      | fire reason => exact sound.of_cancel reason
      | notice => exact notice_isSound sound
      | reply outcome milliseconds =>
          exact reply_isSound sound outcome milliseconds
      | _ =>
          simp only [occur, whenFree_of_waiting waiting]
          exact sound
  | none =>
      cases occurrence with
      | start request registry =>
          rw [occur, whenFree_of_free waiting]
          exact start_isSound sound request registry
      | continueRun =>
          rw [occur, whenFree_of_free waiting]
          exact continueRun_isSound sound waiting
      | regenerate =>
          rw [occur, whenFree_of_free waiting]
          exact regenerate_isSound sound waiting
      | cancelWith reason =>
          rw [occur, whenFree_of_free waiting]
          exact cancelWith_isSound sound waiting reason
      | settlePendingCancel =>
          rw [occur, whenFree_of_free waiting]
          cases settled : pipeline.settlePendingCancel with
          | none => exact sound
          | some turn =>
              exact settlePendingCancel_isSound sound waiting settled
      | discard =>
          rw [occur, whenFree_of_free waiting]
          exact discard_isSound waiting
      | fire reason => exact sound.of_cancel reason
      | notice => exact notice_isSound sound
      | reply outcome milliseconds =>
          exact reply_isSound sound outcome milliseconds

/-- Every history of a pipeline leaves it sound. -/
theorem isSound_after (history : History σ) (supply : Supply)
    (maxAttempts : UInt32) (occurrences : List Occurrence) :
    ((new history supply maxAttempts).after occurrences).IsSound :=
  invariant_after IsSound
    (fun _ occurrence sound => occur_isSound sound occurrence)
    (new_isSound history supply maxAttempts) occurrences

/-- Whatever has happened to a pipeline, its run is at rest whenever no
operation waits. -/
theorem isAtRest_after (history : History σ) (supply : Supply)
    (maxAttempts : UInt32) (occurrences : List Occurrence) {run : Run}
    (returned :
      ((new history supply maxAttempts).after occurrences).awaited = none)
    (current :
      ((new history supply maxAttempts).after occurrences).run = some run) :
    run.IsAtRest :=
  ((isSound_after history supply maxAttempts occurrences).rests returned run
    current).isAtRest

/-! ## A run that is interrupted -/

def inMemory : Pipeline MemoryStore :=
  new ⟨.empty, 10, []⟩ ⟨0, 0, ⟨0, 0⟩⟩ 3

/-- A run over a short text is started with one model for all stages. -/
def startShort (mode : ProgressionMode) : Occurrence :=
  .start ⟨"Users can read.", .single "basic", ⟨0⟩, mode⟩ ⟨.empty, [], .online⟩

/-- A run is continued behind the checkpoint and cancelled while the generate
stage is on its way. -/
def interruption : List Occurrence :=
  [startShort .manual, .reply (.ok .null) 5, .reply (.ok (.bool true)) 7,
    .continueRun, .fire "stop", .reply (.ok .null) 9]

theorem isAtRest_interruption :
    (inMemory.after interruption).awaited = none ∧
      ∃ run, (inMemory.after interruption).run = some run ∧
        run.states.toList = [.completed, .completed, .cancelled, .cancelled] ∧
        run.IsAtRest :=
  ⟨rfl, _, rfl, rfl, isAtRest_after ⟨MemoryStore.empty, 10, []⟩
    ⟨0, 0, ⟨0, 0⟩⟩ 3 interruption rfl rfl⟩

end Pipeline

end AgentPipeline
