import AgentPipeline.Proofs.Pipeline.Happening
import AgentPipeline.Proofs.Pipeline.Rest
import AgentPipeline.Proofs.Pipeline.SpentToken

/-!
# The turns of a pipeline

A turn passes without an effect, refuses an operation, dispatches the call of
a stage, or brings the run to rest.  `Takes` says which turns can follow from
what happens, with the conditions of each; the errors that guard a drive
against runs in the wrong state are not among them.  Main statements:
`takes_happen`, `isShaped_through`.
-/

namespace AgentPipeline

@[simp]
theorem Turn.afterEvents_afterEvents {σ : Type} (first second : List Event)
    (turn : Turn σ) :
    (turn.afterEvents second).afterEvents first =
      turn.afterEvents (first ++ second) := by
  simp [Turn.afterEvents, Turn.after]

@[simp]
theorem Turn.afterEvents_nil {σ : Type} (turn : Turn σ) :
    turn.afterEvents [] = turn := rfl

theorem Stage.index_lt (stage : Stage) : stage.index < 4 := by
  cases stage <;> decide

namespace Run

/-- The run is at rest or in the middle of a stage. -/
def Stands (run : Run) : Prop :=
  run.Rests ∨ ∃ stage, run.IsUnderway stage

/-- What the stage behind one that ended with an output is asked, where a
drive goes on without a pause. -/
inductive Follows (run : Run) (output : Json) : Stage → StageInput → Prop
  | reason : run.Follows output .parse (.reason output run.inputText)
  | generate {parsed : Json} (auto : run.mode = .auto)
      (parse : run.outputs.parse = some parsed) :
      run.Follows output .reason
        (.generate parsed output run.inputText run.attempt none none)
  | validate : run.Follows output .generate (.validate output)

theorem Follows.stage
    {run : Run} {output : Json} {stage : Stage} {input : StageInput}
    (follows : run.Follows output stage input) :
    input.stage.index = stage.index + 1 := by
  cases follows <;> rfl

end Run

namespace Pipeline

variable {σ : Type} [KeyValueStore σ]

/-- What holds of a pipeline whatever has happened.  A call that is waited for
belongs to the stage that the run is in; the run of a call that nobody waits
for any more stays in the middle of its stage. -/
structure IsShaped (pipeline : Pipeline σ) : Prop where
  stands : ∀ run, pipeline.run = some run → run.Stands
  notBlank : ∀ run, pipeline.run = some run →
    Text.isBlankText run.inputText = false
  waits : ∀ call, pipeline.awaited = some call →
    ∃ run, pipeline.run = some run ∧ run.IsUnderway call.stage
  hasToken : pipeline.run.isSome → pipeline.cancellation.current?.isSome

omit [KeyValueStore σ] in
theorem new_isShaped (history : History σ) (supply : Supply)
    (maxAttempts : UInt32) : (new history supply maxAttempts).IsShaped :=
  ⟨by simp [new], by simp [new], by simp [new], by simp [new]⟩

/-! ## What a turn can be -/

/-- The turn in which a stage begins and its call is dispatched. -/
def dispatch (pipeline : Pipeline σ) (run : Run) (token : TokenId)
    (input : StageInput) : Turn σ where
  pipeline := { pipeline with
    run := some (run.begun input.stage)
    awaited := some ⟨input.stage, token⟩ }
  effects := [.announce (.stageStarted run.id input.stage), .dispatch
    { input
      model := pipeline.stageModels.get input.stage
      temperature := run.temperature }]
  result := none

/-- The run that a start makes. -/
def runOf (pipeline : Pipeline σ) (request : RunRequest)
    (registry : ModelRegistry) : Run :=
  Run.new pipeline.supply.nextId.1 request.inputText request.temperature
    request.mode (PerStage.ofFunction fun stage =>
      some ((registry.resolveFor stage.agent request.selections).map
        (·.model)))

/-- The pipeline in which a start makes its run. -/
def prepared (pipeline : Pipeline σ) (request : RunRequest)
    (registry : ModelRegistry) : Pipeline σ :=
  { pipeline with
    cancellation := pipeline.cancellation.issue.1
    supply := pipeline.supply.nextId.2
    stageModels := PerStage.ofFunction fun stage =>
      registry.resolveFor stage.agent request.selections }

/-- Something happens that has no effect to be noticed. -/
inductive Passes (pipeline : Pipeline σ) : Happening σ → Pipeline σ → Prop
  | busy {operation : Occurrence} {call : AwaitedCall}
      (waiting : pipeline.awaited = some call)
      (isOperation : operation.isOperation = true) :
      pipeline.Passes (.occurrence operation) pipeline
  | fire (reason : String) :
      pipeline.Passes (.occurrence (.fire reason))
        (pipeline.withTokens (pipeline.cancellation.cancel reason))
  | notice
      (isOpen : ∀ call, pipeline.awaited = some call →
        pipeline.cancellation.reason? call.token = none) :
      pipeline.Passes (.occurrence .notice) pipeline
  | reply {outcome : Except ServiceError Json} {milliseconds : UInt64}
      (free : pipeline.awaited = none) :
      pipeline.Passes (.occurrence (.reply outcome milliseconds)) pipeline
  | nothingPending (free : pipeline.awaited = none)
      (nothing : pipeline.cancellation.pending? = none ∨
        pipeline.isBusy = false) :
      pipeline.Passes (.occurrence .settlePendingCancel) pipeline
  | discard (free : pipeline.awaited = none) :
      pipeline.Passes (.occurrence .discard) pipeline.discard.2
  | issue :
      pipeline.Passes .issue
        (pipeline.withTokens pipeline.cancellation.issue.1)
  | abandon : pipeline.Passes .abandon pipeline.abandon
  | exchangeHistory (history : History σ) :
      pipeline.Passes (.exchangeHistory history) { pipeline with history }

/-- Why an operation is refused. -/
inductive Refuses (pipeline : Pipeline σ) : Occurrence → PipelineError → Prop
  | blank {request : RunRequest} {registry : ModelRegistry}
      (blank : Text.isBlankText request.inputText = true) :
      pipeline.Refuses (.start request registry) .emptyInput
  | busy {request : RunRequest} {registry : ModelRegistry}
      (busy : pipeline.isBusy = true) :
      pipeline.Refuses (.start request registry) .runInProgress
  | offline {request : RunRequest} {registry : ModelRegistry}
      {reason : String}
      (unreachable : registry.connectivity = .unreachable reason) :
      pipeline.Refuses (.start request registry) (.offline reason)
  | unresolved {request : RunRequest} {registry : ModelRegistry}
      (unresolved : registry.resolveFor Stage.parse.agent request.selections =
        none) :
      pipeline.Refuses (.start request registry) .noModel
  | nothingToContinue (noRun : pipeline.run = none) :
      pipeline.Refuses .continueRun .noActiveRun
  | notPaused {run : Run} (current : pipeline.run = some run)
      (notPaused : run.status ≠ .pausedAtCheckpoint) :
      pipeline.Refuses .continueRun .notAtCheckpoint
  | nothingToRegenerate (noRun : pipeline.run = none) :
      pipeline.Refuses .regenerate .noActiveRun
  | notFailed {run : Run} (current : pipeline.run = some run)
      (notFailed : run.status = .completed →
        run.validationFailure = none) (part : String) :
      pipeline.Refuses .regenerate (.contextMissing part)
  | exhausted {run : Run} (current : pipeline.run = some run)
      (exhausted : pipeline.maxAttempts ≤ run.attempt) :
      pipeline.Refuses .regenerate (.attemptsExhausted pipeline.maxAttempts)
  | nothingToCancel {reason : String} (notBusy : pipeline.isBusy = false) :
      pipeline.Refuses (.cancelWith reason) .noActiveRun

/-- A call is dispatched for a run: in which pipeline, under which token, with
which input and after which events. -/
inductive Dispatches (pipeline : Pipeline σ) :
    Happening σ → Pipeline σ → Run → TokenId → StageInput → List Event → Prop
  | start {request : RunRequest} {registry : ModelRegistry}
      (free : pipeline.awaited = none)
      (notBlank : Text.isBlankText request.inputText = false)
      (notBusy : pipeline.isBusy = false)
      (online : registry.connectivity = .online)
      (resolved :
        (registry.resolveFor Stage.parse.agent request.selections).isSome) :
      pipeline.Dispatches (.occurrence (.start request registry))
        (pipeline.prepared request registry)
        (pipeline.runOf request registry) pipeline.cancellation.issue.2
        (.parse request.inputText)
        [.runStarted pipeline.supply.nextId.1 1]
  | continueRun {run : Run} {token : TokenId} {parsed reasoning : Json}
      (free : pipeline.awaited = none) (current : pipeline.run = some run)
      (rests : run.Reaches 2 .idle .idle) (noError : run.error = none)
      (paused : run.status = .pausedAtCheckpoint)
      (hasToken : pipeline.cancellation.current? = some token)
      (isOpen : pipeline.cancellation.pending? = none)
      (parse : run.outputs.parse = some parsed)
      (reason : run.outputs.reason = some reasoning) :
      pipeline.Dispatches (.occurrence .continueRun) pipeline
        { run with status := .running } token
        (.generate parsed reasoning run.inputText run.attempt none none) []
  | regenerate {run : Run} {parsed reasoning previous verdict : Json}
      (free : pipeline.awaited = none) (current : pipeline.run = some run)
      (rests : run.Reaches 4 .idle .idle) (completed : run.status = .completed)
      (parse : run.outputs.parse = some parsed)
      (reason : run.outputs.reason = some reasoning)
      (generate : run.outputs.generate = some previous)
      (validate : run.outputs.validate = some verdict)
      (isFailure : (ValidationSummary.ofOutput verdict).isFailure = true)
      (left : run.attempt < pipeline.maxAttempts) :
      pipeline.Dispatches (.occurrence .regenerate)
        (pipeline.withTokens pipeline.cancellation.issue.1)
        run.startAttempt.1 pipeline.cancellation.issue.2
        (.generate parsed reasoning run.inputText (run.attempt + 1)
          (some previous)
          (some (ValidationSummary.ofOutput verdict).errors))
        [.runStarted run.id (run.attempt + 1)]
  | reply {call : AwaitedCall} {run : Run} {output : Json}
      {milliseconds : UInt64} {input : StageInput}
      (waiting : pipeline.awaited = some call)
      (current : pipeline.run = some run)
      (underway : run.IsUnderway call.stage)
      (isOpen : pipeline.cancellation.reason? call.token = none)
      (follows : run.Follows output call.stage input) :
      pipeline.Dispatches (.occurrence (.reply (.ok output) milliseconds))
        pipeline (run.finished call.stage output milliseconds) call.token
        input [.stageCompleted run.id call.stage milliseconds]

/-- Something happens that cancels the current run, and what becomes of the
tokens. -/
inductive Stops (pipeline : Pipeline σ) :
    Happening σ → CancelGroup → String → Prop
  | cancelWith {reason : String} (free : pipeline.awaited = none) :
      pipeline.Stops (.occurrence (.cancelWith reason))
        (pipeline.cancellation.cancel reason) reason
  | pending {reason : String} (free : pipeline.awaited = none)
      (pending : pipeline.cancellation.pending? = some reason) :
      pipeline.Stops (.occurrence .settlePendingCancel)
        pipeline.cancellation reason
  | continueRun {reason : String} (free : pipeline.awaited = none)
      (pending : pipeline.cancellation.pending? = some reason) :
      pipeline.Stops (.occurrence .continueRun) pipeline.cancellation reason
  | notice {call : AwaitedCall} {reason : String}
      (waiting : pipeline.awaited = some call)
      (cancelled : pipeline.cancellation.reason? call.token = some reason) :
      pipeline.Stops (.occurrence .notice) pipeline.cancellation reason
  | reply {call : AwaitedCall} {reason : String}
      {outcome : Except ServiceError Json} {milliseconds : UInt64}
      (waiting : pipeline.awaited = some call)
      (cancelled : pipeline.cancellation.reason? call.token = some reason) :
      pipeline.Stops (.occurrence (.reply outcome milliseconds))
        pipeline.cancellation reason

/-- The operation ends with the run at rest: with which tokens, in which state
of the run, after which events and with which result. -/
inductive Concludes (pipeline : Pipeline σ) :
    Happening σ → CancelGroup → Run → List Event →
      Except PipelineError Run → Prop
  | cancel {happening : Happening σ} {tokens : CancelGroup} {run : Run}
      {reason : String} {done : Nat} {front : StageState}
      (current : pipeline.run = some run)
      (reaches : run.Reaches done front .idle) (isStage : done < 4)
      (isOpen : front = .idle ∨ front = .processing)
      (stops : pipeline.Stops happening tokens reason) :
      pipeline.Concludes happening tokens (run.cancel reason).1
        (run.cancel reason).2 (.ok (run.cancel reason).1)
  | fail {call : AwaitedCall} {run : Run} {error : ServiceError}
      {milliseconds : UInt64} {failure : PipelineError}
      (waiting : pipeline.awaited = some call)
      (current : pipeline.run = some run)
      (underway : run.IsUnderway call.stage)
      (isOpen : pipeline.cancellation.reason? call.token = none)
      (isFailure : failure = .stage call.stage error.message) :
      pipeline.Concludes (.occurrence (.reply (.error error) milliseconds))
        pipeline.cancellation
        ((run.broken call.stage milliseconds).fail failure.message).1
        [.stageFailed run.id call.stage error.message,
          .runFailed run.id failure.message]
        (.error failure)
  | pause {call : AwaitedCall} {run paused : Run} {output : Json}
      {milliseconds : UInt64}
      (waiting : pipeline.awaited = some call)
      (current : pipeline.run = some run)
      (underway : run.IsUnderway call.stage)
      (isOpen : pipeline.cancellation.reason? call.token = none)
      (isReason : call.stage = .reason) (manual : run.mode = .manual)
      (isPaused : paused =
        (run.finished .reason output milliseconds).pauseAtCheckpoint.1) :
      pipeline.Concludes (.occurrence (.reply (.ok output) milliseconds))
        pipeline.cancellation paused
        [.stageCompleted run.id .reason milliseconds,
          .checkpointReached run.id]
        (.ok paused)
  | complete {call : AwaitedCall} {run completed : Run} {output : Json}
      {milliseconds : UInt64}
      (waiting : pipeline.awaited = some call)
      (current : pipeline.run = some run)
      (underway : run.IsUnderway call.stage)
      (isOpen : pipeline.cancellation.reason? call.token = none)
      (isValidate : call.stage = .validate)
      (isCompleted : completed =
        (run.finished .validate output milliseconds).complete.1) :
      pipeline.Concludes (.occurrence (.reply (.ok output) milliseconds))
        pipeline.cancellation completed
        [.stageCompleted run.id .validate milliseconds,
          .runCompleted run.id run.attempt
            (ValidationSummary.ofOutput output).valid]
        (.ok completed)

/-- The turn that a pipeline takes when something happens. -/
inductive Takes (pipeline : Pipeline σ) : Happening σ → Turn σ → Prop
  | pass {happening : Happening σ} {next : Pipeline σ}
      (passes : pipeline.Passes happening next) :
      pipeline.Takes happening next.idle
  | refuse {operation : Occurrence} {error : PipelineError}
      (free : pipeline.awaited = none)
      (refuses : pipeline.Refuses operation error) :
      pipeline.Takes (.occurrence operation) (pipeline.refuse error)
  | dispatch {happening : Happening σ} {base : Pipeline σ} {run : Run}
      {token : TokenId} {input : StageInput} {events : List Event}
      (dispatches : pipeline.Dispatches happening base run token input
        events) :
      pipeline.Takes happening
        ((base.dispatch run token input).afterEvents events)
  | conclude {happening : Happening σ} {tokens : CancelGroup} {run : Run}
      {events : List Event} {result : Except PipelineError Run}
      (concludes : pipeline.Concludes happening tokens run events result) :
      pipeline.Takes happening
        (((pipeline.withTokens tokens).conclude run result).afterEvents
          events)

/-! ## The parts of a drive -/

theorem callStage_eq_dispatch
    (pipeline : Pipeline σ) {token : TokenId} {run : Run}
    {input : StageInput}
    (isOpen : pipeline.cancellation.reason? token = none)
    (ready : run.IsReady input.stage.index) :
    pipeline.callStage run token input =
      pipeline.dispatch run token input :=
  callStage_of_open isOpen ready

/-- Behind a stage that ended with an output a drive without a pause goes on
to the next one. -/
theorem proceed_eq_dispatch
    {pipeline : Pipeline σ} {run : Run} {token : TokenId} {stage : Stage}
    {output : Json} {input : StageInput}
    (isOpen : pipeline.cancellation.reason? token = none)
    (underway : run.IsUnderway stage) (milliseconds : UInt64)
    (follows : run.Follows output stage input) :
    pipeline.proceed (run.finished stage output milliseconds) token stage
        output =
      pipeline.dispatch (run.finished stage output milliseconds) token
        input := by
  have ready := Run.finished_isReady underway output milliseconds
  rw [← follows.stage] at ready
  cases follows with
  | reason => exact callStage_eq_dispatch _ isOpen ready
  | generate auto parse =>
      have mode :
          (run.finished .reason output milliseconds).mode = .auto := auto
      have parsed : (run.finished .reason output milliseconds).outputs.parse =
          some _ := parse
      have reasoning : (run.finished .reason output
          milliseconds).outputs.reason = some output := rfl
      simp only [proceed, mode, generate, parsed, reasoning]
      exact callStage_eq_dispatch _ isOpen ready
  | validate => exact callStage_eq_dispatch _ isOpen ready

/-! ## The context of a further attempt -/

theorem regenerationContext_of_validated
    {run : Run} (notBlank : Text.isBlankText run.inputText = false)
    {parsed reasoning previous : Json}
    (parse : run.outputs.parse = some parsed)
    (reason : run.outputs.reason = some reasoning)
    (generate : run.outputs.generate = some previous)
    (validated : run.states.validate = .completed) :
    regenerationContext run = match run.validationFailure with
      | none => .error (.contextMissing "validation errors")
      | some failure => .ok ⟨previous, failure.errors⟩ := by
  cases failure : run.validationFailure with
  | none | some =>
      simp only [regenerationContext, notBlank, Bool.false_eq_true, if_false,
        parse, reason, generate, validated, if_true, Option.isNone_some,
        failure]

theorem regenerationContext_of_not_validated
    {run : Run} (notBlank : Text.isBlankText run.inputText = false)
    (notValidated : run.states.validate ≠ .completed) :
    ∃ part, regenerationContext run = .error (.contextMissing part) := by
  simp only [regenerationContext, notBlank, Bool.false_eq_true, if_false,
    notValidated]
  split
  · exact ⟨_, rfl⟩
  split
  · exact ⟨_, rfl⟩
  split
  · exact ⟨_, rfl⟩
  · exact ⟨_, rfl⟩

end Pipeline

namespace Run

/-- Only a completed run has completed its validation, also while it is in the
middle of a stage. -/
theorem Stands.completed_of_validated
    {run : Run} (stands : run.Stands)
    (validated : run.states.validate = .completed) :
    run.Reaches 4 .idle .idle ∧ run.status = .completed := by
  rcases stands with rests | ⟨stage, underway⟩
  · exact rests.completed_of_validated validated
  · have state := underway.reaches.states .validate
    rw [PerStage.get, validated] at state
    cases stage <;> simp [Stage.index] at state

theorem Rests.of_completed
    {run : Run} (rests : run.Rests) (completed : run.status = .completed) :
    run.Reaches 4 .idle .idle := by
  cases rests with
  | completed reaches => exact reaches
  | paused _ status | failed _ _ status | cancelled _ _ _ status =>
      rw [completed] at status
      cases status

theorem Stands.of_completed
    {run : Run} (stands : run.Stands) (completed : run.status = .completed) :
    run.Reaches 4 .idle .idle := by
  rcases stands with rests | ⟨stage, underway⟩
  · exact rests.of_completed completed
  · have running := underway.running
    rw [completed] at running
    cases running

/-- A live run is in the middle of a stage or paused behind the reason
stage. -/
theorem Stands.of_isLive
    {run : Run} (stands : run.Stands) (isLive : run.isLive = true) :
    (∃ stage, run.IsUnderway stage) ∨
      run.Reaches 2 .idle .idle ∧ run.status = .pausedAtCheckpoint ∧
        run.error = none := by
  rcases stands with rests | underway
  · exact .inr (rests.paused_of_isLive isLive)
  · exact .inl underway

theorem Stands.of_paused
    {run : Run} (stands : run.Stands)
    (paused : run.status = .pausedAtCheckpoint) :
    run.Reaches 2 .idle .idle ∧ run.error = none := by
  rcases stands with rests | ⟨stage, underway⟩
  · have isLive : run.isLive = true := by
      simp [isLive, paused, RunStatus.isTerminal]
    obtain ⟨reaches, _, noError⟩ := rests.paused_of_isLive isLive
    exact ⟨reaches, noError⟩
  · have running := underway.running
    rw [paused] at running
    cases running

theorem validationFailure_eq_some
    {run : Run} {verdict : Json}
    (validate : run.outputs.validate = some verdict)
    {summary : ValidationSummary} :
    run.validationFailure = some summary ↔
      summary = ValidationSummary.ofOutput verdict ∧
        summary.isFailure = true := by
  simp only [validationFailure, validate, Option.map_some,
    Option.filter_eq_some_iff, Option.some.injEq]
  constructor
  · rintro ⟨rfl, isFailure⟩
    exact ⟨rfl, isFailure⟩
  · rintro ⟨rfl, isFailure⟩
    exact ⟨rfl, isFailure⟩

theorem Reaches.output
    {run : Run} {done : Nat} {front behind : StageState}
    (reaches : run.Reaches done front behind) (stage : Stage)
    (before : stage.index < done) :
    ∃ output, run.outputs.get stage = some output :=
  Option.isSome_iff_exists.mp
    ((reaches.outputs stage).mpr (reaches.completed_of_before before))

end Run

namespace Pipeline

variable {σ : Type} [KeyValueStore σ]

/-! ## The turn of each operation -/

theorem start_takes
    {pipeline : Pipeline σ} (free : pipeline.awaited = none)
    (request : RunRequest) (registry : ModelRegistry) :
    pipeline.Takes (.occurrence (.start request registry))
      (pipeline.start request registry) := by
  unfold start
  split
  next blank => exact .refuse free (.blank blank)
  next notBlank =>
  split
  next busy => exact .refuse free (.busy busy)
  next notBusy =>
  split
  next unreachable => exact .refuse free (.offline unreachable)
  next online =>
  dsimp only
  split
  next unresolved => exact .refuse free (.unresolved unresolved)
  next config resolved =>
    have isResolved : (registry.resolveFor Stage.parse.agent
        request.selections).isSome := Option.isSome_of_eq_some resolved
    have turn := Takes.dispatch (Dispatches.start free
      (by simpa using notBlank) (by simpa using notBusy) online isResolved)
    simp only [PerStage.get_ofFunction]
    rw [callStage_eq_dispatch _ (CancelGroup.reason?_issue _)
      (Run.new_isReady ..)]
    exact turn

theorem continueRun_takes
    {pipeline : Pipeline σ} (shaped : pipeline.IsShaped)
    (free : pipeline.awaited = none) :
    pipeline.Takes (.occurrence .continueRun) pipeline.continueRun := by
  unfold continueRun
  split
  next noRun => exact .refuse free (.nothingToContinue noRun)
  next run current =>
  split
  next paused =>
    obtain ⟨reaches, noError⟩ := (shaped.stands run current).of_paused paused
    obtain ⟨token, hasToken⟩ := Option.isSome_iff_exists.mp
      (shaped.hasToken (by simp [current]))
    have ready : ({ run with status := .running } : Run).IsReady 2 :=
      ⟨⟨reaches.states, reaches.outputs, reaches.durations⟩, rfl, noError⟩
    simp only [hasToken]
    cases pending : pipeline.cancellation.pending? with
    | some reason =>
        have cancelled :
            pipeline.cancellation.reason? token = some reason := by
          rw [CancelGroup.reason?_eq_pending? hasToken, pending]
        have turn := Takes.conclude (Concludes.cancel current reaches
          (by decide) (.inl rfl) (.continueRun free pending))
        rw [generate_of_cancelled ready
          { pipeline with run := some _ } cancelled]
        -- cancelling forgets the status that the run had
        exact turn
    | none =>
        have isOpen : pipeline.cancellation.reason? token = none := by
          rw [CancelGroup.reason?_eq_pending? hasToken, pending]
        obtain ⟨parsed, reasoning, parse, reason, called⟩ :=
          generate_eq_callStage ready
            { pipeline with run := some _ } token none
        have turn := Takes.dispatch (Dispatches.continueRun free current
          reaches noError paused hasToken pending parse reason)
        rw [called,
          callStage_eq_dispatch { pipeline with run := some _ } isOpen ready]
        exact turn
  next notPaused => exact .refuse free (.notPaused current notPaused)

theorem regenerate_takes
    {pipeline : Pipeline σ} (shaped : pipeline.IsShaped)
    (free : pipeline.awaited = none) :
    pipeline.Takes (.occurrence .regenerate) pipeline.regenerate := by
  unfold regenerate
  split
  next noRun => exact .refuse free (.nothingToRegenerate noRun)
  next run current =>
  have stands := shaped.stands run current
  have notBlank := shaped.notBlank run current
  by_cases validated : run.states.validate = .completed
  · obtain ⟨reaches, completed⟩ := stands.completed_of_validated validated
    obtain ⟨parsed, parse⟩ := reaches.output .parse (by decide)
    obtain ⟨reasoning, reason⟩ := reaches.output .reason (by decide)
    obtain ⟨previous, generate⟩ :=
      reaches.output .generate (by decide)
    obtain ⟨verdict, validate⟩ :=
      reaches.output .validate (by decide)
    -- The guard against live runs stands behind the check of the context, and
    -- a run that passes this check is completed.
    have notLive : run.isLive = false := by
      simp [Run.isLive, completed, RunStatus.isTerminal]
    rw [regenerationContext_of_validated notBlank parse reason generate
      validated]
    cases failure : run.validationFailure with
    | none => exact .refuse free (.notFailed current (fun _ => failure) _)
    | some summary =>
        simp only [notLive, Bool.false_eq_true, if_false]
        split
        next exhausted => exact .refuse free (.exhausted current exhausted)
        next left =>
          obtain ⟨rfl, isFailure⟩ :=
            (Run.validationFailure_eq_some validate).mp failure
          have turn := Takes.dispatch (Dispatches.regenerate free current
            reaches completed parse reason generate validate isFailure
            (UInt32.not_le.mp left))
          obtain ⟨_, _, parse', reason', called⟩ := generate_eq_callStage
            (Run.startAttempt_isReady reaches)
            { pipeline with
              cancellation := pipeline.cancellation.issue.1
              run := some run.startAttempt.1 }
            pipeline.cancellation.issue.2
            (some ⟨previous, (ValidationSummary.ofOutput verdict).errors⟩)
          obtain rfl := Option.some.inj (parse'.symm.trans parse)
          obtain rfl := Option.some.inj (reason'.symm.trans reason)
          rw [called, callStage_eq_dispatch _ (CancelGroup.reason?_issue _)
            (Run.startAttempt_isReady reaches)]
          exact turn
  · obtain ⟨part, lacks⟩ :=
      regenerationContext_of_not_validated notBlank validated
    rw [lacks]
    refine .refuse free (.notFailed current ?_ part)
    intro completed
    have reaches := stands.of_completed completed
    have inside : Stage.validate.index < 4 := by decide
    exact absurd (reaches.completed_of_before inside) validated

omit [KeyValueStore σ] in
/-- A live run may be cancelled, whether or not it is in the middle of a
stage. -/
theorem concludes_cancel
    {pipeline : Pipeline σ} (shaped : pipeline.IsShaped) {run : Run}
    (current : pipeline.run = some run) (isLive : run.isLive = true)
    {happening : Happening σ} {tokens : CancelGroup} {reason : String}
    (stops : pipeline.Stops happening tokens reason) :
    pipeline.Concludes happening tokens (run.cancel reason).1
      (run.cancel reason).2 (.ok (run.cancel reason).1) := by
  rcases (shaped.stands run current).of_isLive isLive with
    ⟨stage, underway⟩ | ⟨reaches, _⟩
  · exact .cancel current underway.reaches stage.index_lt (.inr rfl) stops
  · exact .cancel current reaches (by decide) (.inl rfl) stops

theorem cancelWith_takes
    {pipeline : Pipeline σ} (shaped : pipeline.IsShaped)
    (free : pipeline.awaited = none) (reason : String) :
    pipeline.Takes (.occurrence (.cancelWith reason))
      (pipeline.cancelWith reason) := by
  unfold cancelWith
  split
  next noRun =>
    exact .refuse free (.nothingToCancel (by simp [isBusy, noRun]))
  next run current =>
  split
  next isLive =>
    exact .conclude (concludes_cancel shaped current isLive (.cancelWith free))
  next notLive =>
    exact .refuse free (.nothingToCancel (by simpa [isBusy, current] using
      notLive))

theorem settlePendingCancel_takes
    {pipeline : Pipeline σ} (shaped : pipeline.IsShaped)
    (free : pipeline.awaited = none) :
    pipeline.Takes (.occurrence .settlePendingCancel)
      (pipeline.settlePendingCancel.getD pipeline.idle) := by
  unfold settlePendingCancel
  split
  next reason run pending current =>
    split
    next isLive =>
      exact .conclude
        (concludes_cancel shaped current isLive (.pending free pending))
    next notLive =>
      exact .pass (.nothingPending free (.inr (by simpa [isBusy, current]
        using notLive)))
  next noMatch =>
    refine .pass (.nothingPending free ?_)
    cases pending : pipeline.cancellation.pending? with
    | none => exact .inl rfl
    | some reason =>
        cases current : pipeline.run with
        | none => exact .inr (by simp [isBusy, current])
        | some run => exact absurd current (noMatch reason run pending)

theorem notice_takes
    {pipeline : Pipeline σ} (shaped : pipeline.IsShaped) :
    pipeline.Takes (.occurrence .notice) pipeline.notice := by
  cases waiting : pipeline.awaited with
  | none =>
      have idle : pipeline.notice = pipeline.idle := by simp [notice, waiting]
      rw [idle]
      exact .pass (.notice (by simp [waiting]))
  | some call =>
      obtain ⟨run, current, underway⟩ := shaped.waits call waiting
      simp only [notice, waiting, current]
      split
      next reason cancelled =>
        exact .conclude (concludes_cancel shaped current underway.isLive
          (.notice waiting cancelled))
      next isOpen =>
        refine .pass (.notice ?_)
        intro other sameCall
        obtain rfl := Option.some.inj (waiting.symm.trans sameCall)
        exact isOpen

/-- An answer that counts leads to the next call or to the end of the
operation. -/
theorem settleCall_takes
    {pipeline : Pipeline σ} {call : AwaitedCall} {run : Run}
    (waiting : pipeline.awaited = some call)
    (current : pipeline.run = some run)
    (underway : run.IsUnderway call.stage)
    (isOpen : pipeline.cancellation.reason? call.token = none)
    (outcome : Except ServiceError Json) (milliseconds : UInt64) :
    pipeline.Takes (.occurrence (.reply outcome milliseconds))
      (pipeline.settleCall run call outcome milliseconds) := by
  cases outcome with
  | error error =>
      rw [settleCall_error underway]
      exact .conclude (.fail waiting current underway isOpen rfl)
  | ok output =>
      have goesOn : ∀ input, run.Follows output call.stage input →
          pipeline.Takes (.occurrence (.reply (.ok output) milliseconds))
            (pipeline.settleCall run call (.ok output) milliseconds) := by
        intro input follows
        rw [settleCall_ok underway,
          proceed_eq_dispatch isOpen underway milliseconds follows]
        exact .dispatch (.reply waiting current underway isOpen follows)
      have ends : ∀ last : Run, ∀ events, pipeline.Concludes
            (.occurrence (.reply (.ok output) milliseconds))
            pipeline.cancellation last events (.ok last) →
          pipeline.settleCall run call (.ok output) milliseconds =
            (pipeline.conclude last (.ok last)).afterEvents events →
          pipeline.Takes (.occurrence (.reply (.ok output) milliseconds))
            (pipeline.settleCall run call (.ok output) milliseconds) := by
        intro last events concludes same
        rw [same]
        exact .conclude concludes
      cases atStage : call.stage with
      | parse =>
          apply goesOn (.reason output run.inputText)
          rw [atStage]
          exact .reason
      | generate =>
          apply goesOn (.validate output)
          rw [atStage]
          exact .validate
      | validate =>
          refine ends _ _
            (.complete waiting current underway isOpen atStage rfl) ?_
          rw [settleCall_ok underway, atStage]
          rfl
      | reason =>
          cases mode : run.mode with
          | auto =>
              obtain ⟨parsed, parse⟩ := underway.reaches.output
                .parse (by rw [atStage]; decide)
              apply goesOn (.generate parsed output run.inputText run.attempt
                none none)
              rw [atStage]
              exact .generate mode parse
          | manual =>
              refine ends _ _
                (.pause waiting current underway isOpen atStage mode rfl) ?_
              have manual : (run.finished .reason output milliseconds).mode =
                  .manual := mode
              rw [settleCall_ok underway, atStage]
              simp only [proceed, manual]
              rfl

theorem reply_takes
    {pipeline : Pipeline σ} (shaped : pipeline.IsShaped)
    (outcome : Except ServiceError Json) (milliseconds : UInt64) :
    pipeline.Takes (.occurrence (.reply outcome milliseconds))
      (pipeline.reply outcome milliseconds) := by
  cases waiting : pipeline.awaited with
  | none =>
      have idle : pipeline.reply outcome milliseconds = pipeline.idle := by
        simp [reply, waiting]
      rw [idle]
      exact .pass (.reply waiting)
  | some call =>
      obtain ⟨run, current, underway⟩ := shaped.waits call waiting
      simp only [reply, waiting, current]
      split
      next reason cancelled =>
        exact .conclude (concludes_cancel shaped current underway.isLive
          (.reply waiting cancelled))
      next isOpen =>
        exact settleCall_takes waiting current underway isOpen outcome
          milliseconds

/-- Whatever happens to a pipeline, it takes one of the turns described. -/
theorem takes_happen
    {pipeline : Pipeline σ} (shaped : pipeline.IsShaped)
    (happening : Happening σ) :
    pipeline.Takes happening (pipeline.happen happening) := by
  cases happening with
  | issue => exact .pass .issue
  | abandon => exact .pass .abandon
  | exchangeHistory history => exact .pass (.exchangeHistory history)
  | occurrence occurrence =>
      cases waiting : pipeline.awaited with
      | some call =>
          cases occurrence with
          | fire reason => exact .pass (.fire reason)
          | notice => exact notice_takes shaped
          | reply outcome milliseconds =>
              exact reply_takes shaped outcome milliseconds
          | _ =>
              simp only [happen, occur, whenFree_of_waiting waiting]
              exact .pass (.busy waiting rfl)
      | none =>
          cases occurrence with
          | fire reason => exact .pass (.fire reason)
          | notice => exact notice_takes shaped
          | reply outcome milliseconds =>
              exact reply_takes shaped outcome milliseconds
          | start request registry =>
              simp only [happen, occur, whenFree_of_free waiting]
              exact start_takes waiting request registry
          | continueRun =>
              simp only [happen, occur, whenFree_of_free waiting]
              exact continueRun_takes shaped waiting
          | regenerate =>
              simp only [happen, occur, whenFree_of_free waiting]
              exact regenerate_takes shaped waiting
          | cancelWith reason =>
              simp only [happen, occur, whenFree_of_free waiting]
              exact cancelWith_takes shaped waiting reason
          | settlePendingCancel =>
              simp only [happen, occur, whenFree_of_free waiting]
              exact settlePendingCancel_takes shaped waiting
          | discard =>
              simp only [happen, occur, whenFree_of_free waiting]
              exact .pass (.discard waiting)

/-! ## The shape of the run is kept -/

omit [KeyValueStore σ] in
theorem Dispatches.isReady
    {pipeline base : Pipeline σ} {happening : Happening σ} {run : Run}
    {token : TokenId} {input : StageInput} {events : List Event}
    (dispatches : pipeline.Dispatches happening base run token input
      events) : run.IsReady input.stage.index := by
  cases dispatches with
  | start => exact Run.new_isReady ..
  | continueRun _ _ rests noError =>
      exact ⟨⟨rests.states, rests.outputs, rests.durations⟩, rfl, noError⟩
  | regenerate _ _ rests => exact Run.startAttempt_isReady rests
  | reply _ _ underway _ follows =>
      rw [follows.stage]
      exact Run.finished_isReady underway _ _

omit [KeyValueStore σ] in
theorem Concludes.rests
    {pipeline : Pipeline σ} {happening : Happening σ} {tokens : CancelGroup}
    {run : Run} {events : List Event} {result : Except PipelineError Run}
    (concludes : pipeline.Concludes happening tokens run events result) :
    run.Rests := by
  cases concludes with
  | cancel _ reaches isStage isOpen =>
      exact Run.cancel_rests reaches isStage isOpen _
  | fail _ _ underway =>
      exact Run.fail_rests (Run.broken_reaches underway _) _
  | @pause call run _ _ _ _ _ underway _ isReason _ isPaused =>
      rw [isReason] at underway
      rw [isPaused]
      exact Run.pauseAtCheckpoint_rests (Run.finished_isReady underway _ _)
  | @complete call run _ _ _ _ _ underway _ isValidate isCompleted =>
      rw [isValidate] at underway
      rw [isCompleted]
      exact Run.complete_rests (Run.finished_isReady underway _ _)

omit [KeyValueStore σ] in
theorem Dispatches.notBlank
    {pipeline base : Pipeline σ} (shaped : pipeline.IsShaped)
    {happening : Happening σ} {run : Run} {token : TokenId}
    {input : StageInput} {events : List Event}
    (dispatches : pipeline.Dispatches happening base run token input
      events) : Text.isBlankText run.inputText = false := by
  cases dispatches with
  | start _ notBlank => exact notBlank
  | continueRun _ current | regenerate _ current | reply _ current =>
      have notBlank := shaped.notBlank _ current
      exact notBlank

omit [KeyValueStore σ] in
theorem Dispatches.hasToken
    {pipeline base : Pipeline σ} (shaped : pipeline.IsShaped)
    {happening : Happening σ} {run : Run} {token : TokenId}
    {input : StageInput} {events : List Event}
    (dispatches : pipeline.Dispatches happening base run token input
      events) : base.cancellation.current?.isSome := by
  cases dispatches with
  | start => exact Option.isSome_of_eq_some (CancelGroup.current?_issue _)
  | continueRun _ _ _ _ _ hasToken => exact Option.isSome_of_eq_some hasToken
  | regenerate =>
      exact Option.isSome_of_eq_some (CancelGroup.current?_issue _)
  | reply _ current => exact shaped.hasToken (Option.isSome_of_eq_some current)

omit [KeyValueStore σ] in
theorem Concludes.notBlank
    {pipeline : Pipeline σ} (shaped : pipeline.IsShaped)
    {happening : Happening σ} {tokens : CancelGroup} {run : Run}
    {events : List Event} {result : Except PipelineError Run}
    (concludes : pipeline.Concludes happening tokens run events result) :
    Text.isBlankText run.inputText = false := by
  cases concludes with
  | cancel current | fail _ current =>
      have notBlank := shaped.notBlank _ current
      exact notBlank
  | pause _ current _ _ _ _ isEnd | complete _ current _ _ _ isEnd =>
      have notBlank := shaped.notBlank _ current
      rw [isEnd]
      exact notBlank

omit [KeyValueStore σ] in
theorem Concludes.hasToken
    {pipeline : Pipeline σ} (shaped : pipeline.IsShaped)
    {happening : Happening σ} {tokens : CancelGroup} {run : Run}
    {events : List Event} {result : Except PipelineError Run}
    (concludes : pipeline.Concludes happening tokens run events result) :
    tokens.current?.isSome := by
  cases concludes with
  | cancel current _ _ _ stops =>
      have hasToken := shaped.hasToken (Option.isSome_of_eq_some current)
      cases stops with
      | cancelWith =>
          rw [CancelGroup.current?_cancel]
          exact hasToken
      | _ => exact hasToken
  | fail _ current | pause _ current | complete _ current =>
      exact shaped.hasToken (Option.isSome_of_eq_some current)

omit [KeyValueStore σ] in
theorem Passes.isShaped
    {pipeline next : Pipeline σ} (shaped : pipeline.IsShaped)
    {happening : Happening σ} (passes : pipeline.Passes happening next) :
    next.IsShaped := by
  cases passes with
  | busy | notice | reply | nothingPending => exact shaped
  | fire reason =>
      refine ⟨shaped.stands, shaped.notBlank, shaped.waits, ?_⟩
      intro hasRun
      exact (congrArg Option.isSome (CancelGroup.current?_cancel _ _)).trans
        (shaped.hasToken hasRun)
  | discard free =>
      refine ⟨by simp [Pipeline.discard], by simp [Pipeline.discard], ?_,
        by simp [Pipeline.discard]⟩
      intro call waiting
      simp [Pipeline.discard, free] at waiting
  | issue =>
      refine ⟨shaped.stands, shaped.notBlank, shaped.waits, ?_⟩
      intro _
      exact Option.isSome_of_eq_some (CancelGroup.current?_issue _)
  | abandon =>
      exact ⟨shaped.stands, shaped.notBlank, by simp [Pipeline.abandon],
        shaped.hasToken⟩
  | exchangeHistory =>
      exact ⟨shaped.stands, shaped.notBlank, shaped.waits, shaped.hasToken⟩

theorem Takes.isShaped
    {pipeline : Pipeline σ} (shaped : pipeline.IsShaped)
    {happening : Happening σ} {turn : Turn σ}
    (takes : pipeline.Takes happening turn) : turn.pipeline.IsShaped := by
  cases takes with
  | pass passes => exact passes.isShaped shaped
  | refuse => exact shaped
  | @dispatch _ base run token input events dispatches =>
      have underway := Run.begun_isUnderway dispatches.isReady
      have hasToken := dispatches.hasToken shaped
      refine ⟨?_, ?_, ?_, fun _ => hasToken⟩
      · rintro _ ⟨⟩
        exact .inr ⟨_, underway⟩
      · rintro _ ⟨⟩
        exact dispatches.notBlank shaped
      · rintro _ ⟨⟩
        exact ⟨_, rfl, underway⟩
  | conclude concludes =>
      have hasToken := concludes.hasToken shaped
      refine ⟨?_, ?_, ?_, fun _ => hasToken⟩
      · rintro _ ⟨⟩
        exact .inl concludes.rests
      · rintro _ ⟨⟩
        exact concludes.notBlank shaped
      · rintro _ ⟨⟩

/-- Whatever has happened to a pipeline, it has the shape of one. -/
theorem isShaped_through (history : History σ) (supply : Supply)
    (maxAttempts : UInt32) (happenings : List (Happening σ)) :
    ((new history supply maxAttempts).through happenings).IsShaped :=
  invariant_through IsShaped
    (fun _ happening shaped => (takes_happen shaped happening).isShaped shaped)
    (new_isShaped history supply maxAttempts) happenings

end Pipeline

end AgentPipeline
