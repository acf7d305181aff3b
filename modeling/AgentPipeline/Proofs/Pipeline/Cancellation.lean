import AgentPipeline.Proofs.Pipeline.SpentToken

/-!
# Cancelling through the handle

The handle is fired while a call is waited for, while the run is paused, or
while no run is live.  In the first two cases the run ends cancelled for the
first reason that the handle was fired with; in the last case nothing comes of
it.  Main statement: `honorsCancel_after`.
-/

namespace AgentPipeline

/-- With these an operation that waits goes on. -/
def Occurrence.goesOn : Occurrence → Bool
  | .notice | .reply .. => true
  | _ => false

/-- The operations that move a paused run. -/
def Occurrence.movesPaused : Occurrence → Bool
  | .continueRun | .settlePendingCancel | .cancelWith _ | .discard => true
  | _ => false

/-- The snapshot that an event tells of, with the status of its run. -/
def Event.snapshot? : Event → Option (Uuid × RunStatus)
  | .historyRecorded item status => some (item, status)
  | _ => none

/-- The snapshots that were recorded in a turn. -/
def Turn.recorded {σ : Type} (turn : Turn σ) : List (Uuid × RunStatus) :=
  turn.events.filterMap Event.snapshot?

/-- The turn ends an operation on a run, which is cancelled for a reason.
Nothing but its end is recorded, and nothing more happens for it. -/
structure Turn.EndsCancelled {σ : Type} [KeyValueStore σ] (turn : Turn σ)
    (before : Pipeline σ) (run : Run) (reason : String) (cancelled : Run) :
    Prop where
  result : turn.result = some (.ok cancelled)
  current : turn.pipeline.run = some cancelled
  returned : turn.pipeline.awaited = none
  id : cancelled.id = run.id
  status : cancelled.status = .cancelled
  error : cancelled.error = some reason
  outputs : cancelled.outputs = run.outputs
  durations : cancelled.durations = run.durations
  noError : ∀ stage, cancelled.states.get stage ≠ .error
  requests : turn.requests = []
  recorded : ∃ item : HistoryItem, item.run = cancelled ∧
    turn.pipeline.history.items =
      (item :: before.history.items).take before.history.capacity ∧
    turn.recorded = [(item.id, .cancelled)]
  final : ∀ later, (∀ request registry,
      Occurrence.start request registry ∉ later) →
    (∀ next ∈ turn.pipeline.turns later,
      next.requests = [] ∧ next.recorded = []) ∧
    (turn.pipeline.after later).history = turn.pipeline.history ∧
    ((turn.pipeline.after later).run = some cancelled ∨
      (turn.pipeline.after later).run = none)

namespace Pipeline

variable {σ : Type} [KeyValueStore σ]

/-! ## After the end -/

omit [KeyValueStore σ] in
@[simp]
theorem idle_requests (pipeline : Pipeline σ) : pipeline.idle.requests = [] :=
  rfl

omit [KeyValueStore σ] in
@[simp]
theorem idle_recorded (pipeline : Pipeline σ) : pipeline.idle.recorded = [] :=
  rfl

/-- The cancelled run is all that is left, or it has been discarded too. -/
structure IsOver (cancelled : Run) (history : History σ)
    (pipeline : Pipeline σ) : Prop where
  free : pipeline.awaited = none
  run : pipeline.run = some cancelled ∨ pipeline.run = none
  history : pipeline.history = history

/-- A cancelled run is no base for a further attempt. -/
theorem regenerate_of_isOver
    {cancelled : Run} (rests : cancelled.Rests)
    (status : cancelled.status = .cancelled) {history : History σ}
    {pipeline : Pipeline σ} (isOver : IsOver cancelled history pipeline) :
    ∃ error, pipeline.regenerate = pipeline.refuse error := by
  rcases isOver.run with current | current
  · simp only [regenerate, current]
    split
    next error _ => exact ⟨error, rfl⟩
    next feedback context =>
      obtain ⟨_, completed⟩ := rests.completed_of_validated
        (validated_of_regenerationContext context)
      simp [status] at completed
  · exact ⟨.noActiveRun, by simp [regenerate, current]⟩

/-- Nothing but a start moves a pipeline whose run is over. -/
theorem occur_of_isOver
    {cancelled : Run} (rests : cancelled.Rests)
    (status : cancelled.status = .cancelled) {history : History σ}
    {pipeline : Pipeline σ} (isOver : IsOver cancelled history pipeline)
    {occurrence : Occurrence}
    (notStart : ∀ request registry, occurrence ≠ .start request registry) :
    (pipeline.occur occurrence).requests = [] ∧
      (pipeline.occur occurrence).recorded = [] ∧
      IsOver cancelled history (pipeline.occur occurrence).pipeline := by
  have notLive : cancelled.isLive = false := by
    simp [Run.isLive, status, RunStatus.isTerminal]
  have refused : ∀ error, (pipeline.refuse error).requests = [] ∧
      (pipeline.refuse error).recorded = [] ∧
      IsOver cancelled history (pipeline.refuse error).pipeline :=
    fun _ => ⟨rfl, rfl, isOver⟩
  cases occurrence with
  | start request registry => exact absurd rfl (notStart request registry)
  | continueRun =>
      rw [occur, whenFree_of_free isOver.free]
      rcases isOver.run with current | current
      · simpa [continueRun, current, status] using refused .notAtCheckpoint
      · simpa [continueRun, current] using refused .noActiveRun
  | regenerate =>
      rw [occur, whenFree_of_free isOver.free]
      obtain ⟨error, eq⟩ := regenerate_of_isOver rests status isOver
      rw [eq]
      exact refused error
  | cancelWith reason =>
      rw [occur, whenFree_of_free isOver.free]
      rcases isOver.run with current | current
      · simpa [cancelWith, current, notLive] using refused .noActiveRun
      · simpa [cancelWith, current] using refused .noActiveRun
  | settlePendingCancel =>
      have none : pipeline.settlePendingCancel = none := by
        rcases isOver.run with current | current
        · cases pending : pipeline.cancellation.pending? <;>
            simp [settlePendingCancel, pending, current, notLive]
        · simp [settlePendingCancel, current]
      rw [occur, whenFree_of_free isOver.free, none]
      exact ⟨rfl, rfl, isOver⟩
  | discard =>
      rw [occur, whenFree_of_free isOver.free]
      exact ⟨rfl, rfl, isOver.free, .inr rfl, isOver.history⟩
  | fire reason => exact ⟨rfl, rfl, isOver.free, isOver.run, isOver.history⟩
  | notice =>
      have eq : pipeline.notice = pipeline.idle := by
        simp [notice, isOver.free]
      rw [occur, eq]
      exact ⟨rfl, rfl, isOver⟩
  | reply outcome milliseconds =>
      have eq : pipeline.reply outcome milliseconds = pipeline.idle := by
        simp [reply, isOver.free]
      rw [occur, eq]
      exact ⟨rfl, rfl, isOver⟩

/-- Until a run is started, a run that is over stays so. -/
theorem turns_of_isOver
    {cancelled : Run} (rests : cancelled.Rests)
    (status : cancelled.status = .cancelled) {history : History σ}
    {pipeline : Pipeline σ} (isOver : IsOver cancelled history pipeline)
    {later : List Occurrence}
    (noStart : ∀ request registry,
      Occurrence.start request registry ∉ later) :
    (∀ next ∈ pipeline.turns later,
      next.requests = [] ∧ next.recorded = []) ∧
      IsOver cancelled history (pipeline.after later) := by
  induction later generalizing pipeline with
  | nil => exact ⟨by simp [turns], isOver⟩
  | cons occurrence later ih =>
      have notStart : ∀ request registry,
          occurrence ≠ .start request registry := by
        intro request registry same
        exact noStart request registry (by simp [same])
      obtain ⟨requests, recorded, nextOver⟩ :=
        occur_of_isOver rests status isOver notStart
      obtain ⟨silent, lastOver⟩ := ih nextOver fun request registry isLater =>
        noStart request registry (List.mem_cons_of_mem _ isLater)
      refine ⟨?_, lastOver⟩
      simp only [turns, List.forall_mem_cons]
      exact ⟨⟨requests, recorded⟩, silent⟩

/-! ## The turn that ends the run -/

/-- Cancelling a run leaves no snapshot but that of its end. -/
theorem recorded_concludeCancelled (pipeline : Pipeline σ) (run : Run)
    (reason : String) :
    ∃ item : HistoryItem, item.run = (run.cancel reason).1 ∧
      (pipeline.concludeCancelled run reason).pipeline.history.items =
        (item :: pipeline.history.items).take pipeline.history.capacity ∧
      (pipeline.concludeCancelled run reason).recorded =
        [(item.id, .cancelled)] := by
  refine ⟨⟨_, _, _⟩, rfl, rfl, ?_⟩
  have noSnapshot : (run.cancel reason).2.filterMap Event.snapshot? = [] := by
    simp [Run.cancel, Run.cancelOpenStages, Event.snapshot?]
  rw [Turn.recorded, concludeCancelled, Turn.events_afterEvents,
    List.filterMap_append, noSnapshot]
  rfl

/-- A run whose front stage is open can be ended. -/
theorem endsCancelled_of_sameHistory
    {run : Run} {done : Nat} {front : StageState}
    (reaches : run.Reaches done front .idle) (isStage : done < 4)
    (isOpen : front = .idle ∨ front = .processing)
    {before pipeline : Pipeline σ}
    (sameHistory : pipeline.history = before.history) (reason : String) :
    (pipeline.concludeCancelled run reason).EndsCancelled before run reason
      (run.cancel reason).1 where
  result := rfl
  current := rfl
  returned := rfl
  id := rfl
  status := rfl
  error := rfl
  outputs := rfl
  durations := rfl
  noError := by
    intro stage
    rw [(Run.cancel_reaches reaches isOpen reason).states stage]
    split
    · simp
    · split <;> simp
  requests := requests_concludeCancelled pipeline run reason
  recorded := by
    rw [← sameHistory]
    exact recorded_concludeCancelled pipeline run reason
  final := by
    intro later noStart
    have rests := Run.cancel_rests reaches isStage isOpen reason
    have isOver : IsOver (run.cancel reason).1
        (pipeline.concludeCancelled run reason).pipeline.history
        (pipeline.concludeCancelled run reason).pipeline :=
      ⟨rfl, .inl rfl, rfl⟩
    obtain ⟨silent, last⟩ := turns_of_isOver rests rfl isOver noStart
    exact ⟨silent, last.history, last.run⟩

/-! ## Between firing and the end -/

/-- Since a moment only the tokens have changed, and a reason is pending. -/
def HasFired (before : Pipeline σ) (first : String)
    (pipeline : Pipeline σ) : Prop :=
  ∃ tokens, pipeline = before.withTokens tokens ∧
    tokens.current? = before.cancellation.current? ∧
    tokens.pending? = some first

omit [KeyValueStore σ] in
/-- The first reason counts. -/
theorem hasFired_cancel
    {pipeline : Pipeline σ}
    (hasToken : pipeline.cancellation.current?.isSome) (reason : String) :
    HasFired pipeline (pipeline.cancellation.pending?.getD reason)
      (pipeline.withTokens (pipeline.cancellation.cancel reason)) := by
  refine ⟨_, rfl, CancelGroup.current?_cancel _ _, ?_⟩
  obtain ⟨token, current⟩ := Option.isSome_iff_exists.mp hasToken
  cases pending : pipeline.cancellation.pending? with
  | none =>
      exact CancelGroup.pending?_cancel_of_open reason current pending
  | some first =>
      rw [CancelGroup.cancel_of_pending reason pending]
      exact pending

omit [KeyValueStore σ] in
/-- Firing the handle again changes nothing. -/
theorem HasFired.again
    {before pipeline : Pipeline σ} {first : String}
    (fired : HasFired before first pipeline) (reason : String) :
    HasFired before first
      (pipeline.withTokens (pipeline.cancellation.cancel reason)) := by
  obtain ⟨tokens, rfl, current, pending⟩ := fired
  have same : tokens.cancel reason = tokens :=
    CancelGroup.cancel_of_pending reason pending
  exact ⟨tokens, congrArg before.withTokens same, current, pending⟩

/-- While a call is waited for, what does not let the operation go on leaves
the run alone. -/
theorem HasFired.occur_of_waiting
    {before pipeline : Pipeline σ} {first : String}
    (fired : HasFired before first pipeline) {call : AwaitedCall}
    (waiting : before.awaited = some call) {occurrence : Occurrence}
    (stays : occurrence.goesOn = false) :
    HasFired before first (pipeline.occur occurrence).pipeline := by
  have stillWaiting : pipeline.awaited = some call := by
    obtain ⟨tokens, rfl, _⟩ := fired
    exact waiting
  cases occurrence with
  | fire reason => exact fired.again reason
  | notice => cases stays
  | reply outcome milliseconds => cases stays
  | _ =>
      simp only [occur, whenFree_of_waiting stillWaiting]
      exact fired

/-- While a run is paused, a start and a further attempt are refused. -/
theorem HasFired.occur_of_paused
    {before pipeline : Pipeline σ} {first : String}
    (fired : HasFired before first pipeline) {run : Run}
    (free : before.awaited = none) (current : before.run = some run)
    (rests : run.Rests) (paused : run.status = .pausedAtCheckpoint)
    {occurrence : Occurrence} (stays : occurrence.movesPaused = false) :
    HasFired before first (pipeline.occur occurrence).pipeline := by
  have stillFree : pipeline.awaited = none := by
    obtain ⟨tokens, rfl, _⟩ := fired
    exact free
  have stillCurrent : pipeline.run = some run := by
    obtain ⟨tokens, rfl, _⟩ := fired
    exact current
  cases occurrence with
  | start request registry =>
      have busy : pipeline.isBusy = true := by
        simp [isBusy, stillCurrent, Run.isLive, paused,
          RunStatus.isTerminal]
      rw [occur, whenFree_of_free stillFree]
      simp only [start, busy, if_true]
      split
      · exact fired
      · exact fired
  | regenerate =>
      rw [occur, whenFree_of_free stillFree]
      simp only [regenerate, stillCurrent]
      split
      · exact fired
      next feedback context =>
        obtain ⟨_, completed⟩ := rests.completed_of_validated
          (validated_of_regenerationContext context)
        simp [paused] at completed
  | fire reason => exact fired.again reason
  | notice =>
      have same : pipeline.notice = pipeline.idle := by
        simp [notice, stillFree]
      rw [occur, same]
      exact fired
  | reply outcome milliseconds =>
      have same : pipeline.reply outcome milliseconds = pipeline.idle := by
        simp [reply, stillFree]
      rw [occur, same]
      exact fired
  | continueRun | settlePendingCancel | cancelWith _ | discard => cases stays

/-- What is kept by everything that happens in between holds at the end. -/
private theorem hasFired_after
    {before pipeline : Pipeline σ} {first : String}
    (fired : HasFired before first pipeline) (allowed : Occurrence → Bool)
    (kept : ∀ {pipeline : Pipeline σ} {occurrence},
      HasFired before first pipeline → allowed occurrence = false →
      HasFired before first (pipeline.occur occurrence).pipeline)
    {between : List Occurrence}
    (stay : ∀ occurrence ∈ between, allowed occurrence = false) :
    HasFired before first (pipeline.after between) := by
  induction between generalizing pipeline with
  | nil => exact fired
  | cons occurrence between ih =>
      rw [List.forall_mem_cons] at stay
      exact ih (kept fired stay.1) stay.2

/-! ## The end of a run whose handle was fired -/

/-- The operation that waits goes on to the end of the run. -/
theorem HasFired.goesOn_endsCancelled
    {before pipeline : Pipeline σ} {first : String}
    (fired : HasFired before first pipeline) (sound : before.IsSound)
    {call : AwaitedCall} (waiting : before.awaited = some call) {run : Run}
    (current : before.run = some run) {next : Occurrence}
    (goesOn : next.goesOn = true) :
    (pipeline.occur next).EndsCancelled before run first
      (run.cancel first).1 := by
  obtain ⟨tokens, rfl, sameToken, pending⟩ := fired
  obtain ⟨token, other, same, underway⟩ := sound.waits call waiting
  obtain rfl : run = other := by simpa [current] using same
  have cancelled : tokens.reason? call.token = some first := by
    rw [CancelGroup.reason?_eq_pending? (sameToken.trans token), pending]
  have ends : (before.withTokens tokens).occur next =
      (before.withTokens tokens).concludeCancelled run first := by
    cases next with
    | notice => simp [occur, notice, withTokens, waiting, current, cancelled]
    | reply outcome milliseconds =>
        simp [occur, reply, withTokens, waiting, current, cancelled]
    | _ => cases goesOn
  rw [ends]
  have isStage : call.stage.index < 4 := by cases call.stage <;> decide
  refine endsCancelled_of_sameHistory underway.reaches isStage (.inr rfl)
    ?_ first
  rfl

/-- A paused run ends when it is continued or a pending reason is settled. -/
theorem HasFired.continueRun_endsCancelled
    {before pipeline : Pipeline σ} {first : String}
    (fired : HasFired before first pipeline) (sound : before.IsSound)
    (free : before.awaited = none) {run : Run}
    (current : before.run = some run)
    (paused : run.status = .pausedAtCheckpoint) :
    (pipeline.occur .continueRun).EndsCancelled before run first
      (run.cancel first).1 := by
  obtain ⟨tokens, rfl, sameToken, pending⟩ := fired
  obtain ⟨token, hasToken⟩ := Option.isSome_iff_exists.mp
    (sound.hasToken (by simp [current]))
  have isLive : run.isLive = true := by
    simp [Run.isLive, paused, RunStatus.isTerminal]
  obtain ⟨reaches, _, noError⟩ :=
    (sound.rests free run current).paused_of_isLive isLive
  have ready : ({ run with status := .running } : Run).IsReady 2 :=
    ⟨⟨reaches.states, reaches.outputs, reaches.durations⟩, rfl, noError⟩
  have tokenEq : tokens.current? = some token := sameToken.trans hasToken
  have cancelled : tokens.reason? token = some first := by
    rw [CancelGroup.reason?_eq_pending? tokenEq, pending]
  have stillFree : (before.withTokens tokens).awaited = none := free
  rw [occur, whenFree_of_free stillFree]
  simp only [continueRun, withTokens, current, paused, if_true, tokenEq]
  rw [generate_of_cancelled ready
    { before with cancellation := tokens, run := some _ } cancelled]
  -- the status of a run is lost when it is cancelled
  change (concludeCancelled _ run first).EndsCancelled _ _ _ _
  refine endsCancelled_of_sameHistory reaches (by decide) (.inl rfl) ?_ first
  rfl

theorem HasFired.settlePendingCancel_endsCancelled
    {before pipeline : Pipeline σ} {first : String}
    (fired : HasFired before first pipeline) (sound : before.IsSound)
    (free : before.awaited = none) {run : Run}
    (current : before.run = some run) (isLive : run.isLive = true) :
    (pipeline.occur .settlePendingCancel).EndsCancelled before run first
      (run.cancel first).1 := by
  obtain ⟨tokens, rfl, sameToken, pending⟩ := fired
  obtain ⟨reaches, _, _⟩ :=
    (sound.rests free run current).paused_of_isLive isLive
  have ends : (before.withTokens tokens).occur .settlePendingCancel =
      (before.withTokens tokens).concludeCancelled run first := by
    have stillFree : (before.withTokens tokens).awaited = none := free
    rw [occur, whenFree_of_free stillFree]
    simp [settlePendingCancel, withTokens, pending, current, isLive]
  rw [ends]
  refine endsCancelled_of_sameHistory reaches (by decide) (.inl rfl) ?_ first
  rfl

/-! ## Where a pending reason comes from -/

/-- The turn changes nothing, or leaves no run live, or leaves nothing
pending. -/
def Unfired (before : Pipeline σ) (turn : Turn σ) : Prop :=
  turn.pipeline = before ∨ turn.pipeline.isBusy = false ∨
    turn.pipeline.cancellation.pending? = none

omit [KeyValueStore σ] in
theorem unfired_whenFree
    {before : Pipeline σ} {turn : Turn σ} (unfired : Unfired before turn) :
    Unfired before (before.whenFree turn) := by
  unfold whenFree
  split
  · exact .inl rfl
  · exact unfired

theorem concludeCancelled_isBusy (pipeline : Pipeline σ) (run : Run)
    (reason : String) :
    (pipeline.concludeCancelled run reason).pipeline.isBusy = false := by
  simp [isBusy, Run.isLive, RunStatus.isTerminal]

theorem unfired_start (pipeline : Pipeline σ) (request : RunRequest)
    (registry : ModelRegistry) :
    Unfired pipeline (pipeline.start request registry) := by
  unfold start
  split
  · exact .inl rfl
  split
  · exact .inl rfl
  split
  · exact .inl rfl
  dsimp only
  split
  · exact .inl rfl
  · refine .inr (.inr ?_)
    rw [Turn.afterEvents_pipeline, callStage_cancellation]
    exact CancelGroup.pending?_issue _

theorem unfired_continueRun
    {pipeline : Pipeline σ} (sound : pipeline.IsSound)
    (free : pipeline.awaited = none) :
    Unfired pipeline pipeline.continueRun := by
  unfold continueRun
  split
  · exact .inl rfl
  next paused current =>
    split
    next status =>
      have isLive : paused.isLive = true := by
        simp [Run.isLive, status, RunStatus.isTerminal]
      obtain ⟨reaches, _, noError⟩ :=
        (sound.rests free paused current).paused_of_isLive isLive
      have ready : ({ paused with status := .running } : Run).IsReady 2 :=
        ⟨⟨reaches.states, reaches.outputs, reaches.durations⟩, rfl, noError⟩
      obtain ⟨token, hasToken⟩ := Option.isSome_iff_exists.mp
        (sound.hasToken (by simp [current]))
      simp only [hasToken]
      cases pending : pipeline.cancellation.pending? with
      | none =>
          refine .inr (.inr ?_)
          rw [generate_cancellation]
          exact pending
      | some reason =>
          have cancelled :
              pipeline.cancellation.reason? token = some reason := by
            rw [CancelGroup.reason?_eq_pending? hasToken, pending]
          rw [generate_of_cancelled ready
            { pipeline with run := some _ } cancelled]
          exact .inr (.inl (concludeCancelled_isBusy _ _ _))
    · exact .inl rfl

theorem unfired_regenerate (pipeline : Pipeline σ) :
    Unfired pipeline pipeline.regenerate := by
  unfold regenerate
  split
  · exact .inl rfl
  split
  · exact .inl rfl
  split
  · exact .inl rfl
  split
  · exact .inl rfl
  · refine .inr (.inr ?_)
    rw [Turn.afterEvents_pipeline, generate_cancellation]
    exact CancelGroup.pending?_issue _

/-- While a run is live, only the handle makes a reason pending. -/
theorem unfired_occur
    {pipeline : Pipeline σ} (sound : pipeline.IsSound)
    {occurrence : Occurrence}
    (notFired : ∀ reason, occurrence ≠ .fire reason) :
    Unfired pipeline (pipeline.occur occurrence) := by
  cases occurrence with
  | start request registry =>
      exact unfired_whenFree (unfired_start pipeline request registry)
  | continueRun =>
      cases waiting : pipeline.awaited with
      | none => exact unfired_whenFree (unfired_continueRun sound waiting)
      | some call =>
          rw [occur, whenFree_of_waiting waiting]
          exact .inl rfl
  | regenerate => exact unfired_whenFree (unfired_regenerate pipeline)
  | cancelWith reason =>
      apply unfired_whenFree
      unfold cancelWith
      split
      · exact .inl rfl
      split
      · exact .inr (.inl (concludeCancelled_isBusy _ _ _))
      · exact .inl rfl
  | settlePendingCancel =>
      apply unfired_whenFree
      unfold settlePendingCancel
      split
      · split
        · exact .inr (.inl (concludeCancelled_isBusy _ _ _))
        · exact .inl rfl
      · exact .inl rfl
  | discard => exact unfired_whenFree (.inr (.inl rfl))
  | fire reason => exact absurd rfl (notFired reason)
  | notice =>
      simp only [occur, notice]
      split
      · split
        · exact .inr (.inl (concludeCancelled_isBusy _ _ _))
        · exact .inl rfl
      · exact .inl rfl
  | reply outcome milliseconds =>
      simp only [occur, reply]
      split
      next call run waiting current =>
        split
        · exact .inr (.inl (concludeCancelled_isBusy _ _ _))
        next isOpen =>
          refine .inr (.inr ?_)
          rw [settleCall_cancellation,
            ← sound.reason?_eq_pending? waiting, isOpen]
      · exact .inl rfl

/-! ## Every firing point -/

/-- What firing the handle of a pipeline leads to.  A reason that is pending
already was the first one. -/
structure HonorsCancel (pipeline : Pipeline σ) : Prop where
  /-- Only the handle makes a reason pending while a run is live. -/
  onlyFired : ∀ occurrence, (∀ reason, occurrence ≠ .fire reason) →
    Unfired pipeline (pipeline.occur occurrence)
  duringCall : ∀ call run, pipeline.awaited = some call →
    pipeline.run = some run → ∀ reason between,
    (∀ occurrence ∈ between, occurrence.goesOn = false) →
    ∀ next : Occurrence, next.goesOn = true → ∃ cancelled,
      (((pipeline.occur (.fire reason)).pipeline.after between).occur
        next).EndsCancelled pipeline run
          (pipeline.cancellation.pending?.getD reason) cancelled
  whilePaused : ∀ run, pipeline.run = some run →
    run.status = .pausedAtCheckpoint → ∀ reason between,
    (∀ occurrence ∈ between, occurrence.movesPaused = false) →
    ∀ next : Occurrence, next = .continueRun ∨ next = .settlePendingCancel →
    ∃ cancelled,
      (((pipeline.occur (.fire reason)).pipeline.after between).occur
        next).EndsCancelled pipeline run
          (pipeline.cancellation.pending?.getD reason) cancelled
  withoutRun : pipeline.isBusy = false → ∀ reason later,
    ((pipeline.occur (.fire reason)).pipeline.turns later).map
      Turn.apparent = (pipeline.turns later).map Turn.apparent

theorem duringCall_of_isSound
    {pipeline : Pipeline σ} (sound : pipeline.IsSound) {call : AwaitedCall}
    (waiting : pipeline.awaited = some call) {run : Run}
    (current : pipeline.run = some run) (reason : String)
    {between : List Occurrence}
    (stay : ∀ occurrence ∈ between, occurrence.goesOn = false)
    {next : Occurrence} (goesOn : next.goesOn = true) :
    (((pipeline.occur (.fire reason)).pipeline.after between).occur
      next).EndsCancelled pipeline run
        (pipeline.cancellation.pending?.getD reason)
        (run.cancel (pipeline.cancellation.pending?.getD reason)).1 := by
  have hasToken : pipeline.cancellation.current?.isSome :=
    sound.hasToken (by simp [current])
  have fired := hasFired_after (hasFired_cancel hasToken reason)
    Occurrence.goesOn (fun fired stays => fired.occur_of_waiting waiting stays)
    stay
  exact fired.goesOn_endsCancelled sound waiting current goesOn

theorem whilePaused_of_isSound
    {pipeline : Pipeline σ} (sound : pipeline.IsSound) {run : Run}
    (current : pipeline.run = some run)
    (paused : run.status = .pausedAtCheckpoint) (reason : String)
    {between : List Occurrence}
    (stay : ∀ occurrence ∈ between, occurrence.movesPaused = false)
    {next : Occurrence}
    (takesUp : next = .continueRun ∨ next = .settlePendingCancel) :
    (((pipeline.occur (.fire reason)).pipeline.after between).occur
      next).EndsCancelled pipeline run
        (pipeline.cancellation.pending?.getD reason)
        (run.cancel (pipeline.cancellation.pending?.getD reason)).1 := by
  have free : pipeline.awaited = none := by
    cases waiting : pipeline.awaited with
    | none => rfl
    | some call =>
        obtain ⟨_, other, same, underway⟩ := sound.waits call waiting
        obtain rfl : run = other := by simpa [current] using same
        have running := underway.running
        simp [paused] at running
  have hasToken : pipeline.cancellation.current?.isSome :=
    sound.hasToken (by simp [current])
  have rests := sound.rests free run current
  have fired := hasFired_after (hasFired_cancel hasToken reason)
    Occurrence.movesPaused
    (fun fired stays =>
      fired.occur_of_paused free current rests paused stays)
    stay
  rcases takesUp with rfl | rfl
  · exact fired.continueRun_endsCancelled sound free current paused
  · have isLive : run.isLive = true := by
      simp [Run.isLive, paused, RunStatus.isTerminal]
    exact fired.settlePendingCancel_endsCancelled sound free current isLive

/-- However a pipeline has come about, firing its handle is neither lost nor
has it an effect on anything but the live run. -/
theorem honorsCancel_after (history : History σ) (supply : Supply)
    (maxAttempts : UInt32) (occurrences : List Occurrence) :
    ((new history supply maxAttempts).after occurrences).HonorsCancel := by
  have sound := isSound_after history supply maxAttempts occurrences
  constructor
  · intro occurrence notFired
    exact unfired_occur sound notFired
  · intro call run waiting current reason between stay next goesOn
    exact ⟨_, duringCall_of_isSound sound waiting current reason stay goesOn⟩
  · intro run current paused reason between stay next takesUp
    exact ⟨_, whilePaused_of_isSound sound current paused reason stay takesUp⟩
  · intro free reason later
    apply apparent_turns_withTokens sound
    refine ⟨CancelGroup.length_reasons_cancel _ _, ?_⟩
    simp [free]

/-- A run is started and reaches its checkpoint. -/
def untilCheckpoint : List Occurrence :=
  [startShort .manual, .reply (.ok .null) 5, .reply (.ok (.bool true)) 7]

/-- The handle is fired twice during the first call, and at the checkpoint. -/
theorem honorsCancel_twice :
    (∃ run cancelled, (inMemory.after [startShort .manual]).run = some run ∧
      ((inMemory.after [startShort .manual, .fire "stop", .fire "again"]).occur
        (.reply (.error (.timeout "late")) 5)).EndsCancelled
          (inMemory.after [startShort .manual]) run "stop" cancelled) ∧
    (∃ run cancelled, (inMemory.after untilCheckpoint).run = some run ∧
      ((inMemory.after (untilCheckpoint ++ [.fire "stop", .regenerate])).occur
        .continueRun).EndsCancelled
          (inMemory.after untilCheckpoint) run "stop" cancelled) := by
  have duringCall := (honorsCancel_after ⟨MemoryStore.empty, 10, []⟩
    ⟨0, 0, ⟨0, 0⟩⟩ 3 [startShort .manual]).duringCall _ _ rfl rfl "stop"
      [.fire "again"] (by simp [Occurrence.goesOn])
      (.reply (.error (.timeout "late")) 5) rfl
  have whilePaused := (honorsCancel_after ⟨MemoryStore.empty, 10, []⟩
    ⟨0, 0, ⟨0, 0⟩⟩ 3 untilCheckpoint).whilePaused _ rfl rfl "stop"
      [.regenerate] (by simp [Occurrence.movesPaused]) .continueRun (.inl rfl)
  obtain ⟨cancelled, ended⟩ := duringCall
  obtain ⟨stopped, endedPaused⟩ := whilePaused
  exact ⟨⟨_, cancelled, rfl, ended⟩, ⟨_, stopped, rfl, endedPaused⟩⟩

end Pipeline

end AgentPipeline
