import AgentPipeline.Proofs.Pipeline.Cancellation
import AgentPipeline.Proofs.Pipeline.Twins

/-!
# The ways to cancel a paused run

A run that is paused at the checkpoint may be cancelled at once, or the handle
is fired and the cancellation is then settled, or met by continuing the run.
The three ways lead to one turn, although the last of them goes through a
drive for which the run counts as running.  Main statement:
`cancelBy_agrees`.
-/

namespace AgentPipeline

/-- How the owner cancels a paused run. -/
inductive CancelWay where
  | direct
  /-- The handle is fired, and the pending cancellation is settled. -/
  | settled
  /-- The handle is fired, and the run is continued. -/
  | continued
deriving DecidableEq, Repr

namespace Pipeline

variable {σ : Type} [KeyValueStore σ]

/-- The turn in which the current run is cancelled, together with that of the
handle where this is fired first. -/
def cancelBy (pipeline : Pipeline σ) (reason : String) : CancelWay → Turn σ
  | .direct => pipeline.cancelWith reason
  | .settled =>
      let fired := pipeline.fireCancel reason
      (fired.pipeline.settlePendingCancel.getD fired.pipeline.idle).after
        fired.effects
  | .continued =>
      let fired := pipeline.fireCancel reason
      fired.pipeline.continueRun.after fired.effects

/-- What is left of a pipeline, and noticed by others, when its run has been
cancelled. -/
structure IsCancelledBy (pipeline : Pipeline σ) (run : Run) (reason : String)
    (turn : Turn σ) : Prop where
  result : turn.result = some (.ok (run.cancel reason).1)
  status : (run.cancel reason).1.status = .cancelled
  error : (run.cancel reason).1.error = some reason
  states : (run.cancel reason).1.states.toList =
    [.completed, .completed, .cancelled, .cancelled]
  current : turn.pipeline.run = some (run.cancel reason).1
  /-- One snapshot is recorded, under the next identifier. -/
  history : ∃ recordedAt,
    turn.pipeline.history.items =
      (⟨pipeline.supply.upcoming 0, recordedAt, (run.cancel reason).1⟩ ::
        pipeline.history.items).take pipeline.history.capacity
  capacity : turn.pipeline.history.capacity = pipeline.history.capacity
  /-- No stage has begun, and so of none it is told that it was cancelled. -/
  events : turn.events = [.runCancelled run.id reason,
    .historyRecorded (pipeline.supply.upcoming 0) .cancelled]
  requests : turn.requests = []
  token : turn.pipeline.cancellation = pipeline.cancellation.cancel reason
  free : turn.pipeline.awaited = none
  others : turn.pipeline.maxAttempts = pipeline.maxAttempts ∧
    turn.pipeline.stageModels = pipeline.stageModels

end Pipeline

/-- Firing an open token leaves it current, and pending. -/
theorem CancelGroup.pending_of_isOpen {group : CancelGroup}
    (isOpen : group.isOpen = true) (reason : String) :
    ∃ token, (group.cancel reason).current? = some token ∧
      (group.cancel reason).pending? = some reason ∧
      (group.cancel reason).reason? token = some reason := by
  obtain ⟨token, hasToken, notCancelled⟩ := isOpen_iff.mp isOpen
  rw [reason?_eq_pending? hasToken] at notCancelled
  have stillCurrent := (current?_cancel group reason).trans hasToken
  have pending := pending?_cancel_of_open reason hasToken notCancelled
  refine ⟨token, stillCurrent, pending, ?_⟩
  rw [reason?_eq_pending? stillCurrent, pending]

namespace Pipeline

variable {σ : Type} [KeyValueStore σ]

/-! ## A paused run -/

section Paused

variable {pipeline : Pipeline σ} {run : Run}

omit [KeyValueStore σ] in
/-- No call is awaited for a paused run. -/
theorem IsShaped.free_of_paused (shaped : pipeline.IsShaped)
    (current : pipeline.run = some run)
    (paused : run.status = .pausedAtCheckpoint) : pipeline.awaited = none := by
  rw [Option.eq_none_iff_forall_ne_some]
  intro call waiting
  obtain ⟨other, same, underway⟩ := shaped.waits call waiting
  obtain rfl := Option.some.inj (current.symm.trans same)
  have running := underway.running
  rw [paused] at running
  cases running

theorem fireCancel_of_free (free : pipeline.awaited = none)
    (reason : String) :
    pipeline.fireCancel reason =
      (pipeline.withTokens (pipeline.cancellation.cancel reason)).idle := by
  simp only [fireCancel, notice, free, withTokens]

theorem settlePendingCancel_of_pending (pipeline : Pipeline σ)
    (current : pipeline.run = some run) (isLive : run.isLive = true)
    {reason : String}
    (pending : pipeline.cancellation.pending? = some reason) :
    pipeline.settlePendingCancel =
      some (pipeline.concludeCancelled run reason) := by
  simp only [settlePendingCancel, pending, current, isLive, if_true]

/-- Continuing the run ends in front of the generate stage; that the run
counts as running in between is forgotten when it is cancelled. -/
theorem continueRun_of_pending (pipeline : Pipeline σ)
    (current : pipeline.run = some run)
    (paused : run.status = .pausedAtCheckpoint)
    (reaches : run.Reaches 2 .idle .idle) (noError : run.error = none)
    {token : TokenId} {reason : String}
    (hasToken : pipeline.cancellation.current? = some token)
    (cancelled : pipeline.cancellation.reason? token = some reason) :
    pipeline.continueRun = pipeline.concludeCancelled run reason := by
  have ready : ({ run with status := .running } : Run).IsReady 2 :=
    ⟨⟨reaches.states, reaches.outputs, reaches.durations⟩, rfl, noError⟩
  simp only [continueRun, current, paused, if_true, hasToken]
  rw [generate_of_cancelled ready { pipeline with run := some _ } cancelled]
  rfl

/-- Whichever way is taken, the run is cancelled as it is, under the token
that was current before. -/
theorem cancelBy_eq (shaped : pipeline.IsShaped)
    (current : pipeline.run = some run)
    (paused : run.status = .pausedAtCheckpoint)
    (isOpen : pipeline.cancellation.isOpen = true) (reason : String)
    (way : CancelWay) :
    pipeline.cancelBy reason way =
      (pipeline.withTokens
        (pipeline.cancellation.cancel reason)).concludeCancelled run
          reason := by
  have isLive : run.isLive = true := by
    simp [Run.isLive, paused, RunStatus.isTerminal]
  have fired := fireCancel_of_free (shaped.free_of_paused current paused)
    reason
  obtain ⟨token, hasToken, pending, cancelled⟩ :=
    CancelGroup.pending_of_isOpen isOpen reason
  cases way with
  | direct =>
      simp only [cancelBy, cancelWith, current, isLive, if_true]
      rfl
  | settled =>
      have settles := settlePendingCancel_of_pending
        (pipeline.withTokens (pipeline.cancellation.cancel reason)) current
        isLive pending
      simp only [cancelBy, fired, idle, settles]
      rfl
  | continued =>
      obtain ⟨reaches, noError⟩ :=
        (shaped.stands run current).of_paused paused
      have continues := continueRun_of_pending
        (pipeline.withTokens (pipeline.cancellation.cancel reason)) current
        paused reaches noError hasToken cancelled
      simp only [cancelBy, fired, idle, continues]
      rfl

omit [KeyValueStore σ] in
/-- Of a run between two stages no stage is told to be cancelled. -/
theorem cancel_events_of_reaches {done : Nat}
    (reaches : run.Reaches done .idle .idle) (reason : String) :
    (run.cancel reason).2 = [.runCancelled run.id reason] := by
  have noneBegun :
      (Stage.all.filter fun stage =>
        run.states.get stage = .processing) = [] := by
    rw [List.filter_eq_nil_iff]
    intro stage _
    rw [reaches.states stage]
    split
    · decide
    · simp
  simp [Run.cancel, Run.cancelOpenStages, noneBegun]

theorem isCancelledBy_concludeCancelled (pipeline : Pipeline σ)
    (reaches : run.Reaches 2 .idle .idle) (reason : String) :
    pipeline.IsCancelledBy run reason
      ((pipeline.withTokens
        (pipeline.cancellation.cancel reason)).concludeCancelled run
          reason) where
  result := rfl
  status := rfl
  error := rfl
  states := (Run.cancel_reaches reaches (.inl rfl) reason).toList_eq
  current := rfl
  history := ⟨_, rfl⟩
  capacity := rfl
  events := by
    have events := cancel_events_of_reaches reaches reason
    simp only [concludeCancelled, Turn.events_afterEvents, events]
    rfl
  requests := requests_concludeCancelled ..
  token := rfl
  free := rfl
  others := ⟨rfl, rfl⟩

end Paused

/-! ## What follows -/

/-- The ways to cancel the run of a pipeline cannot be told apart: not at
once, not with other identifiers and times, and not by whatever happens
then. -/
structure CancelsAlike (pipeline : Pipeline σ) (run : Run)
    (reason : String) : Prop where
  sameTurn : ∀ way,
    pipeline.cancelBy reason way = pipeline.cancelBy reason .direct
  cancelled : ∀ (supply : Supply) (way : CancelWay),
    IsCancelledBy { pipeline with supply } run reason
      (cancelBy { pipeline with supply } reason way)
  twins : ∀ (supply other : Supply) (way second : CancelWay)
    (later others : List (Happening σ)),
    List.Forall₂ (Happening.Twins (supply.Corresponds other)) later others →
    let turn := cancelBy { pipeline with supply } reason way
    let otherTurn :=
      cancelBy { pipeline with supply := other } reason second
    List.Forall₂ (Turn.Twins (supply.Corresponds other))
      (turn :: turn.pipeline.turnsThrough later)
      (otherTurn :: otherTurn.pipeline.turnsThrough others)

omit [KeyValueStore σ] in
theorem IsShaped.withSupply {pipeline : Pipeline σ}
    (shaped : pipeline.IsShaped) (supply : Supply) :
    IsShaped { pipeline with supply } :=
  ⟨shaped.stands, shaped.notBlank, shaped.waits, shaped.hasToken⟩

/-- However a pipeline has come about, if its run is paused at the checkpoint
and its token is open then the three ways to cancel the run agree. -/
theorem cancelBy_agrees (history : History σ) (supply : Supply)
    (maxAttempts : UInt32) (happenings : List (Happening σ)) {run : Run}
    (current :
      ((new history supply maxAttempts).through happenings).run = some run)
    (paused : run.status = .pausedAtCheckpoint)
    (isOpen : ((new history supply maxAttempts).through
      happenings).cancellation.isOpen = true) (reason : String) :
    ((new history supply maxAttempts).through happenings).CancelsAlike run
      reason := by
  have shaped := isShaped_through history supply maxAttempts happenings
  generalize (new history supply maxAttempts).through happenings = pipeline
    at current isOpen shaped ⊢
  have cancels (supply : Supply) :=
    cancelBy_eq (shaped.withSupply supply) current paused isOpen reason
  obtain ⟨reaches, -⟩ := (shaped.stands run current).of_paused paused
  refine ⟨fun way => ?_, fun supply way => ?_, ?_⟩
  · rw [cancels pipeline.supply way, cancels pipeline.supply .direct]
  · rw [cancels supply way]
    exact isCancelledBy_concludeCancelled
      { pipeline with supply } reaches reason
  · intro supply other way second later others same
    have runs : run.Twins (supply.Corresponds other) run :=
      ⟨.inl rfl, run.id, rfl⟩
    have turns := ((pipeline.twins_withSupply supply other).withTokens
      (pipeline.cancellation.cancel reason)).concludeCancelled runs reason
    dsimp only
    rw [cancels supply way, cancels other second]
    exact .cons turns (turns.pipeline.turnsThrough same)

theorem cancelBy_agrees_untilCheckpoint :
    ∃ run,
      (inMemory.through (untilCheckpoint.map .occurrence)).run = some run ∧
        run.status = .pausedAtCheckpoint ∧
        (inMemory.through
          (untilCheckpoint.map .occurrence)).cancellation.isOpen = true ∧
        (inMemory.through
          (untilCheckpoint.map .occurrence)).CancelsAlike run "stop" :=
  ⟨_, rfl, rfl, rfl, cancelBy_agrees ⟨MemoryStore.empty, 10, []⟩
    ⟨0, 0, ⟨0, 0⟩⟩ 3 (untilCheckpoint.map .occurrence) rfl rfl rfl "stop"⟩

end Pipeline

end AgentPipeline
