import AgentPipeline.Proofs.Pipeline.PursuitLeft

/-!
# The end of a pursuit

Every event takes from what is left of a pursuit what it uses.  So the pursuit
of a run ends, however the calls and the questions are answered and whenever
the cancel handle is fired.  Main statement: `endsInTime_begin`.
-/

namespace AgentPipeline

namespace Pursuit

variable {σ : Type} [KeyValueStore σ]

/-- The operations that the answers led to. -/
def calls (pursuit : Pursuit σ) : List PursuitEvent → List RunOperation :=
  pursuit.along fun pursuit event => (pursuit.step event).called.toList

theorem calls_cons (pursuit : Pursuit σ) (event : PursuitEvent)
    (later : List PursuitEvent) :
    pursuit.calls (event :: later) =
      (pursuit.step event).called.toList ++
        (pursuit.next event).calls later := rfl

/-- The event changes the phase or the call that is waited for. -/
def MovesOn (pursuit : Pursuit σ) (event : PursuitEvent) : Prop :=
  (pursuit.next event).phase ≠ pursuit.phase ∨
    (pursuit.next event).pipeline.awaited ≠ pursuit.pipeline.awaited

instance (pursuit : Pursuit σ) (event : PursuitEvent) :
    Decidable (pursuit.MovesOn event) :=
  inferInstanceAs (Decidable (_ ∨ _))

/-- The number of events that move the pursuit on. -/
def moves (pursuit : Pursuit σ) : List PursuitEvent → Nat
  | [] => 0
  | event :: later =>
      (if pursuit.MovesOn event then 1 else 0) +
        (pursuit.next event).moves later

/-! ## Every event together -/

section Together

variable {pursuit : Pursuit σ}

/-- What every step takes from what is left of it is called no more often. -/
theorem count_calls_le {operation : RunOperation} {left : Pursuit σ → Nat}
    (spends : ∀ pursuit : Pursuit σ, pursuit.IsSteady → ∀ event,
      (pursuit.step event).called.toList.count operation +
        left (pursuit.next event) ≤ left pursuit)
    (steady : pursuit.IsSteady) (events : List PursuitEvent) :
    (pursuit.calls events).count operation ≤ left pursuit := by
  induction events generalizing pursuit with
  | nil => exact Nat.zero_le _
  | cons event later ih =>
      have first := spends pursuit steady event
      have rest := ih (steady.next event)
      rw [calls_cons, List.count_append]
      omega

theorem moves_add_movesLeft_le (steady : pursuit.IsSteady)
    (events : List PursuitEvent) :
    pursuit.moves events + (pursuit.after events).movesLeft ≤
      pursuit.movesLeft := by
  induction events generalizing pursuit with
  | nil => exact Nat.le_of_eq (Nat.zero_add _)
  | cons event later ih =>
      have spends := spends_step steady event
      have rest := ih (steady.next event)
      rw [moves, after_cons]
      split
      next movesOn =>
        have less := spends.movesOn movesOn
        omega
      next => exact Nat.le_trans (by omega) spends.moves

end Together

/-! ## The last step -/

section Last

variable {pursuit : Pursuit σ}

/-- A pursuit that is over stays so. -/
theorem after_of_over {ending : PursuitEnd}
    (isOver : pursuit.phase = .ended ending) (events : List PursuitEvent) :
    (pursuit.after events).phase = .ended ending := by
  induction events generalizing pursuit with
  | nil => exact isOver
  | cons event later ih =>
      apply ih
      cases event <;> simp [next, step, meanwhile, isOver]

/-- A pursuit that has come to its end came to it with some event. -/
theorem exists_last {ending : PursuitEnd} {events : List PursuitEvent}
    (notYet : pursuit.phase ≠ .ended ending)
    (isOver : (pursuit.after events).phase = .ended ending) :
    ∃ before event later, events = before ++ event :: later ∧
      (pursuit.after before).phase ≠ .ended ending ∧
      ((pursuit.after before).step event).phase = .ended ending := by
  induction events generalizing pursuit with
  | nil => exact absurd isOver notYet
  | cons event later ih =>
      by_cases ends : (pursuit.step event).phase = .ended ending
      · exact ⟨[], event, later, rfl, notYet, ends⟩
      · obtain ⟨before, last, rest, rfl, notBefore, atLast⟩ := ih ends isOver
        exact ⟨event :: before, last, rest, rfl, notBefore, atLast⟩

theorem exists_called {operation : RunOperation}
    {events : List PursuitEvent} (called : operation ∈ pursuit.calls events) :
    ∃ before event,
      ((pursuit.after before).step event).called = some operation := by
  induction events generalizing pursuit with
  | nil => cases called
  | cons event later ih =>
      rcases List.mem_append.mp called with atFirst | isLater
      · exact ⟨[], event, Option.mem_toList.mp atFirst⟩
      · obtain ⟨before, last, atLast⟩ := ih isLater
        exact ⟨event :: before, last, atLast⟩

variable {event : PursuitEvent} {step : PursuitStep σ}

theorem Goes.called_ne_start (goes : pursuit.Goes event step) :
    step.called ≠ some .start := by
  cases goes <;> simp

/-- Without asking no attempt is repeated. -/
theorem Goes.asks_of_regenerate (goes : pursuit.Goes event step)
    (steady : pursuit.IsSteady) (called : step.called = some .regenerate) :
    pursuit.assumesYes = false := by
  cases goes with
  | regenerate isPhase =>
      cases steady.fits with
      | invalid _ _ _ _ _ _ asks => exact asks
      | working isOther | paused isOther | ended isOther =>
          cases isPhase.symm.trans isOther
  | fire | stay | advance | conclude | settle | continueRun | leave =>
      cases called

/-- An operation fails only with a stage, and not when it is called. -/
theorem Goes.stage_of_error (goes : pursuit.Goes event step)
    {error : PipelineError} (failed : step.turn.result = some (.error error)) :
    step.called = none ∧ ∃ stage message, error = .stage stage message := by
  cases goes with
  | conclude _ _ leads =>
      obtain rfl := Option.some.inj failed
      cases leads with
      | fail => exact ⟨rfl, _, _, rfl⟩
  | fire | stay | advance | settle | continueRun | regenerate | leave =>
      cases failed

theorem Goes.stage_of_failed (goes : pursuit.Goes event step)
    {error : PipelineError} (notYet : pursuit.phase ≠ .ended (.failed error))
    (isOver : step.phase = .ended (.failed error)) :
    ∃ stage message, error = .stage stage message := by
  cases goes with
  | fire | stay => exact absurd isOver notYet
  | conclude _ _ leads =>
      cases leads with
      | fail =>
          cases isOver
          exact ⟨_, _, rfl⟩
      | rest | pause | invalid => cases isOver
  | advance | settle | continueRun | regenerate | leave => cases isOver

/-- A paused run is left when the question at the checkpoint is answered with
no and nothing is pending. -/
theorem Goes.declined (goes : pursuit.Goes event step)
    (steady : pursuit.IsSteady) {run : Run} {remark : Option RunRemark}
    (notYet : pursuit.phase ≠ .ended (.left run remark))
    (isOver : step.phase = .ended (.left run remark))
    (paused : run.status = .pausedAtCheckpoint) :
    event = .answer false ∧ pursuit.phase = .asking .proceed run ∧
      pursuit.pipeline.cancellation.pending? = none ∧
      pursuit.assumesYes = false := by
  cases goes with
  | fire | stay => exact absurd isOver notYet
  | conclude _ _ leads =>
      cases leads with
      | rest notPaused =>
          cases isOver
          exact absurd paused notPaused
      | fail | pause | invalid => cases isOver
  | settle =>
      cases isOver
      simp at paused
  | advance | continueRun | regenerate => cases isOver
  | @leave question left isPhase asks nothingPending =>
      cases isOver
      cases question with
      | proceed => exact ⟨rfl, isPhase, nothingPending rfl, asks⟩
      | regenerate =>
          cases steady.fits with
          | working isOther | paused isOther | ended isOther =>
              cases isPhase.symm.trans isOther
          | invalid isAsking _ _ completed =>
              cases isPhase.symm.trans isAsking
              cases completed.symm.trans paused

/-- With what was awaited an operation goes on only by dispatching a call of a
later stage. -/
theorem Goes.sends {event : PursuitEvent} {step : PursuitStep σ}
    (goes : pursuit.Goes event step) (steady : pursuit.IsSteady)
    (awaits : pursuit.phase.awaits event = true) {call : AwaitedCall}
    (waits : step.turn.pipeline.awaited = some call) :
    (∃ request, Effect.dispatch request ∈ step.turn.effects) ∧
      ∀ before, pursuit.pipeline.awaited = some before →
        before.stage.index < call.stage.index := by
  cases goes with
  | fire reason =>
      cases phase : pursuit.phase <;> simp [phase, PursuitPhase.awaits]
        at awaits
  | stay notAwaited => simp [notAwaited] at awaits
  | conclude | settle => cases waits
  | leave isPhase =>
      cases steady.fits with
      | working isOther | ended isOther => cases isPhase.symm.trans isOther
      | paused _ free | invalid _ free => cases free.symm.trans waits
  | advance _ dispatches =>
      refine ⟨⟨_, List.mem_append_right _
        (List.mem_cons_of_mem _ List.mem_cons_self)⟩, ?_⟩
      intro before waiting
      cases waits
      cases dispatches with
      | reply current _ _ _ follows =>
          obtain rfl := Option.some.inj (current.symm.trans waiting)
          rw [follows.stage]
          exact Nat.lt_succ_self _
  | continueRun _ dispatches | regenerate _ dispatches =>
      refine ⟨⟨_, List.mem_append_right _
        (List.mem_cons_of_mem _ List.mem_cons_self)⟩, ?_⟩
      intro before waiting
      cases (dispatches.free rfl).symm.trans waiting

/-- What is awaited moves the pursuit on. -/
theorem movesOn_of_awaits (steady : pursuit.IsSteady)
    (awaits : pursuit.phase.awaits event = true) : pursuit.MovesOn event := by
  have goes := goes_step steady event
  have waiting : ∀ operation, pursuit.phase = .working operation →
      ∃ call, pursuit.pipeline.awaited = some call := by
    intro operation isPhase
    cases steady.fits with
    | working _ _ waiting => exact ⟨_, waiting⟩
    | paused isOther | invalid isOther | ended isOther =>
        cases isPhase.symm.trans isOther
  have later : ∀ call, pursuit.pipeline.awaited = some call →
      (pursuit.step event).turn.pipeline.awaited ≠ some call := fun call waits
    same => Nat.lt_irrefl _ ((goes.sends steady awaits same).2 call waits)
  simp only [MovesOn, next]
  generalize pursuit.step event = step at goes later
  cases goes with
  | fire reason =>
      cases phase : pursuit.phase <;> simp [phase, PursuitPhase.awaits]
        at awaits
  | stay notAwaited => simp [notAwaited] at awaits
  | advance isPhase | conclude isPhase =>
      obtain ⟨call, waits⟩ := waiting _ isPhase
      rw [waits]
      exact .inr (later call waits)
  | settle isPhase | continueRun isPhase | regenerate isPhase
  | leave isPhase => exact .inl (by simp [isPhase])

/-- A pursuit that ends with a paused run came to its end when the question at
the checkpoint was answered with no. -/
theorem exists_declined (steady : pursuit.IsSteady)
    {events : List PursuitEvent} {run : Run} {remark : Option RunRemark}
    (notYet : pursuit.phase ≠ .ended (.left run remark))
    (isOver : (pursuit.after events).phase = .ended (.left run remark))
    (paused : run.status = .pausedAtCheckpoint) :
    pursuit.assumesYes = false ∧ ∃ before later,
      events = before ++ .answer false :: later ∧
      (pursuit.after before).phase = .asking .proceed run ∧
      (pursuit.after before).pipeline.cancellation.pending? = none ∧
      ((pursuit.after before).next (.answer false)).phase =
        .ended (.left run remark) := by
  obtain ⟨before, event, later, rfl, notBefore, atLast⟩ :=
    exists_last notYet isOver
  obtain ⟨rfl, asking, nothingPending, asks⟩ :=
    (goes_step (steady.after before) event).declined (steady.after before)
      notBefore atLast paused
  rw [after_assumesYes] at asks
  exact ⟨asks, before, later, rfl, asking, nothingPending, atLast⟩

end Last

/-! ## Every pursuit -/

/-- How a pursuit comes to its end, whatever has happened since it began, when
a run may make a number of further attempts. -/
structure EndsInTime (first : Pursuit σ) (furtherAttempts : Nat)
    (events : List PursuitEvent) : Prop where
  /-- A run is started only at the beginning. -/
  starts : .start ∉ first.calls events
  continues : (first.calls events).count .continueRun ≤ 1
  regenerates : (first.calls events).count .regenerate ≤ furtherAttempts
  moves : first.moves events ≤ 5 + 3 * furtherAttempts
  ends : first.moves events = 5 + 3 * furtherAttempts →
    ∃ ending, (first.after events).phase = .ended ending
  /-- An operation that has not returned waits for the answer to a call. -/
  waits : ∀ operation, (first.after events).phase = .working operation →
    (first.after events).pipeline.awaited.isSome
  movesOn : ∀ event, (first.after events).phase.awaits event = true →
    (first.after events).MovesOn event
  final : ∀ ending, (first.after events).phase = .ended ending →
    ∀ later, (first.after (events ++ later)).phase = .ended ending
  /-- No operation is refused that an answer leads to, and all that happens
  to it later is that a stage fails. -/
  errors : ∀ event error,
    ((first.after events).step event).turn.result = some (.error error) →
    ((first.after events).step event).called = none ∧
      ∃ stage message, error = .stage stage message
  failed : ∀ error, (first.after events).phase = .ended (.failed error) →
    first.phase = .ended (.failed error) ∨
      ∃ stage message, error = .stage stage message
  finished : ∀ run, (first.after events).phase ≠ .ended (.unfinished run)
  paused : ∀ run remark,
    (first.after events).phase = .ended (.left run remark) →
    run.status = .pausedAtCheckpoint → ∃ before later,
      events = before ++ .answer false :: later ∧
      (first.after before).phase = .asking .proceed run ∧
      (first.after before).pipeline.cancellation.pending? = none
  assumed : first.assumesYes = true → .regenerate ∉ first.calls events ∧
    ∀ run remark, (first.after events).phase = .ended (.left run remark) →
      run.status ≠ .pausedAtCheckpoint

theorem IsSteady.endsInTime {first : Pursuit σ} (steady : first.IsSteady)
    (notLeft : ∀ run remark, first.phase ≠ .ended (.left run remark))
    (events : List PursuitEvent) :
    first.EndsInTime first.attemptsLeft events where
  starts := by
    intro called
    obtain ⟨before, event, atLast⟩ := exists_called called
    exact (goes_step (steady.after before) event).called_ne_start atLast
  continues := by
    have atMost := count_calls_le
      (fun _ steady event => (spends_step steady event).checkpoints) steady
      events
    exact Nat.le_trans atMost first.checkpointsLeft_le
  regenerates :=
    count_calls_le (fun _ steady event => (spends_step steady event).attempts)
      steady events
  moves := by
    have total := moves_add_movesLeft_le steady events
    have atMost := first.movesLeft_le
    omega
  ends := by
    intro all
    have total := moves_add_movesLeft_le steady events
    have atMost := first.movesLeft_le
    exact isOver_of_movesLeft (steady.after events).fits (by omega)
  waits := by
    intro operation isPhase
    cases (steady.after events).fits with
    | working _ _ waiting => exact Option.isSome_of_eq_some waiting
    | paused isOther | invalid isOther | ended isOther =>
        cases isPhase.symm.trans isOther
  movesOn := fun _ => movesOn_of_awaits (steady.after events)
  final := by
    intro ending isOver later
    rw [after_append]
    exact after_of_over isOver later
  errors := fun event _ =>
    (goes_step (steady.after events) event).stage_of_error
  failed := by
    intro error isOver
    refine or_iff_not_imp_left.mpr fun notYet => ?_
    obtain ⟨before, event, _, _, notBefore, atLast⟩ :=
      exists_last notYet isOver
    exact (goes_step (steady.after before) event).stage_of_failed notBefore
      atLast
  finished := by
    intro run isOver
    cases (steady.after events).fits with
    | ended isEnding _ isEnd =>
        cases isOver.symm.trans isEnding
        exact isEnd run rfl
    | working isOther | paused isOther | invalid isOther =>
        cases isOver.symm.trans isOther
  paused := by
    intro run remark isOver paused
    obtain ⟨_, before, later, isSplit, asking, nothingPending, _⟩ :=
      exists_declined steady (notLeft run remark) isOver paused
    exact ⟨before, later, isSplit, asking, nothingPending⟩
  assumed := by
    intro assumes
    constructor
    · intro called
      obtain ⟨before, event, atLast⟩ := exists_called called
      have asks := (goes_step (steady.after before) event).asks_of_regenerate
        (steady.after before) atLast
      rw [after_assumesYes, assumes] at asks
      cases asks
    · intro run remark isOver paused
      have asks :=
        (exists_declined steady (notLeft run remark) isOver paused).1
      rw [assumes] at asks
      cases asks

section Begin

variable (history : History σ) (supply : Supply) (maxAttempts : UInt32)
  (assumesYes : Bool) (request : RunRequest) (registry : ModelRegistry)

/-- The run that is started makes its first attempt. -/
theorem attemptsLeft_begin :
    (begin (.new history supply maxAttempts) assumesYes request
      registry).attemptsLeft = maxAttempts.toNat - 1 := by
  rcases start_new history supply maxAttempts request registry with
    ⟨error, isTurn⟩ | isTurn
  · simp only [begin, isTurn]
    rfl
  · simp only [begin, isTurn]
    rfl

/-- A run is not left when it has only been started. -/
theorem begin_ne_left (run : Run) (remark : Option RunRemark) :
    (begin (.new history supply maxAttempts) assumesYes request
      registry).phase ≠ .ended (.left run remark) := by
  rcases start_new history supply maxAttempts request registry with
    ⟨error, isTurn⟩ | isTurn
  · simp [begin, isTurn, Pipeline.refuse, Pipeline.phaseAfter]
  · simp [begin, isTurn, Pipeline.dispatch, Pipeline.phaseAfter]

/-- However the questions and the calls are answered and whenever the cancel
handle is fired, the pursuit of a run on a new pipeline ends. -/
theorem endsInTime_begin (events : List PursuitEvent) :
    (begin (.new history supply maxAttempts) assumesYes request
      registry).EndsInTime (maxAttempts.toNat - 1) events := by
  have steady := begin_isSteady history supply maxAttempts assumesYes request
    registry
  rw [← attemptsLeft_begin history supply maxAttempts assumesYes request
    registry]
  exact steady.endsInTime (begin_ne_left history supply maxAttempts assumesYes
    request registry) events

end Begin

end Pursuit

end AgentPipeline
