import AgentPipeline.Proofs.Pipeline.Pursuit

/-!
# Cancelling the pursuit of a run

Once the cancel handle is fired no further call is dispatched, unless the
question whether to repeat an attempt is open and is answered with yes: the
further attempt gets a token of its own, and the firing is forgotten.
Main statement: `requests_after_fire`.
-/

namespace AgentPipeline

/-- Firing the handle marks the current token, if it was not marked before. -/
theorem CancelGroup.isSome_pending?_cancel {group : CancelGroup}
    (hasToken : group.current?.isSome) (reason : String) :
    (group.cancel reason).pending?.isSome := by
  obtain ⟨token, current⟩ := Option.isSome_iff_exists.mp hasToken
  cases pending : group.pending? with
  | none => rw [pending?_cancel_of_open reason current pending, Option.isSome]
  | some first => rw [cancel_of_pending reason pending, pending, Option.isSome]

/-- What the user answers, if it is an answer. -/
def PursuitEvent.answer? : PursuitEvent → Option Bool
  | .answer yes => some yes
  | .fire _ | .notice | .reply .. => none

namespace Pursuit

variable {σ : Type} {pursuit : Pursuit σ}

/-! ## Where the handle stops a pursuit -/

/-- The pursuit is over, or a reason is pending that will be noticed before
the next call. -/
inductive IsStopped (pursuit : Pursuit σ) : Prop
  | ended {ending : PursuitEnd} (isPhase : pursuit.phase = .ended ending)
  | pending
      (notRepeating : ∀ run, pursuit.phase ≠ .asking .regenerate run)
      (isPending : pursuit.pipeline.cancellation.pending?.isSome)

/-- While a reason is pending, the token of the call that is waited for is
cancelled. -/
theorem reason?_of_pending (fits : pursuit.Fits)
    (isPending : pursuit.pipeline.cancellation.pending?.isSome)
    {call : AwaitedCall} (waiting : pursuit.pipeline.awaited = some call) :
    pursuit.pipeline.cancellation.reason? call.token ≠ none := by
  cases fits with
  | working _ _ waits token =>
      obtain rfl := Option.some.inj (waits.symm.trans waiting)
      rw [CancelGroup.reason?_eq_pending? token]
      exact Option.isSome_iff_ne_none.mp isPending
  | paused _ free | invalid _ free | ended _ free => simp [free] at waiting

/-- While a reason is pending an operation that waits ends with the run
cancelled. -/
theorem cancelled_of_pending (fits : pursuit.Fits)
    (isPending : pursuit.pipeline.cancellation.pending?.isSome)
    {happening : Happening σ} {tokens : CancelGroup} {run : Run}
    {events : List Event} {result : Except PipelineError Run}
    (concludes : pursuit.pipeline.Concludes happening tokens run events
      result) : run.status = .cancelled := by
  cases concludes with
  | cancel => rfl
  | fail waiting _ _ isOpen | pause waiting _ _ isOpen
  | complete waiting _ _ isOpen =>
      exact absurd isOpen (reason?_of_pending fits isPending waiting)

variable [KeyValueStore σ]

/-- A stopped pursuit dispatches nothing, and it stays stopped. -/
theorem Goes.of_isStopped {event : PursuitEvent} {step : PursuitStep σ}
    (goes : pursuit.Goes event step) (steady : pursuit.IsSteady)
    (stopped : pursuit.IsStopped) :
    step.turn.requests = [] ∧
      IsStopped ⟨step.turn.pipeline, pursuit.assumesYes, step.phase⟩ := by
  cases stopped with
  | ended isOver =>
      cases goes with
      | fire | stay => exact ⟨rfl, .ended isOver⟩
      | advance isPhase | conclude isPhase | settle isPhase
      | continueRun isPhase | regenerate isPhase | leave isPhase =>
          cases isPhase.symm.trans isOver
  | pending notRepeating isPending =>
      cases goes with
      | fire reason =>
          obtain ⟨first, pending⟩ := Option.isSome_iff_exists.mp isPending
          refine ⟨rfl, .pending notRepeating ?_⟩
          rw [CancelGroup.cancel_of_pending reason pending]
          exact isPending
      | stay => exact ⟨rfl, .pending notRepeating isPending⟩
      | advance _ dispatches =>
          cases dispatches with
          | reply waiting _ _ isOpen =>
              exact absurd isOpen
                (reason?_of_pending steady.fits isPending waiting)
      | conclude _ concludes leads =>
          have cancelled :=
            cancelled_of_pending steady.fits isPending concludes
          refine ⟨by simp, ?_⟩
          cases leads with
          | fail | rest => exact .ended rfl
          | pause _ _ paused => cases cancelled.symm.trans paused
          | invalid completed => cases cancelled.symm.trans completed
      | settle => exact ⟨by simp, .ended rfl⟩
      | continueRun _ dispatches =>
          cases dispatches with
          | continueRun _ _ _ _ _ _ isOpen => simp [isOpen] at isPending
      | regenerate isPhase => exact absurd isPhase (notRepeating _)
      | leave => exact ⟨rfl, .ended rfl⟩

/-- The calls that are dispatched while all of this happens, in order. -/
def requests (pursuit : Pursuit σ) : List PursuitEvent → List StageRequest :=
  pursuit.along fun pursuit event => (pursuit.step event).turn.requests

theorem requests_cons (pursuit : Pursuit σ) (event : PursuitEvent)
    (later : List PursuitEvent) :
    pursuit.requests (event :: later) =
      (pursuit.step event).turn.requests ++
        (pursuit.next event).requests later := rfl

theorem requests_of_isStopped (steady : pursuit.IsSteady)
    (stopped : pursuit.IsStopped) (later : List PursuitEvent) :
    pursuit.requests later = [] := by
  induction later generalizing pursuit with
  | nil => rfl
  | cons event later ih =>
      obtain ⟨silent, next⟩ :=
        (goes_step steady event).of_isStopped steady stopped
      rw [requests_cons, silent, List.nil_append]
      exact ih (steady.next event) next

/-! ## Where it does not -/

/-- While the question is open whether to repeat an attempt, nothing but an
answer matters, and with yes a call is dispatched. -/
theorem Goes.of_repeating {event : PursuitEvent} {step : PursuitStep σ}
    (goes : pursuit.Goes event step) {run : Run}
    (isPhase : pursuit.phase = .asking .regenerate run) :
    match event.answer? with
    | none => step.turn.requests = [] ∧ step.phase = .asking .regenerate run
    | some false =>
        step.turn.requests = [] ∧ ∃ ending, step.phase = .ended ending
    | some true => step.turn.requests ≠ [] := by
  cases goes with
  | fire => exact ⟨rfl, isPhase⟩
  | stay notAwaited =>
      cases event with
      | answer => simp [isPhase, PursuitPhase.awaits] at notAwaited
      | fire | notice | reply => exact ⟨rfl, isPhase⟩
  | regenerate => simp [PursuitEvent.answer?]
  | leave => exact ⟨rfl, _, rfl⟩
  | advance isOther | conclude isOther | settle isOther
  | continueRun isOther => cases isPhase.symm.trans isOther

/-- Then the first answer decides. -/
theorem requests_of_repeating (steady : pursuit.IsSteady) {run : Run}
    (isPhase : pursuit.phase = .asking .regenerate run)
    (later : List PursuitEvent) :
    pursuit.requests later = [] ↔
      later.findSome? PursuitEvent.answer? ≠ some true := by
  induction later generalizing pursuit with
  | nil => simp [requests, along]
  | cons event later ih =>
      have steps := (goes_step steady event).of_repeating isPhase
      rw [List.findSome?_cons, requests_cons]
      cases answer : event.answer? with
      | none =>
          rw [answer] at steps
          rw [steps.1, List.nil_append]
          exact ih (steady.next event) steps.2
      | some yes =>
          cases yes with
          | true =>
              rw [answer] at steps
              simp [steps]
          | false =>
              rw [answer] at steps
              obtain ⟨silent, _, isOver⟩ := steps
              rw [silent, List.nil_append, requests_of_isStopped
                (steady.next event) (.ended isOver) later]
              simp

/-! ## Every firing -/

/-- Firing the handle changes nothing but the tokens. -/
theorem next_fire (pursuit : Pursuit σ) (reason : String) :
    pursuit.next (.fire reason) =
      ⟨pursuit.pipeline.withTokens
        (pursuit.pipeline.cancellation.cancel reason), pursuit.assumesYes,
        pursuit.phase⟩ := by
  have step : pursuit.step (.fire reason) = ⟨none, _, pursuit.phase⟩ :=
    meanwhile_of_none rfl
  rw [next, step]
  rfl

/-- Unless the user is asked whether to repeat an attempt, firing the handle
stops the pursuit. -/
theorem isStopped_fire (steady : pursuit.IsSteady)
    (notRepeating : ∀ run, pursuit.phase ≠ .asking .regenerate run)
    (reason : String) : (pursuit.next (.fire reason)).IsStopped := by
  rw [next_fire]
  have marked : pursuit.pipeline.cancellation.current?.isSome →
      IsStopped ⟨pursuit.pipeline.withTokens
        (pursuit.pipeline.cancellation.cancel reason), pursuit.assumesYes,
        pursuit.phase⟩ := fun hasToken =>
    .pending notRepeating (CancelGroup.isSome_pending?_cancel hasToken reason)
  cases steady.fits with
  | working _ _ _ token => exact marked (Option.isSome_of_eq_some token)
  | paused _ _ current =>
      exact marked (steady.shaped.hasToken (Option.isSome_of_eq_some current))
  | invalid isPhase => exact absurd isPhase (notRepeating _)
  | ended isPhase => exact .ended isPhase

/-- After the handle was fired a call is dispatched exactly when the user is
being asked whether to repeat an attempt, and the first answer is yes. -/
theorem requests_after_fire (history : History σ) (supply : Supply)
    (maxAttempts : UInt32) (assumesYes : Bool) (request : RunRequest)
    (registry : ModelRegistry) (before : List PursuitEvent) (reason : String)
    (later : List PursuitEvent) :
    let pursuit := (begin (.new history supply maxAttempts) assumesYes request
      registry).after before
    (pursuit.next (.fire reason)).requests later ≠ [] ↔
      (∃ run, pursuit.phase = .asking .regenerate run) ∧
        later.findSome? PursuitEvent.answer? = some true := by
  intro pursuit
  have steady : pursuit.IsSteady := (begin_isSteady history supply maxAttempts
    assumesYes request registry).after before
  have nextSteady := steady.next (.fire reason)
  by_cases repeating : ∃ run, pursuit.phase = .asking .regenerate run
  · obtain ⟨run, isPhase⟩ := repeating
    have samePhase : (pursuit.next (.fire reason)).phase =
        .asking .regenerate run := by
      rw [next_fire]
      exact isPhase
    rw [Ne, requests_of_repeating nextSteady samePhase, not_not]
    exact (and_iff_right ⟨run, isPhase⟩).symm
  · have stopped := isStopped_fire steady (not_exists.mp repeating) reason
    simp [requests_of_isStopped nextSteady stopped later, repeating]

end Pursuit

end AgentPipeline
