import AgentPipeline.Proofs.Poller.Overtaking

/-!
# Operations that fail

What the caller of an operation is told at the end of it.  Unless the error is
one of the store, an operation that fails has changed nothing, and the only
thing that is ever told of it is that an answer broke the protocol.
Main statement: `refusals_after`.
-/

namespace AgentPipeline

namespace EvaluatorError

/-- Something could not be read or written. -/
def isStorage : EvaluatorError → Bool
  | .storage _ => true
  | _ => false

/-- What everybody is told of the error. -/
def violations : EvaluatorError → List Event
  | .cursorRegression stored received =>
      [.protocolViolation (cursorRegression stored received).message]
  | _ => []

end EvaluatorError

/-- Unless the reaction fails at the store, a failure leaves the poller as it
is, and nobody is told of anything but a violation of the protocol. -/
def Reaction.FailsCleanly {σ α : Type} (reaction : Reaction σ α)
    (poller : Poller σ) : Prop :=
  ∀ error, reaction.result = .error error → error.isStorage = false →
    reaction.poller = poller ∧
      Poller.eventsOf reaction.effects = error.violations

namespace Poller

variable {σ ς α : Type} [KeyValueStore σ]

/-! ## One operation -/

omit [KeyValueStore σ] in
theorem failsCleanly_fail (poller : Poller σ) {error : EvaluatorError}
    (silent : error.violations = []) :
    (poller.fail error : Reaction σ α).FailsCleanly poller := by
  rintro _ ⟨⟩ _
  exact ⟨rfl, silent.symm⟩

omit [KeyValueStore σ] in
theorem failsCleanly_of_ok {reaction : Reaction σ α} {value : α}
    (returns : reaction.result = .ok value) {poller : Poller σ} :
    reaction.FailsCleanly poller := by
  intro error failed
  rw [returns] at failed
  cases failed

/-- A change that is written ends an operation well, so only the store can
make it fail. -/
theorem isStorage_of_commit {timed : Poller σ} {dashboard : Dashboard}
    {goOn : Poller σ → Reaction σ α}
    (returns : ∀ written, ∃ value, (goOn written).result = .ok value)
    {error : EvaluatorError}
    (failed : (timed.commit dashboard goOn).result = .error error) :
    error.isStorage = true := by
  unfold commit at failed
  split at failed
  next written _ =>
    obtain ⟨value, isValue⟩ := returns written
    rw [isValue] at failed
    cases failed
  next =>
    cases failed
    rfl

theorem failsCleanly_commit (timed before : Poller σ) (dashboard : Dashboard)
    {goOn : Poller σ → Reaction σ α}
    (returns : ∀ written, ∃ value, (goOn written).result = .ok value) :
    (timed.commit dashboard goOn).FailsCleanly before := by
  intro error failed notStorage
  rw [isStorage_of_commit returns failed] at notStorage
  cases notStorage

omit [KeyValueStore σ] in
theorem failsCleanly_after {reaction : Reaction σ α} {poller : Poller σ}
    (request : Request) (cleanly : reaction.FailsCleanly poller) :
    (reaction.after [.call request]).FailsCleanly poller := by
  intro error failed notStorage
  exact cleanly error failed notStorage

section Operations

variable [AgentService ς] (poller : Poller σ)

theorem start_failsCleanly (kind : String) (itemLimit : UInt32)
    (model : Option ModelConfig) (service : ς) :
    (poller.start kind itemLimit model service).1.FailsCleanly poller := by
  unfold start
  split
  · exact failsCleanly_fail poller rfl
  split
  · exact failsCleanly_fail poller rfl
  split
  · exact failsCleanly_fail poller rfl
  next chosen _ =>
    dsimp only
    cases AgentService.call
        (.startEvaluator ⟨kind, itemLimit, some chosen⟩) service with
    | mk outcome service =>
        apply failsCleanly_after
        cases outcome with
        | error error => exact failsCleanly_fail poller rfl
        | ok started => exact failsCleanly_commit _ _ _ fun _ => ⟨_, rfl⟩

theorem suspend_failsCleanly (silent : Bool) (service : ς) :
    (poller.suspend silent service).1.FailsCleanly poller := by
  cases found : poller.running? with
  | none =>
      simp only [suspend, found]
      exact failsCleanly_of_ok rfl
  | some run =>
      rw [suspend_eq_commit found]
      exact failsCleanly_commit _ _ _ fun _ => ⟨_, rfl⟩

theorem resume_failsCleanly (service : ς) :
    (poller.resume service).1.FailsCleanly poller := by
  unfold resume
  split
  · exact failsCleanly_fail poller rfl
  split
  · exact failsCleanly_fail poller rfl
  next run _ _ =>
    dsimp only
    cases control run.id .resume service with
    | mk outcome service =>
        apply failsCleanly_after
        cases outcome with
        | error error => exact failsCleanly_fail poller rfl
        | ok done => exact failsCleanly_commit _ _ _ fun _ => ⟨_, rfl⟩

theorem stop_failsCleanly (service : ς) :
    (poller.stop service).1.FailsCleanly poller := by
  unfold stop
  split
  · exact failsCleanly_fail poller rfl
  split
  · exact failsCleanly_fail poller rfl
  next run _ _ =>
    dsimp only
    cases control run.id .stop service with
    | mk outcome service =>
        apply failsCleanly_after
        cases outcome with
        | error error => exact failsCleanly_fail poller rfl
        | ok done => exact failsCleanly_commit _ _ _ fun _ => ⟨_, rfl⟩

omit [KeyValueStore σ] in
theorem viewRecord_failsCleanly (index : UInt32) (service : ς) :
    (poller.viewRecord index service).1.FailsCleanly poller := by
  unfold viewRecord
  split
  · exact failsCleanly_fail poller rfl
  split
  · exact failsCleanly_fail poller rfl
  next run _ _ =>
    dsimp only
    cases AgentService.call (.fetchRecord run.id index) service with
    | mk outcome service =>
        apply failsCleanly_after
        cases outcome with
        | error error => exact failsCleanly_fail poller rfl
        | ok record => exact failsCleanly_of_ok rfl

theorem clear_failsCleanly : poller.clear.FailsCleanly poller := by
  unfold clear
  split
  · exact failsCleanly_fail poller rfl
  · exact failsCleanly_commit _ _ _ fun _ => ⟨_, rfl⟩

omit [AgentService ς] in
theorem handleAnswer_failsCleanly (poll : Poll)
    (outcome : Except ServiceError RunSnapshot) :
    (poller.handleAnswer poll outcome).FailsCleanly poller := by
  unfold handleAnswer
  split
  · exact failsCleanly_fail poller rfl
  unfold handleSnapshot
  split
  · exact failsCleanly_of_ok rfl
  dsimp only
  split
  next refused =>
    obtain ⟨rfl, -⟩ := EvaluatorRun.takeOver_eq_error refused
    rintro _ ⟨⟩ _
    exact ⟨rfl, rfl⟩
  · exact failsCleanly_commit _ _ _ fun _ => ⟨_, rfl⟩

omit [KeyValueStore σ] [AgentService ς] in
variable {poller} in
theorem violations_of_nextPoll {error : EvaluatorError}
    (refused : poller.nextPoll = .error error) : error.violations = [] := by
  unfold nextPoll at refused
  split at refused
  · cases refused
    rfl
  split at refused
  · cases refused
  · cases refused
    rfl

variable {poller} in
/-- To go on with a run fails at the store at most. -/
theorem isStorage_of_rehydrate {service : ς} {error : EvaluatorError}
    (failed : (poller.rehydrate service).1.result = .error error) :
    error.isStorage = true := by
  unfold rehydrate at failed
  split at failed
  · cases failed
  split at failed
  · cases failed
  split at failed
  next run _ _ _ =>
    dsimp only at failed
    generalize control run.id .resume service = answered at failed
    obtain ⟨outcome, service⟩ := answered
    cases outcome with
    | error error => cases failed
    | ok done => exact isStorage_of_commit (fun _ => ⟨_, rfl⟩) failed
  · cases failed

end Operations

end Poller

namespace Desk

variable {σ ς : Type} [KeyValueStore σ] [AgentService ς]

/-- What is found when a session is opened, unless there is one, or the run of
the last one has still to be suspended. -/
def found? (desk : Desk σ ς) : Option (Except StorageError (Poller σ)) :=
  if desk.isOpen ∨ .whole ∈ desk.pending then none
  else some (Poller.openPassive desk.poller.store desk.poller.supply
    desk.poller.interval desk.poller.clock)

/-- What an operation of the session returns, apart from the value. -/
def returns? {α : Type} (desk : Desk σ ς) (reaction : Reaction σ α) :
    Option (Except EvaluatorError Unit) :=
  if desk.isOpen then some reaction.forget.result else none

/-- What the caller of an operation is told in a step, apart from the value
that is returned.  Whoever asks for a poll is told when its answer has been
handled, unless it cannot be sent. -/
def outcome? (desk : Desk σ ς) :
    SessionStep → Option (Except EvaluatorError Unit)
  | .openPassive =>
      desk.found?.map fun found => match found with
        | .error error => .error (.storage error)
        | .ok _ => .ok ()
  | .openActive =>
      desk.found?.map fun found => match found with
        | .error error => .error (.storage error)
        | .ok poller => (poller.rehydrate desk.service).1.result
  | .selectEvaluator kind => desk.returns? (desk.poller.selectEvaluator kind)
  | .setItemLimit kind limit =>
      desk.returns? (desk.poller.setItemLimit kind limit)
  | .start kind itemLimit model =>
      desk.returns? (desk.poller.start kind itemLimit model desk.service).1
  | .suspend silent =>
      desk.returns? (desk.poller.suspend silent desk.service).1
  | .resume => desk.returns? (desk.poller.resume desk.service).1
  | .stop => desk.returns? (desk.poller.stop desk.service).1
  | .clear => desk.returns? desk.poller.clear
  | .viewRecord index =>
      desk.returns? (desk.poller.viewRecord index desk.service).1
  | .ask =>
      if desk.isOpen then
        match desk.poller.nextPoll with
        | .ok _ => none
        | .error error => some (.error error)
      else none
  | .answer sent forTimer outcome =>
      if sent ∈ desk.asked then
        if forTimer then
          if desk.isOpen ∧ desk.poller.timer = .polling sent.poll then
            some (desk.poller.handleTimerAnswer sent.poll
              outcome).forget.result
          else none
        else some (desk.poller.handleAnswer sent.poll outcome).forget.result
      else none
  | .takeResumed | .timerDue | .close | .detach | .drop _
  | .finishTeardown _ | .vanish => none

/-- Dashboard and store are the same, there is a timer exactly if there was
one, and the flag is as it was. -/
structure StaysAs (desk after : Desk σ ς) : Prop where
  dashboard : after.poller.dashboard = desk.poller.dashboard
  store : after.poller.store = desk.poller.store
  polling : after.poller.isPolling = desk.poller.isPolling
  resumed : after.poller.resumed = desk.poller.resumed

omit [KeyValueStore σ] [AgentService ς] in
theorem staysAs_of_poller {desk after : Desk σ ς}
    (same : after.poller = desk.poller) : desk.StaysAs after := by
  constructor <;> rw [same]

/-! ## One step -/

omit [KeyValueStore σ] [AgentService ς] in
/-- To send a poll changes nothing. -/
theorem ask_staysAs (desk : Desk σ ς) : desk.StaysAs desk.askPoll := by
  apply staysAs_of_poller
  unfold askPoll
  split
  · split <;> rfl
  · rfl

section Steps

variable {desk : Desk σ ς} {error : EvaluatorError}
  (notStorage : error.isStorage = false)

include notStorage

omit [KeyValueStore σ] [AgentService ς] in
/-- An operation of a session that fails cleanly leaves the desk as it was. -/
theorem staysAs_of_returns {α : Type} {reaction : Reaction σ α}
    (cleanly : reaction.FailsCleanly desk.poller)
    (failed : desk.returns? reaction = some (.error error))
    {after : Desk σ ς} {effects : List PollerEffect}
    (leads : desk.isOpen = true →
      after.poller = reaction.poller ∧ effects = reaction.effects) :
    desk.StaysAs after ∧ Poller.eventsOf effects = error.violations := by
  unfold returns? at failed
  split at failed
  next isOpen =>
    obtain ⟨isPoller, isNoticed⟩ := leads isOpen
    obtain ⟨samePoller, isTold⟩ :=
      cleanly error (forget_eq_error (Option.some.inj failed)) notStorage
    rw [isNoticed]
    exact ⟨staysAs_of_poller (isPoller.trans samePoller), isTold⟩
  next => cases failed

/-- A poll of the timer that fails leaves the timer going. -/
theorem takeAnswer_staysAs {sent : SentPoll} {forTimer : Bool}
    {outcome : Except ServiceError RunSnapshot}
    (failed : desk.outcome? (.answer sent forTimer outcome) =
      some (.error error)) :
    desk.StaysAs (desk.takeAnswer sent forTimer outcome) ∧
      Poller.eventsOf (desk.noticed (.answer sent forTimer outcome)) =
        error.violations := by
  have cleanly := desk.poller.handleAnswer_failsCleanly sent.poll outcome
  simp only [outcome?] at failed
  simp only [takeAnswer, noticed]
  split at failed
  case isFalse => cases failed
  next wasSent =>
  rw [if_pos wasSent, if_pos wasSent]
  split at failed
  next isTimer =>
    split at failed
    case isFalse => cases failed
    next waits =>
      have refused : (desk.poller.handleAnswer sent.poll outcome).result =
          .error error :=
        forget_eq_error (Option.some.inj failed)
      obtain ⟨samePoller, isTold⟩ := cleanly error refused notStorage
      have goesOn : (desk.poller.handleTimerAnswer sent.poll outcome).poller =
          desk.poller.startTimer := by
        simp only [Poller.handleTimerAnswer, refused, if_true, samePoller]
      have isAlive : desk.poller.isPolling = true := by
        rw [Poller.isPolling, waits.2]
        rfl
      rw [if_pos isTimer, if_pos isTimer, if_pos waits, if_pos waits, goesOn]
      exact ⟨⟨rfl, rfl, isAlive.symm, rfl⟩, isTold⟩
  next notTimer =>
    obtain ⟨samePoller, isTold⟩ :=
      cleanly error (forget_eq_error (Option.some.inj failed)) notStorage
    rw [if_neg notTimer, if_neg notTimer]
    exact ⟨staysAs_of_poller samePoller, isTold⟩

/-- A session that is opened fails at the store at most. -/
theorem opening_isStorage {step : SessionStep} (opens : step.opens = true)
    (failed : desk.outcome? step = some (.error error)) : False := by
  have isStorage : error.isStorage = true := by
    cases step with
    | openPassive =>
        obtain ⟨found, _, isError⟩ := Option.map_eq_some_iff.mp failed
        split at isError
        · cases isError
          rfl
        · cases isError
    | openActive =>
        obtain ⟨found, _, isError⟩ := Option.map_eq_some_iff.mp failed
        split at isError
        · cases isError
          rfl
        · exact Poller.isStorage_of_rehydrate isError
    | _ => cases opens
  rw [isStorage] at notStorage
  cases notStorage

theorem happen_staysAs {step : SessionStep}
    (failed : desk.outcome? step = some (.error error)) :
    desk.StaysAs (desk.happen step) ∧
      Poller.eventsOf (desk.noticed step) = error.violations := by
  cases step with
  | openPassive | openActive =>
      exact (opening_isStorage notStorage rfl failed).elim
  | selectEvaluator kind =>
      refine staysAs_of_returns notStorage
        (Poller.failsCleanly_commit _ _ _ fun _ => ⟨_, rfl⟩) failed ?_
      intro isOpen
      simp only [happen, noticed, inSession, isOpen, if_true,
        Poller.selectEvaluator, and_self]
  | setItemLimit kind limit =>
      refine staysAs_of_returns notStorage
        (Poller.failsCleanly_commit _ _ _ fun _ => ⟨_, rfl⟩) failed ?_
      intro isOpen
      simp only [happen, noticed, inSession, isOpen, if_true,
        Poller.setItemLimit, and_self]
  | start kind itemLimit model =>
      refine staysAs_of_returns notStorage
        (desk.poller.start_failsCleanly kind itemLimit model desk.service)
        failed ?_
      intro isOpen
      simp only [happen, noticed, startRun, isOpen, if_true, and_self]
  | suspend silent =>
      refine staysAs_of_returns notStorage
        (desk.poller.suspend_failsCleanly silent desk.service) failed ?_
      intro isOpen
      simp only [happen, noticed, inSession, isOpen, if_true, and_self]
  | resume =>
      refine staysAs_of_returns notStorage
        (desk.poller.resume_failsCleanly desk.service) failed ?_
      intro isOpen
      simp only [happen, noticed, inSession, isOpen, if_true, and_self]
  | stop =>
      refine staysAs_of_returns notStorage
        (desk.poller.stop_failsCleanly desk.service) failed ?_
      intro isOpen
      simp only [happen, noticed, inSession, isOpen, if_true, and_self]
  | clear =>
      refine staysAs_of_returns notStorage desk.poller.clear_failsCleanly
        failed ?_
      intro isOpen
      simp only [happen, noticed, inSession, isOpen, if_true, and_self]
  | viewRecord index =>
      refine staysAs_of_returns notStorage
        (desk.poller.viewRecord_failsCleanly index desk.service) failed ?_
      intro isOpen
      simp only [happen, noticed, inSession, isOpen, if_true, and_self]
  | ask =>
      have silent : error.violations = [] := by
        simp only [outcome?] at failed
        split at failed
        case isFalse => cases failed
        split at failed
        · cases failed
        next refused =>
          cases failed
          exact Poller.violations_of_nextPoll refused
      rw [silent]
      exact ⟨desk.ask_staysAs, desk.eventsOf_noticed_poll.1⟩
  | answer sent forTimer outcome => exact takeAnswer_staysAs notStorage failed
  | takeResumed | timerDue | close | detach | drop | finishTeardown
  | vanish => cases failed

end Steps

/-! ## Every state -/

/-- How the operations of a desk fail.  Whoever asks for a poll fails when it
cannot be sent or when its answer is handled, and to send it changes
nothing. -/
structure RefusesCleanly (desk : Desk σ ς) : Prop where
  fails : ∀ moment step error,
    (desk.atMoment moment).outcome? step = some (.error error) →
    error.isStorage = false →
    desk.StaysAs (desk.step moment step) ∧
      desk.news moment step = error.violations
  asks : ∀ moment, desk.StaysAs (desk.step moment .ask) ∧
    desk.news moment .ask = []

theorem refusesCleanly (desk : Desk σ ς) : desk.RefusesCleanly := by
  constructor
  case fails =>
    intro moment step error failed notStorage
    obtain ⟨staysAs, isTold⟩ := happen_staysAs notStorage failed
    exact ⟨⟨staysAs.dashboard, staysAs.store, staysAs.polling,
      staysAs.resumed⟩, isTold⟩
  case asks =>
    intro moment
    have staysAs := (desk.atMoment moment).ask_staysAs
    exact ⟨⟨staysAs.dashboard, staysAs.store, staysAs.polling,
      staysAs.resumed⟩, (desk.atMoment moment).eventsOf_noticed_poll.1⟩

/-- Whatever has happened at a desk, and whatever its service answers, an
operation that is refused leaves everything as it was. -/
theorem refusals_after (store : σ) (service : ς) (supply : Supply)
    (interval : Nat) (steps : List (Moment × SessionStep)) :
    ((new store service supply interval).after steps).RefusesCleanly :=
  refusesCleanly _

/-- The answer to a poll that was overtaken is refused, and the run goes on
from where it is. -/
theorem refusals_late :
    let reached := ofOneRun.after overtaking
    let late := SessionStep.answer bothSent false (.ok (upTo 2))
    (reached.atMoment epoch).outcome? late =
        some (.error (.cursorRegression 3 2)) ∧
      reached.StaysAs (reached.step epoch late) ∧
      reached.news epoch late =
        [.protocolViolation (EvaluatorError.cursorRegression 3 2).message] ∧
      reached.poller.isPolling = true := by
  intro reached late
  have refused : (reached.atMoment epoch).outcome? late =
      some (.error (.cursorRegression 3 2)) := by
    decide +kernel
  obtain ⟨staysAs, isTold⟩ := (refusals_after MemoryStore.empty oneRun
    ⟨0, 0, ⟨0, 0⟩⟩ 600 overtaking).fails epoch late _ refused rfl
  exact ⟨refused, staysAs, isTold, by decide +kernel⟩

end Desk

end AgentPipeline
