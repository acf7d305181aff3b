import AgentPipeline.Proofs.Poller.Refusal

/-!
# The timer of a session

What the operations of the poller do to the timer.  An operation that starts
it does so only when it ends well, and one that stops it does so unless it is
refused.  None of them asks for a poll: only the timer does when it is due,
and whoever wants a poll at once.
-/

namespace AgentPipeline

/-- The operation was not refused, even if what it did could not be written. -/
def isCarriedOut {α : Type} : Except EvaluatorError α → Bool
  | .ok _ => true
  | .error error => error.isStorage

namespace PollerEffect

/-- The poll that the service is asked for. -/
def poll? : PollerEffect → Option Poll
  | .call (.poll run offset) => some ⟨run, offset⟩
  | .announce _ | .call _ => none

/-- Polling is picked up from the store. -/
def isPickUp : PollerEffect → Bool
  | .announce (.evaluatorResumed _) => true
  | .announce _ | .call _ => false

end PollerEffect

namespace Poller

variable {σ ς α : Type} [KeyValueStore σ]

/-- The polls that the service is asked for, in their order. -/
def pollsOf (effects : List PollerEffect) : List Poll :=
  effects.filterMap PollerEffect.poll?

@[simp]
theorem pollsOf_nil : pollsOf [] = [] := rfl

@[simp]
theorem pollsOf_request (poll : Poll) : pollsOf [.call poll.request] = [poll] :=
  rfl

/-- The timer and what it is set by are the same. -/
structure SameTimer (before after : Poller σ) : Prop where
  timer : after.timer = before.timer
  clock : after.clock = before.clock
  interval : after.interval = before.interval

omit [KeyValueStore σ] in
theorem sameTimer_refl (poller : Poller σ) : poller.SameTimer poller :=
  ⟨rfl, rfl, rfl⟩

omit [KeyValueStore σ] in
theorem SameTimer.trans {first second third : Poller σ}
    (earlier : first.SameTimer second) (later : second.SameTimer third) :
    first.SameTimer third :=
  ⟨later.timer.trans earlier.timer, later.clock.trans earlier.clock,
    later.interval.trans earlier.interval⟩

omit [KeyValueStore σ] in
theorem sameTimer_readClock (poller : Poller σ) :
    poller.SameTimer poller.readClock.2 := by
  constructor <;> simp only [readClock]

omit [KeyValueStore σ] in
theorem SameTimer.startTimer {before after : Poller σ}
    (same : before.SameTimer after) :
    before.startTimer.SameTimer after.startTimer := by
  refine ⟨?_, same.clock, same.interval⟩
  simp only [Poller.startTimer, same.clock, same.interval]

end Poller

namespace Reaction

variable {σ α : Type}

/-- The operation leaves the timer alone. -/
structure LeavesTimer (reaction : Reaction σ α) (poller : Poller σ) :
    Prop where
  same : poller.SameTimer reaction.poller
  silent : Poller.pollsOf reaction.effects = []

/-- The operation starts the timer if it ends well, and otherwise leaves it as
it is. -/
structure StartsTimer (reaction : Reaction σ α) (poller : Poller σ) :
    Prop where
  timer : reaction.poller.timer =
    if reaction.result.isOk then poller.startTimer.timer else poller.timer
  interval : reaction.poller.interval = poller.interval
  silent : Poller.pollsOf reaction.effects = []

/-- The operation starts the timer exactly if polling is picked up. -/
structure PicksUp (reaction : Reaction σ Unit) (poller : Poller σ) :
    Prop where
  timer : reaction.poller.timer =
    if reaction.effects.any PollerEffect.isPickUp then
      poller.startTimer.timer
    else poller.timer
  interval : reaction.poller.interval = poller.interval
  silent : Poller.pollsOf reaction.effects = []

/-- The operation stops the timer unless it is refused. -/
structure StopsTimer (reaction : Reaction σ α) (poller : Poller σ) :
    Prop where
  timer : reaction.poller.timer =
    if isCarriedOut reaction.result then .off else poller.timer
  silent : Poller.pollsOf reaction.effects = []

end Reaction

namespace Poller

variable {σ ς α : Type} [KeyValueStore σ]

/-! ## Changes that are written -/

/-- A change that is written leads on, or the operation fails at the store. -/
theorem exists_commit (timed : Poller σ) (dashboard : Dashboard)
    (goOn : Poller σ → Reaction σ α) :
    ∃ written, timed.SameTimer written ∧
      (timed.commit dashboard goOn = goOn written ∨
        ∃ error, timed.commit dashboard goOn =
          written.fail (.storage error)) := by
  refine ⟨(timed.write dashboard).2, ⟨rfl, rfl, rfl⟩, ?_⟩
  unfold commit
  split
  next written => exact .inl (by rw [written])
  next written => exact .inr ⟨_, by rw [written]⟩

section Commit

variable {before timed : Poller σ} (same : before.SameTimer timed)
  (dashboard : Dashboard)
include same

theorem commit_leavesTimer {effects : List PollerEffect}
    (silent : pollsOf effects = []) (value : α) :
    (timed.commit dashboard fun written =>
      written.answer effects value).LeavesTimer before := by
  obtain ⟨written, kept, isWritten | ⟨error, failed⟩⟩ :=
    timed.exists_commit dashboard fun written => written.answer effects value
  · rw [isWritten]
    exact ⟨same.trans kept, silent⟩
  · rw [failed]
    exact ⟨same.trans kept, rfl⟩

theorem commit_startsTimer {effects : List PollerEffect}
    (silent : pollsOf effects = []) (value : α) :
    (timed.commit dashboard fun written =>
      written.startTimer.answer effects value).StartsTimer before := by
  obtain ⟨written, kept, isWritten | ⟨error, failed⟩⟩ :=
    timed.exists_commit dashboard fun written =>
      written.startTimer.answer effects value
  · rw [isWritten]
    have started := (same.trans kept).startTimer
    exact ⟨started.timer, started.interval, silent⟩
  · rw [failed]
    exact ⟨(same.trans kept).timer, (same.trans kept).interval, rfl⟩

theorem commit_picksUp (run : String) :
    (timed.commit dashboard fun written => written.pickUp run).PicksUp
      before := by
  obtain ⟨written, kept, isWritten | ⟨error, failed⟩⟩ :=
    timed.exists_commit dashboard fun written => written.pickUp run
  · rw [isWritten]
    have started := (same.trans kept).startTimer
    exact ⟨started.timer, started.interval, rfl⟩
  · rw [failed]
    exact ⟨(same.trans kept).timer, (same.trans kept).interval, rfl⟩

end Commit

theorem commit_stopsTimer {timed : Poller σ} (off : timed.timer = .off)
    (before : Poller σ) (dashboard : Dashboard)
    {effects : List PollerEffect} (silent : pollsOf effects = [])
    (value : α) :
    (timed.commit dashboard fun written =>
      written.answer effects value).StopsTimer before := by
  obtain ⟨written, kept, isWritten | ⟨error, failed⟩⟩ :=
    timed.exists_commit dashboard fun written => written.answer effects value
  · rw [isWritten]
    exact ⟨kept.timer.trans off, silent⟩
  · rw [failed]
    exact ⟨kept.timer.trans off, rfl⟩

/-! A request that is no poll may come before. -/

section Before

variable {poller : Poller σ} {effect : PollerEffect}
  (isOther : effect.poll? = none)
include isOther

omit [KeyValueStore σ] in
theorem pollsOf_cons {effects : List PollerEffect}
    (silent : pollsOf effects = []) : pollsOf (effect :: effects) = [] :=
  (List.filterMap_cons_none isOther).trans silent

omit [KeyValueStore σ] in
theorem startsTimer_after {reaction : Reaction σ α}
    (starts : reaction.StartsTimer poller) :
    (reaction.after [effect]).StartsTimer poller :=
  ⟨starts.timer, starts.interval, pollsOf_cons isOther starts.silent⟩

omit [KeyValueStore σ] in
theorem stopsTimer_after {reaction : Reaction σ α}
    (stops : reaction.StopsTimer poller) :
    (reaction.after [effect]).StopsTimer poller :=
  ⟨stops.timer, pollsOf_cons isOther stops.silent⟩

end Before

omit [KeyValueStore σ] in
theorem picksUp_after {reaction : Reaction σ Unit} {poller : Poller σ}
    (picksUp : reaction.PicksUp poller) (run : String) (action : RunControl) :
    (reaction.after [.call (.control run action)]).PicksUp poller :=
  ⟨picksUp.timer, picksUp.interval, pollsOf_cons rfl picksUp.silent⟩

/-! ## One operation -/

section Operations

variable [AgentService ς] (poller : Poller σ)

theorem start_startsTimer (kind : String) (itemLimit : UInt32)
    (model : Option ModelConfig) (service : ς) :
    (poller.start kind itemLimit model service).1.StartsTimer poller := by
  unfold start
  split
  · exact ⟨rfl, rfl, rfl⟩
  split
  · exact ⟨rfl, rfl, rfl⟩
  split
  · exact ⟨rfl, rfl, rfl⟩
  next chosen _ =>
    dsimp only
    cases AgentService.call
        (.startEvaluator ⟨kind, itemLimit, some chosen⟩) service with
    | mk outcome service =>
        apply startsTimer_after rfl
        cases outcome with
        | error error => exact ⟨rfl, rfl, rfl⟩
        | ok started =>
            exact commit_startsTimer poller.sameTimer_readClock _ rfl _

theorem resume_startsTimer (service : ς) :
    (poller.resume service).1.StartsTimer poller := by
  unfold resume
  split
  · exact ⟨rfl, rfl, rfl⟩
  split
  · exact ⟨rfl, rfl, rfl⟩
  next run _ _ =>
    dsimp only
    cases control run.id .resume service with
    | mk outcome service =>
        apply startsTimer_after rfl
        cases outcome with
        | error error => exact ⟨rfl, rfl, rfl⟩
        | ok done =>
            exact commit_startsTimer poller.sameTimer_readClock _ rfl _

theorem stop_stopsTimer (service : ς) :
    (poller.stop service).1.StopsTimer poller := by
  unfold stop
  split
  · exact ⟨rfl, rfl⟩
  split
  · exact ⟨rfl, rfl⟩
  next run _ _ =>
    dsimp only
    cases control run.id .stop service with
    | mk outcome service =>
        apply stopsTimer_after rfl
        cases outcome with
        | error error => exact ⟨rfl, rfl⟩
        | ok done =>
            exact commit_stopsTimer
              poller.stopTimer.sameTimer_readClock.timer poller _ rfl _

theorem clear_stopsTimer : poller.clear.StopsTimer poller := by
  unfold clear
  split
  · exact ⟨rfl, rfl⟩
  · exact commit_stopsTimer rfl poller _ rfl _

/-- A run that is suspended is no longer polled. -/
theorem suspend_timer (silent : Bool) (service : ς) :
    (poller.suspend silent service).1.poller.timer =
        (if poller.running?.isSome then .off else poller.timer) ∧
      pollsOf (poller.suspend silent service).1.effects = [] := by
  cases found : poller.running? with
  | none =>
      simp only [suspend, found]
      exact ⟨rfl, rfl⟩
  | some run =>
      rw [suspend_eq_commit found]
      obtain ⟨timer, nothing⟩ := commit_stopsTimer
        poller.stopTimer.sameTimer_readClock.timer poller.stopTimer
        { poller.dashboard with
          run := some (run.become .suspended false poller.supply.now) }
        (rfl : pollsOf
          [.announce (.evaluatorStatusChanged run.id .suspended (!silent)),
            .call (.control run.id .suspend)] = []) true
      exact ⟨timer.trans (ite_self _), nothing⟩

omit [KeyValueStore σ] in
theorem viewRecord_leavesTimer (index : UInt32) (service : ς) :
    (poller.viewRecord index service).1.LeavesTimer poller := by
  unfold viewRecord
  split
  · exact ⟨poller.sameTimer_refl, rfl⟩
  split
  · exact ⟨poller.sameTimer_refl, rfl⟩
  next run _ _ =>
    dsimp only
    cases AgentService.call (.fetchRecord run.id index) service with
    | mk outcome service =>
        cases outcome <;> exact ⟨poller.sameTimer_refl, rfl⟩

omit [AgentService ς] in
theorem handleAnswer_leavesTimer (poll : Poll)
    (outcome : Except ServiceError RunSnapshot) :
    (poller.handleAnswer poll outcome).LeavesTimer poller := by
  unfold handleAnswer
  split
  · exact ⟨poller.sameTimer_refl, rfl⟩
  unfold handleSnapshot
  split
  · exact ⟨poller.sameTimer_refl, rfl⟩
  dsimp only
  split
  · exact ⟨poller.sameTimer_refl, rfl⟩
  next outcome _ _ =>
    refine commit_leavesTimer poller.sameTimer_readClock _ ?_ _
    cases outcome <;> rfl

/-- When a session is opened only a run that is picked up is polled. -/
theorem rehydrate_picksUp (service : ς) :
    (poller.rehydrate service).1.PicksUp poller := by
  unfold rehydrate
  split
  · exact ⟨rfl, rfl, rfl⟩
  split
  · exact ⟨rfl, rfl, rfl⟩
  split
  next run _ _ _ =>
    dsimp only
    cases control run.id .resume service with
    | mk outcome service =>
        apply picksUp_after
        cases outcome with
        | error error => exact ⟨rfl, rfl, rfl⟩
        | ok done => exact commit_picksUp poller.sameTimer_readClock _ _
  · exact ⟨rfl, rfl, rfl⟩

omit [AgentService ς] in
theorem autoSuspend_leavesTimer :
    poller.SameTimer poller.autoSuspend.1 ∧
      pollsOf poller.autoSuspend.2.1 = [] := by
  unfold autoSuspend
  split
  · exact ⟨poller.sameTimer_refl, rfl⟩
  · exact ⟨poller.sameTimer_readClock.trans ⟨rfl, rfl, rfl⟩, rfl⟩

omit [KeyValueStore σ] in
theorem pollsOf_requestSuspend {effects : List PollerEffect}
    (silent : pollsOf effects = []) (run : Option String) (service : ς) :
    pollsOf (poller.requestSuspend effects run service).2.1 = [] := by
  cases run with
  | none => exact silent
  | some run =>
      simp only [requestSuspend, pollsOf, List.filterMap_append]
      exact List.append_eq_nil_iff.mpr ⟨silent, rfl⟩

theorem pollsOf_close (service : ς) :
    pollsOf (poller.close service).2.1 = [] := by
  unfold close
  split
  · exact pollsOf_requestSuspend _ (autoSuspend_leavesTimer _).2 _ _
  · rfl

omit [AgentService ς] in
theorem pollsOf_drop (inUse : Bool) :
    pollsOf (poller.drop inUse).2.1 = [] := by
  unfold drop
  split
  · split
    · rfl
    · exact (autoSuspend_leavesTimer _).2
  · rfl

theorem finishTeardown_leavesTimer (rest : Teardown) (service : ς) :
    poller.SameTimer (poller.finishTeardown rest service).1 ∧
      pollsOf (poller.finishTeardown rest service).2.1 = [] := by
  cases rest with
  | nothing => exact ⟨poller.sameTimer_refl, rfl⟩
  | request run =>
      refine ⟨?_, pollsOf_requestSuspend _ rfl _ _⟩
      simp only [finishTeardown, requestSuspend_poller]
      exact poller.sameTimer_refl
  | whole =>
      obtain ⟨same, silent⟩ := poller.autoSuspend_leavesTimer
      refine ⟨?_, pollsOf_requestSuspend _ silent _ _⟩
      simp only [finishTeardown, requestSuspend_poller]
      exact same

end Operations

end Poller

end AgentPipeline
