import AgentPipeline.Poller.Polling
import AgentPipeline.Poller.Session

/-!
# Moves of a run

Whatever an operation of the poller does to its dashboard is one of a few
moves of the run, and the dashboard is written whenever it has changed.  There
is one lemma for each operation; nothing else is needed of them.
-/

namespace AgentPipeline

/-- What brings a run to move. -/
inductive RunCause where
  /-- Only preferences change. -/
  | keep
  | start
  | suspend
  | resume
  | stop
  | clear
  /-- The answer to a poll is taken over. -/
  | poll (poll : Poll) (snapshot : RunSnapshot)

/-- The run of a dashboard before and after a move at a given time. -/
inductive RunMove (now : Timestamp) :
    RunCause → Option EvaluatorRun → Option EvaluatorRun → Prop where
  | keep (run : Option EvaluatorRun) : RunMove now .keep run run
  | start {before : Option EvaluatorRun}
      (notLive : ∀ run, before = some run → run.status.isLive = false)
      (kind id : String) (itemLimit : UInt32) (model : Option String) :
      RunMove now .start before
        (some (EvaluatorRun.start kind id itemLimit model now))
  | suspend {run : EvaluatorRun} (running : run.status = .running)
      (automatic : Bool) :
      RunMove now .suspend (some run)
        (some (run.become .suspended automatic now))
  | resume {run : EvaluatorRun} (suspended : run.status = .suspended) :
      RunMove now .resume (some run)
        (some (run.become .running false now))
  | stop {run : EvaluatorRun} (live : run.status.isLive = true) :
      RunMove now .stop (some run)
        (some (run.become .cancelled false now))
  | clear {before : Option EvaluatorRun}
      (notLive : ∀ run, before = some run → run.status.isLive = false) :
      RunMove now .clear before none
  | poll {run reached : EvaluatorRun} {poll : Poll} {snapshot : RunSnapshot}
      {outcome : PollOutcome} (polled : run.id = poll.run)
      (running : run.status = .running)
      (taken : run.takeOver snapshot now = .ok (outcome, reached)) :
      RunMove now (.poll poll snapshot) (some run) (some reached)

namespace Poller

variable {σ ς α : Type} [KeyValueStore σ] [AgentService ς]

/-- From a dashboard and a store a poller has come about without a change, or
by a move of the run that was written. -/
inductive Leads (now : Timestamp) (cause : RunCause) (dashboard : Dashboard)
    (store : σ) (after : Poller σ) : Prop where
  | unchanged (dashboard : after.dashboard = dashboard)
      (store : after.store = store)
  | written (move : RunMove now cause dashboard.run after.dashboard.run)
      (store : after.store = (KeyValueStore.write store
        StoreKey.dashboard.name after.dashboard.encode).2)

/-- The poller was led there from another poller. -/
abbrev LeadsTo (before : Poller σ) (cause : RunCause) (after : Poller σ) :
    Prop :=
  Leads before.supply.now cause before.dashboard before.store after

theorem leadsTo_refl (poller : Poller σ) (cause : RunCause) :
    poller.LeadsTo cause poller :=
  .unchanged rfl rfl

/-- Timers make no difference. -/
theorem Leads.of_same
    {now : Timestamp} {cause : RunCause} {dashboard : Dashboard} {store : σ}
    {after other : Poller σ} (leads : Leads now cause dashboard store after)
    (sameDashboard : other.dashboard = after.dashboard)
    (sameStore : other.store = after.store) :
    Leads now cause dashboard store other := by
  cases leads with
  | unchanged isDashboard isStore =>
      exact .unchanged (sameDashboard.trans isDashboard)
        (sameStore.trans isStore)
  | written move isStore =>
      refine .written (by rwa [sameDashboard]) ?_
      rw [sameStore, sameDashboard]
      exact isStore

omit [KeyValueStore σ] in
theorem readClock_same (poller : Poller σ) :
    poller.readClock.1 = poller.supply.now ∧
      poller.readClock.2.dashboard = poller.dashboard ∧
      poller.readClock.2.store = poller.store := by
  simp only [readClock, Supply.tick, and_self]

omit [KeyValueStore σ] in
theorem stopTimer_same (poller : Poller σ) :
    poller.stopTimer.dashboard = poller.dashboard ∧
      poller.stopTimer.store = poller.store :=
  ⟨rfl, rfl⟩

/-- A dashboard is taken over whether or not it can be written. -/
theorem commit_dashboard (poller : Poller σ) (dashboard : Dashboard)
    {goOn : Poller σ → Reaction σ α}
    (keeps : ∀ written, (goOn written).poller.dashboard = written.dashboard) :
    (poller.commit dashboard goOn).poller.dashboard = dashboard := by
  unfold commit write
  cases KeyValueStore.write poller.store StoreKey.dashboard.name
      dashboard.encode with
  | mk result store =>
      cases result with
      | ok done => exact keeps _
      | error error => rfl

/-- A dashboard that is committed is written, even if that fails. -/
theorem commit_leads
    {now : Timestamp} {cause : RunCause} {before timed : Poller σ}
    (same : timed.dashboard = before.dashboard ∧ timed.store = before.store)
    (dashboard : Dashboard) (goOn : Poller σ → Reaction σ α)
    (move : RunMove now cause before.dashboard.run dashboard.run)
    (keeps : ∀ written, (goOn written).poller.dashboard = written.dashboard ∧
      (goOn written).poller.store = written.store) :
    Leads now cause before.dashboard before.store
      (timed.commit dashboard goOn).poller := by
  rw [← same.2]
  unfold commit write
  cases outcome : KeyValueStore.write timed.store StoreKey.dashboard.name
      dashboard.encode with
  | mk result store =>
      cases result with
      | ok done =>
          obtain ⟨sameDashboard, sameStore⟩ :=
            keeps { timed with store, dashboard }
          refine .written ?_ ?_
          · dsimp only
            rw [sameDashboard]
            exact move
          · dsimp only
            rw [sameStore, sameDashboard, outcome]
      | error error =>
          refine .written move ?_
          simp [fail, outcome]

/-! ## Preferences -/

theorem selectEvaluator_leads (poller : Poller σ) (kind : String) :
    poller.LeadsTo .keep (poller.selectEvaluator kind).poller :=
  commit_leads ⟨rfl, rfl⟩ _ _ (.keep _) fun _ => ⟨rfl, rfl⟩

theorem setItemLimit_leads (poller : Poller σ) (kind : String)
    (limit : UInt32) :
    poller.LeadsTo .keep (poller.setItemLimit kind limit).poller :=
  commit_leads ⟨rfl, rfl⟩ _ _ (.keep _) fun _ => ⟨rfl, rfl⟩

/-! ## Operations on the run -/

omit [KeyValueStore σ] in
theorem running?_eq_some {poller : Poller σ} {run : EvaluatorRun}
    (found : poller.running? = some run) :
    poller.dashboard.run = some run ∧ run.status = .running := by
  obtain ⟨present, running⟩ := Option.filter_eq_some_iff.mp found
  exact ⟨present, by simpa using running⟩

omit [KeyValueStore σ] in
theorem notLive_of_not_isBusy {poller : Poller σ}
    (free : ¬poller.isBusy = true) :
    ∀ run, poller.dashboard.run = some run → run.status.isLive = false := by
  intro run present
  simpa [isBusy, run?, present] using free

/-- The run that was started, even if it could not be written. -/
def startedRun? (reaction : Reaction σ EvaluatorRun) : Option String :=
  match reaction.result with
  | .ok run => some run.id
  | .error (.storage _) => reaction.poller.run?.map (·.id)
  | .error _ => none

/-- A start is refused and changes nothing, or there is a new run. -/
theorem start_leads (poller : Poller σ) (kind : String) (itemLimit : UInt32)
    (model : Option ModelConfig) (service : ς) :
    (startedRun? (poller.start kind itemLimit model service).1 = none ∧
      (poller.start kind itemLimit model service).1.poller = poller) ∨
    ∃ run, startedRun? (poller.start kind itemLimit model service).1 =
        some run.id ∧
      (poller.start kind itemLimit model service).1.poller.dashboard.run =
        some run ∧
      RunMove poller.supply.now .start poller.dashboard.run (some run) ∧
      (poller.start kind itemLimit model service).1.poller.store =
        (KeyValueStore.write poller.store StoreKey.dashboard.name
          (poller.start kind itemLimit model
            service).1.poller.dashboard.encode).2 := by
  unfold start
  split
  · exact .inl ⟨rfl, rfl⟩
  split
  · exact .inl ⟨rfl, rfl⟩
  next chosen =>
    split
    · exact .inl ⟨rfl, rfl⟩
    next free =>
      have notLive := notLive_of_not_isBusy free
      dsimp only
      cases AgentService.call
          (.startEvaluator ⟨kind, itemLimit, some chosen⟩) service with
      | mk outcome service =>
          cases outcome with
          | error error => exact .inl ⟨rfl, rfl⟩
          | ok started =>
              refine .inr ⟨EvaluatorRun.start kind started.id itemLimit
                (some chosen.model) poller.supply.now, ?_⟩
              have move : RunMove poller.supply.now .start
                  poller.dashboard.run _ :=
                .start notLive kind started.id itemLimit (some chosen.model)
              simp only [readClock, Supply.tick, commit, write]
              cases written : KeyValueStore.write poller.store
                  StoreKey.dashboard.name (withStarted poller.dashboard
                    (EvaluatorRun.start kind started.id itemLimit
                      (some chosen.model) poller.supply.now)).encode with
              | mk result store =>
                  cases result with
                  | ok done =>
                      refine ⟨rfl, rfl, move, ?_⟩
                      exact (congrArg Prod.snd written).symm
                  | error error =>
                      refine ⟨rfl, rfl, move, ?_⟩
                      exact (congrArg Prod.snd written).symm

theorem suspend_leads (poller : Poller σ) (silent : Bool) (service : ς) :
    poller.LeadsTo .suspend (poller.suspend silent service).1.poller := by
  unfold suspend
  split
  · exact leadsTo_refl poller .suspend
  next run found =>
    obtain ⟨present, running⟩ := running?_eq_some found
    have move : RunMove poller.supply.now .suspend poller.dashboard.run
        (some (run.become .suspended false poller.supply.now)) := by
      rw [present]
      exact .suspend running false
    simp only [readClock, Supply.tick, stopTimer, write]
    cases written : KeyValueStore.write poller.store StoreKey.dashboard.name
        { poller.dashboard with run := some (run.become .suspended false
          poller.supply.now) : Dashboard }.encode with
    | mk result store =>
        cases result with
        | ok done => exact .written move (congrArg Prod.snd written).symm
        | error error => exact .written move (congrArg Prod.snd written).symm

theorem resume_leads (poller : Poller σ) (service : ς) :
    poller.LeadsTo .resume (poller.resume service).1.poller := by
  unfold resume
  split
  · exact leadsTo_refl poller .resume
  next run present =>
    split
    · exact leadsTo_refl poller .resume
    next suspended =>
      dsimp only
      cases control run.id .resume service with
      | mk outcome service =>
          cases outcome with
          | error error => exact leadsTo_refl poller .resume
          | ok done =>
              have move : RunMove poller.supply.now .resume
                  poller.dashboard.run
                  (some (run.become .running false poller.supply.now)) := by
                rw [show poller.dashboard.run = some run from present]
                exact .resume (Decidable.not_not.mp suspended)
              exact commit_leads (readClock_same poller).2 _ _ move
                fun _ => ⟨rfl, rfl⟩

theorem stop_leads (poller : Poller σ) (service : ς) :
    poller.LeadsTo .stop (poller.stop service).1.poller := by
  unfold stop
  split
  · exact leadsTo_refl poller .stop
  next run present =>
    split
    · exact leadsTo_refl poller .stop
    next live =>
      dsimp only
      cases control run.id .stop service with
      | mk outcome service =>
          cases outcome with
          | error error => exact leadsTo_refl poller .stop
          | ok done =>
              have move : RunMove poller.supply.now .stop
                  poller.dashboard.run
                  (some (run.become .cancelled false poller.supply.now)) := by
                rw [show poller.dashboard.run = some run from present]
                exact .stop (by simpa using live)
              exact commit_leads (readClock_same poller.stopTimer).2 _ _ move
                fun _ => ⟨rfl, rfl⟩

theorem clear_leads (poller : Poller σ) :
    poller.LeadsTo .clear poller.clear.poller := by
  unfold clear
  split
  · exact leadsTo_refl poller .clear
  next free =>
    have move : RunMove poller.supply.now .clear poller.dashboard.run none :=
      .clear (notLive_of_not_isBusy free)
    exact commit_leads (stopTimer_same poller) _ _ move fun _ => ⟨rfl, rfl⟩

theorem viewRecord_leads (poller : Poller σ) (index : UInt32)
    (service : ς) :
    poller.LeadsTo .keep (poller.viewRecord index service).1.poller := by
  unfold viewRecord
  split
  · exact leadsTo_refl poller .keep
  next run present =>
    split
    · exact leadsTo_refl poller .keep
    · dsimp only
      cases AgentService.call (.fetchRecord run.id index) service with
      | mk outcome service =>
          cases outcome with
          | error error => exact leadsTo_refl poller .keep
          | ok record => exact leadsTo_refl poller .keep

/-! ## Polling -/

omit [KeyValueStore σ] in
/-- A poll is of a running run. -/
theorem nextPoll_eq_ok {poller : Poller σ} {poll : Poll}
    (asked : poller.nextPoll = .ok poll) :
    ∃ run, poller.dashboard.run = some run ∧ run.status = .running ∧
      poll = ⟨run.id, run.cursor⟩ := by
  unfold nextPoll at asked
  split at asked
  · cases asked
  next run present =>
    split at asked
    next running =>
      cases asked
      exact ⟨run, present, running, rfl⟩
    · cases asked

omit [KeyValueStore σ] in
theorem polledRun?_eq_some {poller : Poller σ} {poll : Poll}
    {run : EvaluatorRun} (found : poller.polledRun? poll = some run) :
    poller.dashboard.run = some run ∧ run.id = poll.run ∧
      run.status = .running := by
  obtain ⟨present, polled⟩ := Option.filter_eq_some_iff.mp found
  exact ⟨present, by simpa using polled⟩

theorem handleSnapshot_leads (poller : Poller σ) (poll : Poll)
    (snapshot : RunSnapshot) :
    poller.LeadsTo (.poll poll snapshot)
      (poller.handleSnapshot poll snapshot).poller := by
  unfold handleSnapshot
  split
  · exact leadsTo_refl poller _
  next run found =>
    obtain ⟨present, polled, running⟩ := polledRun?_eq_some found
    simp only [readClock, Supply.tick]
    split
    · exact leadsTo_refl poller _
    next outcome reached taken =>
      have move : RunMove poller.supply.now (.poll poll snapshot)
          poller.dashboard.run (some reached) := by
        rw [present]
        exact .poll polled running taken
      exact commit_leads (readClock_same poller).2 _ _ move
                fun _ => ⟨rfl, rfl⟩

/-- What an answer to a poll brings about. -/
def answerCause (poll : Poll) (outcome : Except ServiceError RunSnapshot) :
    RunCause :=
  match outcome with
  | .error _ => .keep
  | .ok snapshot => .poll poll snapshot

theorem handleAnswer_leads (poller : Poller σ) (poll : Poll)
    (outcome : Except ServiceError RunSnapshot) :
    poller.LeadsTo (answerCause poll outcome)
      (poller.handleAnswer poll outcome).poller := by
  cases outcome with
  | error error => exact leadsTo_refl poller .keep
  | ok snapshot => exact handleSnapshot_leads poller poll snapshot

/-- The timer answers like anyone else, and then looks after itself. -/
theorem handleTimerAnswer_same (poller : Poller σ) (poll : Poll)
    (outcome : Except ServiceError RunSnapshot) :
    (poller.handleTimerAnswer poll outcome).poller.dashboard =
        (poller.handleAnswer poll outcome).poller.dashboard ∧
      (poller.handleTimerAnswer poll outcome).poller.store =
        (poller.handleAnswer poll outcome).poller.store ∧
      (poller.handleTimerAnswer poll outcome).effects =
        (poller.handleAnswer poll outcome).effects := by
  unfold handleTimerAnswer
  refine ⟨?_, ?_, rfl⟩ <;> dsimp only
  · split <;> split <;> rfl
  · split <;> split <;> rfl

theorem handleTimerAnswer_leads (poller : Poller σ) (poll : Poll)
    (outcome : Except ServiceError RunSnapshot) :
    poller.LeadsTo (answerCause poll outcome)
      (poller.handleTimerAnswer poll outcome).poller := by
  obtain ⟨sameDashboard, sameStore, -⟩ :=
    handleTimerAnswer_same poller poll outcome
  exact (handleAnswer_leads poller poll outcome).of_same sameDashboard
    sameStore

/-! ## Sessions -/

theorem rehydrate_leads (poller : Poller σ) (service : ς) :
    poller.LeadsTo .resume (poller.rehydrate service).1.poller := by
  unfold rehydrate
  split
  · exact leadsTo_refl poller .resume
  next run present =>
    split
    · exact .unchanged rfl rfl
    split
    next suspended =>
      dsimp only
      cases control run.id .resume service with
      | mk outcome service =>
          cases outcome with
          | error error => exact leadsTo_refl poller .resume
          | ok done =>
              have move : RunMove poller.supply.now .resume
                  poller.dashboard.run
                  (some (run.become .running false poller.supply.now)) := by
                rw [show poller.dashboard.run = some run from present]
                exact .resume suspended.1
              exact commit_leads (readClock_same poller).2 _ _ move
                fun _ => ⟨rfl, rfl⟩
    · exact leadsTo_refl poller .resume

theorem autoSuspend_leads (poller : Poller σ) :
    poller.LeadsTo .suspend poller.autoSuspend.1 := by
  unfold autoSuspend
  split
  · exact leadsTo_refl poller .suspend
  next run found =>
    obtain ⟨present, running⟩ := running?_eq_some found
    refine .written ?_ rfl
    rw [present]
    exact .suspend running true

omit [KeyValueStore σ] in
@[simp]
theorem requestSuspend_poller (poller : Poller σ)
    (effects : List PollerEffect) (run : Option String) (service : ς) :
    (poller.requestSuspend effects run service).1 = poller := by
  cases run <;> rfl

theorem close_leads (poller : Poller σ) (service : ς) :
    poller.LeadsTo .suspend (poller.close service).1 := by
  unfold close
  split
  · simp only [requestSuspend_poller]
    exact autoSuspend_leads poller.stopTimer
  · exact leadsTo_refl poller .suspend

theorem drop_leads (poller : Poller σ) (inUse : Bool) :
    poller.LeadsTo .suspend (poller.drop inUse).1 := by
  unfold drop
  split
  · split
    · exact .unchanged rfl rfl
    · exact autoSuspend_leads poller.stopTimer
  · exact leadsTo_refl poller .suspend

theorem finishTeardown_leads (poller : Poller σ) (teardown : Teardown)
    (service : ς) :
    poller.LeadsTo .suspend
      (poller.finishTeardown teardown service).1 := by
  cases teardown with
  | nothing => exact leadsTo_refl poller .suspend
  | request run =>
      simp only [finishTeardown, requestSuspend_poller]
      exact leadsTo_refl poller .suspend
  | whole =>
      simp only [finishTeardown, requestSuspend_poller]
      exact autoSuspend_leads poller

end Poller

end AgentPipeline
