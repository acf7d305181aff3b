import AgentPipeline.Proofs.Poller.Pause
import AgentPipeline.Proofs.Poller.Unwritten

/-!
# What is told of a run

An operation that moves the run tells of it once the dashboard is written, and
only of the run as it is then.  The one exception is the end of a session,
which tells of the suspension whether or not it could be written.  There is one
lemma for each operation; nothing else is needed of what they tell.
-/

namespace AgentPipeline

namespace Event

/-- What the event says is true of a run. -/
def TellsOf (run : EvaluatorRun) : Event → Prop
  | .evaluatorStarted id kind =>
      run.id = id ∧ run.kind = kind ∧ run.status = .running
  | .pollTick id cursor seen =>
      run.id = id ∧ run.cursor = cursor ∧
        UInt64.ofNat run.progress.items.size = seen
  | .evaluatorStatusChanged id status _ => run.id = id ∧ run.status = status
  | .evaluatorResumed id => run.id = id ∧ run.status = .running
  | _ => False

end Event

/-- How far the run has been read. -/
def EvaluatorRun.tick (run : EvaluatorRun) : Event :=
  .pollTick run.id run.cursor (UInt64.ofNat run.progress.items.size)

/-- The user is not told that a session ends. -/
theorem Pause.notifies_of_ends {pause : Pause} (ends : pause.ends = true) :
    pause.notifies = false := by
  cases pause with
  | suspend silent => cases ends
  | close | drop => rfl

/-- What is told of a run that has moved and was written, given how it was
paused if it was. -/
inductive RunNews (pause : Option Pause) (run : EvaluatorRun) :
    RunCause → List Event → Prop where
  | started (isRunning : run.status = .running) :
      RunNews pause run .start [.evaluatorStarted run.id run.kind]
  | paused {how : Pause} (isPause : pause = some how)
      (isSuspended : run.status = .suspended) :
      RunNews pause run .suspend
        [.evaluatorStatusChanged run.id .suspended how.notifies]
  | resumed (isRunning : run.status = .running) :
      RunNews pause run .resume
        [.evaluatorStatusChanged run.id .running true]
  | pickedUp (isRunning : run.status = .running) :
      RunNews pause run .resume [.evaluatorResumed run.id]
  | stopped (isCancelled : run.status = .cancelled) :
      RunNews pause run .stop
        [.evaluatorStatusChanged run.id .cancelled true]
  | read (poll : Poll) (snapshot : RunSnapshot)
      (isRunning : run.status = .running) :
      RunNews pause run (.poll poll snapshot) [run.tick]
  | settled (poll : Poll) (snapshot : RunSnapshot)
      (isSettled : run.status.isTerminal = true ∨ run.status = .suspended) :
      RunNews pause run (.poll poll snapshot)
        [run.tick, .evaluatorStatusChanged run.id run.status true]

theorem RunNews.tellsOf {pause : Option Pause} {run : EvaluatorRun}
    {cause : RunCause} {events : List Event}
    (news : RunNews pause run cause events) :
    ∀ event ∈ events, event.TellsOf run := by
  intro event isEvent
  cases news with
  | started isStatus =>
      rw [List.mem_singleton.mp isEvent]
      exact ⟨rfl, rfl, isStatus⟩
  | paused _ isStatus | resumed isStatus | pickedUp isStatus
  | stopped isStatus =>
      rw [List.mem_singleton.mp isEvent]
      exact ⟨rfl, isStatus⟩
  | read _ _ _ =>
      rw [List.mem_singleton.mp isEvent]
      exact ⟨rfl, rfl, rfl⟩
  | settled _ _ _ =>
      rcases List.mem_cons.mp isEvent with isTick | isChange
      · rw [isTick]
        exact ⟨rfl, rfl, rfl⟩
      · rw [List.mem_singleton.mp isChange]
        exact ⟨rfl, rfl⟩

/-- A run that is still polled after a snapshot was taken over is running, and
the status of one that is not is told. -/
theorem EvaluatorRun.takeOver_outcome
    {run reached : EvaluatorRun} {snapshot : RunSnapshot} {now : Timestamp}
    {outcome : PollOutcome}
    (taken : run.takeOver snapshot now = .ok (outcome, reached)) :
    (outcome = .settled reached.status ∧
        (reached.status.isTerminal = true ∨ reached.status = .suspended)) ∨
      ((∀ status, outcome ≠ .settled status) ∧
        reached.status = run.status) := by
  unfold takeOver at taken
  split at taken
  · cases taken
  simp only [decide_eq_true_eq] at taken
  split at taken
  next isTerminal =>
    cases taken
    exact .inl ⟨rfl, .inl isTerminal⟩
  split at taken
  next =>
    cases taken
    exact .inl ⟨rfl, .inr rfl⟩
  split at taken
  next =>
    cases taken
    exact .inr ⟨nofun, rfl⟩
  next =>
    cases taken
    exact .inr ⟨nofun, rfl⟩

def PollerEffect.event? : PollerEffect → Option Event
  | .announce event => some event
  | .call _ => none

namespace Poller

variable {σ ς α : Type} [KeyValueStore σ]

/-- The events among the effects, in their order. -/
def eventsOf (effects : List PollerEffect) : List Event :=
  effects.filterMap PollerEffect.event?

@[simp]
theorem eventsOf_nil : eventsOf [] = [] := rfl

@[simp]
theorem eventsOf_announce (event : Event) (effects : List PollerEffect) :
    eventsOf (.announce event :: effects) = event :: eventsOf effects :=
  rfl

@[simp]
theorem eventsOf_call (request : Request) (effects : List PollerEffect) :
    eventsOf (.call request :: effects) = eventsOf effects :=
  rfl

@[simp]
theorem eventsOf_append (first second : List PollerEffect) :
    eventsOf (first ++ second) = eventsOf first ++ eventsOf second :=
  List.filterMap_append

theorem eventsOf_pollEvents (pause : Option Pause) {run reached : EvaluatorRun}
    {poll : Poll} {snapshot : RunSnapshot} {now : Timestamp}
    {outcome : PollOutcome} (isRunning : run.status = .running)
    (taken : run.takeOver snapshot now = .ok (outcome, reached)) :
    RunNews pause reached (.poll poll snapshot)
      (eventsOf (pollEvents reached outcome)) := by
  rcases EvaluatorRun.takeOver_outcome taken with
    ⟨rfl, isSettled⟩ | ⟨goesOn, sameStatus⟩
  · exact .settled poll snapshot isSettled
  · have onlyTick : eventsOf (pollEvents reached outcome) =
        [reached.tick] := by
      cases outcome with
      | settled status => exact absurd rfl (goesOn status)
      | advanced | unchanged | discarded => rfl
    rw [onlyTick]
    exact .read poll snapshot (sameStatus.trans isRunning)

/-- What an operation tells that began with a dashboard over a store, given
how it pauses the run if it does. -/
inductive Reports (now : Timestamp) (pause : Option Pause) (cause : RunCause)
    (base : Dashboard) (store : σ) (after : Poller σ) :
    List Event → Prop where
  | silent (sameRun : after.dashboard.run = base.run) :
      Reports now pause cause base store after []
  | rejected {run : EvaluatorRun} {poll : Poll} {snapshot : RunSnapshot}
      (isPoll : cause = .poll poll snapshot) (isRun : base.run = some run)
      (isPolled : run.id = poll.run) (behind : snapshot.cursor < run.cursor)
      (sameRun : after.dashboard.run = base.run) :
      Reports now pause cause base store after
        [.protocolViolation (EvaluatorError.cursorRegression run.cursor
          snapshot.cursor).message]
  /-- A run is found running and polled again. -/
  | found {run : EvaluatorRun} (isRun : base.run = some run)
      (isRunning : run.status = .running)
      (sameRun : after.dashboard.run = base.run) :
      Reports now pause cause base store after [.evaluatorResumed run.id]
  | cleared (notLive : ∀ run, base.run = some run → run.status.isLive = false)
      (isNone : after.dashboard.run = none) :
      Reports now pause cause base store after []
  | written {run : EvaluatorRun} {events : List Event}
      (isRun : after.dashboard.run = some run)
      (isWritten : KeyValueStore.write store StoreKey.dashboard.name
        after.dashboard.encode = (.ok (), after.store))
      (move : RunMove now cause base.run (some run))
      (news : RunNews pause run cause events) :
      Reports now pause cause base store after events
  | unwritten {error : StorageError}
      (failed : KeyValueStore.write store StoreKey.dashboard.name
        after.dashboard.encode = (.error error, after.store)) :
      Reports now pause cause base store after []
  /-- The session ends, and its run is told to be suspended all the same. -/
  | marked (run : EvaluatorRun) {how : Pause} {error : StorageError}
      (isPause : pause = some how) (ends : how.ends = true)
      (isRun : after.dashboard.run = some run)
      (isSuspended : run.status = .suspended)
      (failed : KeyValueStore.write store StoreKey.dashboard.name
        after.dashboard.encode = (.error error, after.store))
      (move : RunMove now cause base.run (some run)) :
      Reports now pause cause base store after
        [.evaluatorStatusChanged run.id .suspended false]

/-- The operation began with what another poller has. -/
abbrev ReportsFrom (before : Poller σ) (pause : Option Pause)
    (cause : RunCause) (after : Poller σ) (events : List Event) : Prop :=
  Reports before.supply.now pause cause before.dashboard before.store after
    events

theorem reportsFrom_refl (poller : Poller σ) (pause : Option Pause)
    (cause : RunCause) : poller.ReportsFrom pause cause poller [] :=
  .silent rfl

/-- Timers make no difference. -/
theorem Reports.of_same {now : Timestamp} {pause : Option Pause}
    {cause : RunCause} {base : Dashboard} {store : σ}
    {after other : Poller σ} {events : List Event}
    (reports : Reports now pause cause base store after events)
    (sameDashboard : other.dashboard = after.dashboard)
    (sameStore : other.store = after.store) :
    Reports now pause cause base store other events := by
  cases reports with
  | silent sameRun => exact .silent (by rwa [sameDashboard])
  | rejected isPoll isRun isPolled behind sameRun =>
      exact .rejected isPoll isRun isPolled behind (by rwa [sameDashboard])
  | found isRun isRunning sameRun =>
      exact .found isRun isRunning (by rwa [sameDashboard])
  | cleared notLive isNone => exact .cleared notLive (by rwa [sameDashboard])
  | written isRun isWritten move news =>
      exact .written (by rwa [sameDashboard])
        (by rwa [sameDashboard, sameStore]) move news
  | unwritten failed => exact .unwritten (by rwa [sameDashboard, sameStore])
  | marked run isPause ends isRun isSuspended failed move =>
      exact .marked run isPause ends (by rwa [sameDashboard]) isSuspended
        (by rwa [sameDashboard, sameStore]) move

section Commit

variable {now : Timestamp} {pause : Option Pause} {cause : RunCause}
  {base dashboard : Dashboard} {store : σ} {timed : Poller σ}
  {goOn : Poller σ → Reaction σ α}

/-- A run that has moved is told of once it is written. -/
theorem commit_reports (sameStore : timed.store = store)
    {run : EvaluatorRun} (isRun : dashboard.run = some run)
    (move : RunMove now cause base.run (some run)) {events : List Event}
    (news : RunNews pause run cause events)
    (keeps : ∀ written, (goOn written).poller.dashboard = written.dashboard ∧
      (goOn written).poller.store = written.store)
    (tells : ∀ written, eventsOf (goOn written).effects = events) :
    Reports now pause cause base store (timed.commit dashboard goOn).poller
      (eventsOf (timed.commit dashboard goOn).effects) := by
  unfold commit write
  rw [sameStore]
  cases outcome : KeyValueStore.write store StoreKey.dashboard.name
      dashboard.encode with
  | mk result store =>
      cases result with
      | ok done =>
          obtain ⟨sameDashboard, sameStore⟩ :=
            keeps { timed with store, dashboard }
          rw [← tells { timed with store, dashboard }] at news
          refine .written ?_ ?_ move news
          · rw [sameDashboard]
            exact isRun
          · rw [sameDashboard, sameStore]
            exact outcome
      | error error => exact .unwritten outcome

theorem eventsOf_commit_silent
    (tells : ∀ written, eventsOf (goOn written).effects = []) :
    eventsOf (timed.commit dashboard goOn).effects = [] := by
  unfold commit
  cases timed.write dashboard with
  | mk result written =>
      cases result with
      | ok done => exact tells written
      | error error => exact eventsOf_nil

end Commit

/-! ## Operations -/

section Operations

variable [AgentService ς] (poller : Poller σ) {pause : Option Pause}

theorem start_reports (kind : String) (itemLimit : UInt32)
    (model : Option ModelConfig) (service : ς) :
    poller.ReportsFrom pause .start
      (poller.start kind itemLimit model service).1.poller
      (eventsOf (poller.start kind itemLimit model service).1.effects) := by
  unfold start
  split
  · exact poller.reportsFrom_refl pause .start
  split
  · exact poller.reportsFrom_refl pause .start
  next chosen =>
    split
    · exact poller.reportsFrom_refl pause .start
    next free =>
      dsimp only
      cases AgentService.call
          (.startEvaluator ⟨kind, itemLimit, some chosen⟩) service with
      | mk outcome service =>
          cases outcome with
          | error error => exact poller.reportsFrom_refl pause .start
          | ok started =>
              obtain ⟨timed, isRead, sameDashboard, sameStore, -⟩ :=
                poller.readClock_eq
              simp only [isRead, sameDashboard]
              refine commit_reports sameStore rfl ?_ (.started rfl)
                (fun _ => ⟨rfl, rfl⟩) fun _ => rfl
              exact .start (notLive_of_not_isBusy free) kind started.id
                itemLimit (some chosen.model)

theorem suspend_reports (silent : Bool) (service : ς) :
    poller.ReportsFrom (some (.suspend silent)) .suspend
      (poller.suspend silent service).1.poller
      (eventsOf (poller.suspend silent service).1.effects) := by
  cases found : poller.running? with
  | none =>
      simp only [suspend, found]
      exact poller.reportsFrom_refl _ .suspend
  | some run =>
      obtain ⟨isRun, isRunning⟩ := running?_eq_some found
      obtain ⟨timed, isRead, -, sameStore, -⟩ :=
        poller.stopTimer.readClock_eq
      rw [suspend_eq_commit found, isRead]
      refine commit_reports sameStore rfl ?_ (.paused rfl rfl)
        (fun _ => ⟨rfl, rfl⟩) fun _ => rfl
      rw [isRun]
      exact .suspend isRunning false

theorem resume_reports (service : ς) :
    poller.ReportsFrom pause .resume (poller.resume service).1.poller
      (eventsOf (poller.resume service).1.effects) := by
  unfold resume
  split
  · exact poller.reportsFrom_refl pause .resume
  next run present =>
    split
    · exact poller.reportsFrom_refl pause .resume
    next suspended =>
      dsimp only
      cases control run.id .resume service with
      | mk outcome service =>
          cases outcome with
          | error error => exact poller.reportsFrom_refl pause .resume
          | ok done =>
              obtain ⟨timed, isRead, sameDashboard, sameStore, -⟩ :=
                poller.readClock_eq
              have isRun : poller.dashboard.run = some run := present
              simp only [isRead, sameDashboard]
              refine commit_reports sameStore rfl ?_ (.resumed rfl)
                (fun _ => ⟨rfl, rfl⟩) fun _ => rfl
              rw [isRun]
              exact .resume (Decidable.not_not.mp suspended)

theorem stop_reports (service : ς) :
    poller.ReportsFrom pause .stop (poller.stop service).1.poller
      (eventsOf (poller.stop service).1.effects) := by
  unfold stop
  split
  · exact poller.reportsFrom_refl pause .stop
  next run present =>
    split
    · exact poller.reportsFrom_refl pause .stop
    next live =>
      dsimp only
      cases control run.id .stop service with
      | mk outcome service =>
          cases outcome with
          | error error => exact poller.reportsFrom_refl pause .stop
          | ok done =>
              obtain ⟨timed, isRead, sameDashboard, sameStore, -⟩ :=
                poller.stopTimer.readClock_eq
              have isRun : poller.dashboard.run = some run := present
              simp only [isRead, sameDashboard]
              refine commit_reports sameStore rfl ?_ (.stopped rfl)
                (fun _ => ⟨rfl, rfl⟩) fun _ => rfl
              rw [isRun]
              exact .stop (by simpa using live)

theorem clear_reports :
    poller.ReportsFrom pause .clear poller.clear.poller
      (eventsOf poller.clear.effects) := by
  unfold clear
  split
  · exact poller.reportsFrom_refl pause .clear
  next free =>
    let cleared : Dashboard := { poller.dashboard with run := none }
    let goOn : Poller σ → Reaction σ (Option EvaluatorRun) := fun written =>
      written.answer [] poller.run?
    have isCleared : (poller.stopTimer.commit cleared goOn).poller.dashboard =
        cleared := commit_dashboard _ _ fun _ => rfl
    have nothing : eventsOf (poller.stopTimer.commit cleared goOn).effects =
        [] := eventsOf_commit_silent fun _ => rfl
    refine nothing.symm ▸ .cleared (notLive_of_not_isBusy free) ?_
    exact congrArg Dashboard.run isCleared

omit [KeyValueStore σ] in
theorem eventsOf_viewRecord (index : UInt32) (service : ς) :
    eventsOf (poller.viewRecord index service).1.effects = [] := by
  unfold viewRecord
  split
  · rfl
  next run present =>
    split
    · rfl
    · dsimp only
      cases AgentService.call (.fetchRecord run.id index) service with
      | mk outcome service => cases outcome <;> rfl

omit [AgentService ς] in
theorem handleAnswer_reports (poll : Poll)
    (outcome : Except ServiceError RunSnapshot) :
    poller.ReportsFrom pause (answerCause poll outcome)
      (poller.handleAnswer poll outcome).poller
      (eventsOf (poller.handleAnswer poll outcome).effects) := by
  cases outcome with
  | error error => exact poller.reportsFrom_refl pause .keep
  | ok snapshot =>
      unfold handleAnswer handleSnapshot
      dsimp only
      split
      · exact poller.reportsFrom_refl pause _
      next run polled =>
        obtain ⟨isRun, isPolled, isRunning⟩ := polledRun?_eq_some polled
        obtain ⟨timed, isRead, sameDashboard, sameStore, -⟩ :=
          poller.readClock_eq
        simp only [isRead, sameDashboard]
        split
        next error refused =>
          obtain ⟨rfl, behind⟩ := EvaluatorRun.takeOver_eq_error refused
          exact .rejected rfl isRun isPolled behind rfl
        next outcome reached taken =>
          refine commit_reports sameStore rfl ?_
            (eventsOf_pollEvents pause isRunning taken)
            (fun _ => ⟨rfl, rfl⟩) fun _ => rfl
          rw [isRun]
          exact .poll isPolled isRunning taken

omit [AgentService ς] in
theorem handleTimerAnswer_reports (poll : Poll)
    (outcome : Except ServiceError RunSnapshot) :
    poller.ReportsFrom pause (answerCause poll outcome)
      (poller.handleTimerAnswer poll outcome).poller
      (eventsOf (poller.handleTimerAnswer poll outcome).effects) := by
  obtain ⟨sameDashboard, sameStore, sameEffects⟩ :=
    handleTimerAnswer_same poller poll outcome
  rw [sameEffects]
  exact (poller.handleAnswer_reports poll outcome).of_same sameDashboard
    sameStore

/-! ## Sessions -/

theorem rehydrate_reports (service : ς) :
    poller.ReportsFrom pause .resume (poller.rehydrate service).1.poller
      (eventsOf (poller.rehydrate service).1.effects) := by
  unfold rehydrate
  split
  · exact poller.reportsFrom_refl pause .resume
  next run present =>
    have isRun : poller.dashboard.run = some run := present
    split
    next isRunning => exact .found isRun isRunning rfl
    split
    next suspended =>
      dsimp only
      cases control run.id .resume service with
      | mk outcome service =>
          cases outcome with
          | error error => exact poller.reportsFrom_refl pause .resume
          | ok done =>
              obtain ⟨timed, isRead, sameDashboard, sameStore, -⟩ :=
                poller.readClock_eq
              simp only [isRead, sameDashboard]
              refine commit_reports sameStore rfl ?_ (.pickedUp rfl)
                (fun _ => ⟨rfl, rfl⟩) fun _ => rfl
              rw [isRun]
              exact .resume suspended.1
    · exact poller.reportsFrom_refl pause .resume

omit [AgentService ς] in
/-- The end of a session tells of the suspension in either case. -/
theorem autoSuspend_reports {how : Pause} (ends : how.ends = true) :
    poller.ReportsFrom (some how) .suspend poller.autoSuspend.1
      (eventsOf poller.autoSuspend.2.1) := by
  cases found : poller.running? with
  | none =>
      simp only [autoSuspend, found]
      exact poller.reportsFrom_refl _ .suspend
  | some run =>
      obtain ⟨isRun, isRunning⟩ := running?_eq_some found
      obtain ⟨marked, isMarked, isDashboard, isStore⟩ :=
        autoSuspend_of_running isRun isRunning
      have isSuspended : marked.dashboard.run =
          some (run.become .suspended true poller.supply.now) := by
        rw [isDashboard]
      have move : RunMove poller.supply.now .suspend poller.dashboard.run
          (some (run.become .suspended true poller.supply.now)) := by
        rw [isRun]
        exact .suspend isRunning true
      have notNotified := Pause.notifies_of_ends ends
      rw [isMarked]
      cases outcome : (KeyValueStore.write poller.store
          StoreKey.dashboard.name marked.dashboard.encode).1 with
      | ok done =>
          refine .written isSuspended (Prod.ext outcome isStore.symm) move ?_
          rw [← notNotified]
          exact .paused rfl rfl
      | error error =>
          exact .marked (run.become .suspended true poller.supply.now) rfl ends
            isSuspended rfl (Prod.ext outcome isStore.symm) move

omit [KeyValueStore σ] in
theorem eventsOf_requestSuspend (effects : List PollerEffect)
    (run : Option String) (service : ς) :
    eventsOf (poller.requestSuspend effects run service).2.1 =
      eventsOf effects := by
  cases run with
  | none => rfl
  | some id => simp [requestSuspend]

theorem close_reports (service : ς) :
    poller.ReportsFrom (some .close) .suspend (poller.close service).1
      (eventsOf (poller.close service).2.1) := by
  unfold close
  split
  · simp only [requestSuspend_poller, eventsOf_requestSuspend]
    exact poller.stopTimer.autoSuspend_reports rfl
  · exact poller.reportsFrom_refl _ .suspend

omit [AgentService ς] in
theorem drop_reports (inUse : Bool) :
    poller.ReportsFrom (some (.drop inUse)) .suspend (poller.drop inUse).1
      (eventsOf (poller.drop inUse).2.1) := by
  unfold drop
  split
  · split
    · exact .silent rfl
    · exact poller.stopTimer.autoSuspend_reports rfl
  · exact poller.reportsFrom_refl _ .suspend

theorem finishTeardown_reports (rest : Teardown) (service : ς) :
    poller.ReportsFrom (some (.drop true)) .suspend
      (poller.finishTeardown rest service).1
      (eventsOf (poller.finishTeardown rest service).2.1) := by
  cases rest with
  | nothing => exact poller.reportsFrom_refl _ .suspend
  | request run =>
      simp only [finishTeardown, requestSuspend_poller,
        eventsOf_requestSuspend]
      exact poller.reportsFrom_refl _ .suspend
  | whole =>
      simp only [finishTeardown, requestSuspend_poller,
        eventsOf_requestSuspend]
      exact poller.autoSuspend_reports rfl

end Operations

end Poller

/-- How a step pauses the run, if it does. -/
def SessionStep.pause? : SessionStep → Option Pause
  | .suspend silent => some (.suspend silent)
  | .close => some .close
  | .drop inUse => some (.drop inUse)
  | .finishTeardown _ => some (.drop true)
  | _ => none

namespace Desk

variable {σ ς : Type} [KeyValueStore σ] [AgentService ς]

/-- The events of a step, in the order in which they are sent. -/
def news (desk : Desk σ ς) (moment : Moment) (step : SessionStep) :
    List Event :=
  Poller.eventsOf ((desk.atMoment moment).noticed step)

/-- A step reports what it does to the dashboard that it begins with. -/
abbrev Reports (desk : Desk σ ς) (step : SessionStep) (after : Desk σ ς)
    (events : List Event) : Prop :=
  Poller.Reports desk.poller.supply.now step.pause? (step.cause desk.asked)
    (desk.base step) desk.poller.store after.poller events

/-- A step that only keeps the run has nothing to tell. -/
theorem keep_reports {desk : Desk σ ς} {step : SessionStep}
    (isKeep : step.cause desk.asked = .keep)
    (nothing : Poller.eventsOf (desk.noticed step) = []) :
    desk.Reports step (desk.happen step)
      (Poller.eventsOf (desk.noticed step)) := by
  rw [nothing]
  refine .silent ?_
  have moved := desk.happen_movedFrom step
  rw [isKeep] at moved
  cases moved with
  | unchanged isDashboard _ _ _ => rw [isDashboard]
  | moved _ move _ _ _ =>
      generalize after : (desk.happen step).poller.dashboard.run = run at move
      cases move
      rfl
  | started isStart _ _ _ _ _ _ => cases isStart
  | asked _ _ isDashboard _ _ _ => rw [isDashboard]

omit [AgentService ς] in
theorem inSession_reports {desk : Desk σ ς} {step : SessionStep}
    (isBase : desk.base step = desk.poller.dashboard)
    {operation : Poller σ → ς → Poller σ × ς} {effects : List PollerEffect}
    (reports : desk.poller.ReportsFrom step.pause? (step.cause desk.asked)
      (operation desk.poller desk.service).1 (Poller.eventsOf effects)) :
    desk.Reports step (desk.inSession operation)
      (Poller.eventsOf (if desk.isOpen then effects else [])) := by
  unfold Reports inSession
  rw [isBase]
  split
  · exact reports
  · exact .silent rfl

theorem openActive_reports (desk : Desk σ ς) :
    desk.Reports .openActive (desk.happen .openActive)
      (Poller.eventsOf (desk.noticed .openActive)) := by
  simp only [Reports, happen, noticed, openBy, base, loaded?,
    Poller.openPassive]
  split
  · exact .silent rfl
  cases KeyValueStore.read Dashboard.decoder desk.poller.store
      StoreKey.dashboard.name with
  | error error => exact .silent rfl
  | ok found =>
      let opened : Poller σ :=
        { desk.poller with
          dashboard := found.getD .empty
          timer := .off
          resumed := false }
      exact opened.rehydrate_reports desk.service

theorem takeAnswer_reports (desk : Desk σ ς) (sent : SentPoll)
    (forTimer : Bool) (outcome : Except ServiceError RunSnapshot) :
    desk.Reports (.answer sent forTimer outcome)
      (desk.takeAnswer sent forTimer outcome)
      (Poller.eventsOf (desk.noticed (.answer sent forTimer outcome))) := by
  simp only [Reports, base, loaded?, takeAnswer, noticed, SessionStep.cause,
    SessionStep.pause?]
  split
  · split
    · split
      · exact desk.poller.handleTimerAnswer_reports sent.poll outcome
      · exact .silent rfl
    · exact desk.poller.handleAnswer_reports sent.poll outcome
  · exact .silent rfl

/-- A poll is a request, and nothing is told of it. -/
theorem eventsOf_noticed_poll (desk : Desk σ ς) :
    Poller.eventsOf (desk.noticed .ask) = [] ∧
      Poller.eventsOf (desk.noticed .timerDue) = [] := by
  constructor
  · simp only [noticed]
    split
    · split <;> rfl
    · rfl
  · simp only [noticed]
    split
    · split
      · cases desk.poller.timerDue.2 <;> rfl
      · rfl
      · rfl
    · rfl

omit [KeyValueStore σ] [AgentService ς] in
/-- While a session is open its effects are those of the operation. -/
theorem eventsOf_inSession {desk : Desk σ ς} {effects : List PollerEffect}
    (nothing : Poller.eventsOf effects = []) :
    Poller.eventsOf (if desk.isOpen then effects else []) = [] := by
  split
  · exact nothing
  · rfl

theorem happen_reports (desk : Desk σ ς) (step : SessionStep) :
    desk.Reports step (desk.happen step)
      (Poller.eventsOf (desk.noticed step)) := by
  cases step with
  | openPassive | takeResumed | detach | vanish =>
      exact keep_reports rfl rfl
  | selectEvaluator kind =>
      exact keep_reports rfl
        (eventsOf_inSession (Poller.eventsOf_commit_silent fun _ => rfl))
  | setItemLimit kind limit =>
      exact keep_reports rfl
        (eventsOf_inSession (Poller.eventsOf_commit_silent fun _ => rfl))
  | viewRecord index =>
      exact keep_reports rfl
        (eventsOf_inSession (Poller.eventsOf_viewRecord _ index _))
  | ask => exact keep_reports rfl desk.eventsOf_noticed_poll.1
  | timerDue => exact keep_reports rfl desk.eventsOf_noticed_poll.2
  | openActive => exact desk.openActive_reports
  | start kind itemLimit model =>
      simp only [Reports, happen, startRun, noticed]
      split
      · exact desk.poller.start_reports kind itemLimit model desk.service
      · exact .silent rfl
  | suspend silent =>
      exact inSession_reports rfl
        (desk.poller.suspend_reports silent desk.service)
  | resume =>
      exact inSession_reports rfl (desk.poller.resume_reports desk.service)
  | stop =>
      exact inSession_reports rfl (desk.poller.stop_reports desk.service)
  | clear => exact inSession_reports rfl desk.poller.clear_reports
  | answer sent forTimer outcome =>
      exact desk.takeAnswer_reports sent forTimer outcome
  | close =>
      exact inSession_reports rfl (desk.poller.close_reports desk.service)
  | drop inUse =>
      simp only [Reports, happen, dropSession, noticed]
      split
      · exact desk.poller.drop_reports inUse
      · exact .silent rfl
  | finishTeardown rest =>
      simp only [Reports, happen, finish, noticed]
      split
      · exact desk.poller.finishTeardown_reports rest desk.service
      · exact .silent rfl

/-- What happens at a moment is reported as of that time. -/
theorem step_reports (desk : Desk σ ς) (moment : Moment)
    (step : SessionStep) :
    Poller.Reports moment.now step.pause? (step.cause desk.asked)
      (desk.base step) desk.poller.store (desk.step moment step).poller
      (desk.news moment step) := by
  have isBase : (desk.atMoment moment).base step = desk.base step := by
    cases step <;> rfl
  have reports := (desk.atMoment moment).happen_reports step
  rw [Reports, isBase] at reports
  exact reports

end Desk

end AgentPipeline
