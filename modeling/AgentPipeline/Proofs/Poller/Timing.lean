import AgentPipeline.Proofs.Poller.Tasks

/-!
# When the service is polled

The service is polled only for a run that is running, and by at most one task,
which waits for an interval before each poll.  Once a run has been suspended,
stopped or cleared, or has settled, the timer sends no poll until it is given
a reason to.
Main statement: `keepsTime_after`.
-/

namespace AgentPipeline

/-- Only a run that is started or resumed comes to be running. -/
theorem RunMove.notRunning {now : Timestamp} {cause : RunCause}
    {before after : Option EvaluatorRun} (move : RunMove now cause before after)
    (notStarted : cause ≠ .start) (notResumed : cause ≠ .resume)
    (notRunning : ∀ run, before = some run → run.status ≠ .running) :
    ∀ run, after = some run → run.status ≠ .running := by
  cases move with
  | keep => exact notRunning
  | start => exact absurd rfl notStarted
  | suspend running => exact absurd running (notRunning _ rfl)
  | resume => exact absurd rfl notResumed
  | stop =>
      rintro _ ⟨⟩ isRunning
      cases isRunning
  | clear => rintro _ ⟨⟩
  | poll _ running => exact absurd running (notRunning _ rfl)

/-- What cannot start the timer neither starts nor resumes a run. -/
theorem SessionStep.cause_of_not_startsTimer {step : SessionStep}
    (noTimer : step.startsTimer = false) (asked : List SentPoll) :
    step.cause asked ≠ .start ∧ step.cause asked ≠ .resume := by
  constructor
  all_goals
    intro isCause
    cases step with
    | openActive | start | resume => cases noTimer
    | answer sent forTimer outcome =>
        simp only [cause] at isCause
        split at isCause
        · cases outcome <;> cases isCause
        · cases isCause
    | _ => cases isCause

theorem Desk.MovedFrom.notRunning {σ ς : Type} [KeyValueStore σ]
    {base : Dashboard} {now : Timestamp} {step : SessionStep}
    {asked : List SentPoll} {desk after : Desk σ ς}
    (moved : MovedFrom base now (step.cause asked) desk after)
    (noTimer : step.startsTimer = false)
    (notRunning : ∀ run, base.run = some run → run.status ≠ .running) :
    ∀ run, after.poller.dashboard.run = some run → run.status ≠ .running := by
  have noCause := SessionStep.cause_of_not_startsTimer noTimer asked
  cases moved with
  | unchanged isDashboard | asked _ _ isDashboard =>
      rw [isDashboard]
      exact notRunning
  | moved _ move => exact move.notRunning noCause.1 noCause.2 notRunning
  | started isStart => exact absurd isStart noCause.1

/-- A task is spawned. -/
def TimerEvent.spawns : TimerEvent → Bool
  | .opened picksUp => picksUp
  | .started => true
  | .polled _ | .answered | .ended | .stopped | .lost => false

namespace Desk

variable {σ ς : Type} [KeyValueStore σ] [AgentService ς]

/-! ## Requests for polls -/

/-- The polls that the service is asked for in a step. -/
def polls (desk : Desk σ ς) (moment : Moment) (step : SessionStep) :
    List Poll :=
  Poller.pollsOf ((desk.atMoment moment).noticed step)

omit [KeyValueStore σ] [AgentService ς] in
theorem pollsOf_inSession {desk : Desk σ ς} {effects : List PollerEffect}
    (silent : Poller.pollsOf effects = []) :
    Poller.pollsOf (if desk.isOpen then effects else []) = [] := by
  split
  · exact silent
  · rfl

/-- Nothing but a request or the timer sends a poll. -/
theorem pollsOf_noticed (desk : Desk σ ς) {step : SessionStep}
    (notAsked : step ≠ .ask) (notDue : step ≠ .timerDue) :
    Poller.pollsOf (desk.noticed step) = [] := by
  cases step with
  | openPassive | takeResumed | detach | vanish => rfl
  | openActive =>
      simp only [noticed]
      split
      · rfl
      split
      · rfl
      next poller _ => exact (poller.rehydrate_picksUp desk.service).silent
  | selectEvaluator kind =>
      exact pollsOf_inSession
        (Poller.commit_leavesTimer desk.poller.sameTimer_refl _ rfl _).silent
  | setItemLimit kind limit =>
      exact pollsOf_inSession
        (Poller.commit_leavesTimer desk.poller.sameTimer_refl _ rfl _).silent
  | start kind itemLimit model =>
      exact pollsOf_inSession
        (Poller.start_startsTimer _ kind itemLimit model _).silent
  | suspend silent =>
      exact pollsOf_inSession (Poller.suspend_timer _ silent _).2
  | resume => exact pollsOf_inSession (Poller.resume_startsTimer _ _).silent
  | stop => exact pollsOf_inSession (Poller.stop_stopsTimer _ _).silent
  | clear => exact pollsOf_inSession (Poller.clear_stopsTimer _).silent
  | viewRecord index =>
      exact pollsOf_inSession (Poller.viewRecord_leavesTimer _ index _).silent
  | ask => exact absurd rfl notAsked
  | timerDue => exact absurd rfl notDue
  | answer sent forTimer outcome =>
      have leaves := desk.poller.handleAnswer_leavesTimer sent.poll outcome
      simp only [noticed]
      split
      · split
        · split
          · exact leaves.silent
          · rfl
        · exact leaves.silent
      · rfl
  | close => exact pollsOf_inSession (Poller.pollsOf_close _ _)
  | drop inUse => exact pollsOf_inSession (Poller.pollsOf_drop _ inUse)
  | finishTeardown rest =>
      simp only [noticed]
      split
      · exact (Poller.finishTeardown_leavesTimer _ rest _).2
      · rfl

omit [KeyValueStore σ] [AgentService ς] in
/-- The next poll is of the run that is running, from its cursor on. -/
theorem nextPoll_eq_ok_iff {desk : Desk σ ς} {poll : Poll} :
    desk.poller.nextPoll = .ok poll ↔
      ∃ run, desk.poller.dashboard.run = some run ∧ run.status = .running ∧
        poll = ⟨run.id, run.cursor⟩ := by
  refine ⟨Poller.nextPoll_eq_ok, ?_⟩
  rintro ⟨run, isRun, running, rfl⟩
  have isPresent : desk.poller.run? = some run := isRun
  simp only [Poller.nextPoll, isPresent, running, if_true]

theorem mem_polls_ask {desk : Desk σ ς} {moment : Moment} {poll : Poll} :
    poll ∈ desk.polls moment .ask ↔
      desk.isOpen = true ∧ desk.poller.nextPoll = .ok poll := by
  have sameOpen : (desk.atMoment moment).isOpen = desk.isOpen := rfl
  have sameNext : (desk.atMoment moment).poller.nextPoll =
      desk.poller.nextPoll := rfl
  simp only [polls, noticed, sameOpen, sameNext]
  cases desk.isOpen with
  | false => simp
  | true => cases desk.poller.nextPoll <;> simp [eq_comm]

/-- The timer sends a poll exactly if it sleeps and there is one to send. -/
theorem mem_polls_timerDue {desk : Desk σ ς} {moment : Moment} {poll : Poll} :
    poll ∈ desk.polls moment .timerDue ↔
      (∃ due, desk.timer = .sleeping due) ∧
        desk.poller.nextPoll = .ok poll := by
  have sameOpen : (desk.atMoment moment).isOpen = desk.isOpen := rfl
  have sameTimer : (desk.atMoment moment).poller.timer =
      desk.poller.timer := rfl
  have sameNext : (desk.atMoment moment).poller.nextPoll =
      desk.poller.nextPoll := rfl
  simp only [polls, noticed, timer, sameOpen, sameTimer, Poller.timerDue,
    sameNext]
  cases desk.isOpen with
  | false => simp
  | true =>
      cases desk.poller.timer with
      | off | polling => simp
      | sleeping due => cases desk.poller.nextPoll <;> simp [eq_comm]

/-- A poll is sent only for a run that is running, from its cursor on. -/
theorem mem_polls {desk : Desk σ ς} {moment : Moment} {step : SessionStep}
    {poll : Poll} :
    poll ∈ desk.polls moment step ↔
      (step = .ask ∧ desk.isOpen = true ∨
          step = .timerDue ∧ ∃ due, desk.timer = .sleeping due) ∧
        ∃ run, desk.poller.dashboard.run = some run ∧ run.status = .running ∧
          poll = ⟨run.id, run.cursor⟩ := by
  rw [← nextPoll_eq_ok_iff]
  by_cases byHand : step = .ask
  · subst byHand
    simp [mem_polls_ask]
  by_cases byTimer : step = .timerDue
  · subst byTimer
    simp [mem_polls_timerDue]
  simp [polls, pollsOf_noticed _ byHand byTimer, byHand, byTimer]

/-! ## When the timer rests -/

/-- The timer is off, or it will find no run that is running. -/
def Idle (desk : Desk σ ς) : Prop :=
  desk.timer = .off ∨
    ∀ run, desk.poller.dashboard.run = some run → run.status ≠ .running

/-- The run is suspended, stopped or cleared, or a poll settles it. -/
def settles (desk : Desk σ ς) (step : SessionStep) : Bool :=
  match step with
  | .suspend _ | .stop | .clear => desk.outcome? step = some (.ok ())
  | .answer .. =>
      desk.poller.running?.isSome && (desk.happen step).poller.running?.isNone
  | _ => false

/-- A session is opened that looks after its run, or a run is started or
resumed, even if that could not be written. -/
def restarts (desk : Desk σ ς) (step : SessionStep) : Bool :=
  match step with
  | .openActive => desk.outcome? step = some (.ok ())
  | .start .. | .resume => (desk.outcome? step).any isCarriedOut
  | _ => false

def restartsThrough (desk : Desk σ ς) :
    List (Moment × SessionStep) → Bool
  | [] => false
  | next :: later =>
      (desk.atMoment next.1).restarts next.2 ||
        (desk.step next.1 next.2).restartsThrough later

theorem Idle.polls {desk : Desk σ ς} (idle : desk.Idle) (moment : Moment) :
    desk.polls moment .timerDue = [] := by
  apply List.eq_nil_iff_forall_not_mem.mpr
  intro poll isAsked
  obtain ⟨⟨due, sleeps⟩, asked⟩ := mem_polls_timerDue.mp isAsked
  obtain ⟨run, isRun, running, -⟩ := Poller.nextPoll_eq_ok asked
  rcases idle with off | notRunning
  · cases off.symm.trans sleeps
  · exact notRunning run isRun running

theorem restarts_of_spawns {desk : Desk σ ς} {step : SessionStep}
    (spawns : (desk.timerEvent step).any TimerEvent.spawns = true) :
    desk.restarts step = true := by
  unfold timerEvent at spawns
  cases step with
  | openActive =>
      dsimp only at spawns
      split at spawns
      next endsWell => exact decide_eq_true endsWell
      next => cases spawns
  | start | resume =>
      dsimp only at spawns
      split at spawns
      next endsWell =>
        rw [restarts, endsWell]
        rfl
      next => cases spawns
  | openPassive | suspend | stop | clear | close | detach | drop =>
      dsimp only at spawns
      split at spawns <;> cases spawns
  | timerDue | answer =>
      dsimp only at spawns
      split at spawns
      · split at spawns <;> cases spawns
      all_goals cases spawns
  | _ => cases spawns

/-- Only what restarts the timer turns it on. -/
theorem timer_happen_of_off {desk : Desk σ ς} (off : desk.timer = .off)
    {step : SessionStep} (noRestart : desk.restarts step = false) :
    (desk.happen step).timer = .off := by
  have move := (desk.happen_follows step).1
  rw [off] at move
  generalize isEvent : desk.timerEvent step = event at move
  generalize (desk.happen step).timer = after at move ⊢
  cases move with
  | still | ended | stopped | lost => rfl
  | opened picksUp =>
      cases picksUp with
      | false => rfl
      | true =>
          rw [restarts_of_spawns (by rw [isEvent]; rfl)] at noRestart
          cases noRestart
  | started =>
      rw [restarts_of_spawns (by rw [isEvent]; rfl)] at noRestart
      cases noRestart

omit [KeyValueStore σ] [AgentService ς] in
theorem timer_of_closed {desk : Desk σ ς} (isClosed : desk.isOpen = false) :
    desk.timer = .off := by
  rw [timer, isClosed]
  rfl

theorem dashboard_of_not_carriedOut {desk : Desk σ ς} {step : SessionStep}
    (refused : ∃ error, desk.outcome? step = some (.error error))
    (notCarriedOut : (desk.outcome? step).any isCarriedOut = false) :
    (desk.happen step).poller.dashboard = desk.poller.dashboard := by
  obtain ⟨error, failed⟩ := refused
  rw [failed] at notCarriedOut
  exact (happen_staysAs notCarriedOut failed).1.dashboard

section Restart

variable {desk : Desk σ ς} (isOpen : desk.isOpen = true)
include isOpen

omit [KeyValueStore σ] [AgentService ς] in
theorem refused_of_returns? {α : Type} {reaction : Reaction σ α}
    (notCarriedOut : (desk.returns? reaction).any isCarriedOut = false) :
    ∃ error, desk.returns? reaction = some (.error error) := by
  rw [returns?, if_pos isOpen] at notCarriedOut ⊢
  cases isResult : reaction.forget.result with
  | ok done =>
      rw [isResult] at notCarriedOut
      cases notCarriedOut
  | error error => exact ⟨error, rfl⟩

/-- While a session is open, what could start its timer and does not restart
it leaves the run as it is. -/
theorem dashboard_of_not_restarts {step : SessionStep}
    (starts : step.startsTimer = true)
    (noRestart : desk.restarts step = false) :
    (desk.happen step).poller.dashboard = desk.poller.dashboard := by
  cases step with
  | openActive => simp only [happen, openBy, isOpen, true_or, if_true]
  | start kind itemLimit model =>
      exact dashboard_of_not_carriedOut
        (refused_of_returns? isOpen noRestart) noRestart
  | resume =>
      exact dashboard_of_not_carriedOut
        (refused_of_returns? isOpen noRestart) noRestart
  | _ => cases starts

omit [AgentService ς] in
/-- While a session is open no other one begins with what is stored. -/
theorem base_of_isOpen (step : SessionStep) :
    desk.base step = desk.poller.dashboard := by
  cases step with
  | openPassive | openActive =>
      simp only [base, loaded?, isOpen, true_or, if_true, Option.getD_none]
  | _ => rfl

theorem notRunning_happen {step : SessionStep}
    (noRestart : desk.restarts step = false)
    (notRunning : ∀ run, desk.poller.dashboard.run = some run →
      run.status ≠ .running) :
    ∀ run, (desk.happen step).poller.dashboard.run = some run →
      run.status ≠ .running := by
  cases starts : step.startsTimer with
  | true =>
      rw [dashboard_of_not_restarts isOpen starts noRestart]
      exact notRunning
  | false =>
      have moved := desk.happen_movedFrom step
      rw [base_of_isOpen isOpen] at moved
      exact moved.notRunning starts notRunning

end Restart

theorem Idle.happen {desk : Desk σ ς} (idle : desk.Idle) {step : SessionStep}
    (noRestart : desk.restarts step = false) : (desk.happen step).Idle := by
  rcases idle with off | notRunning
  · exact .inl (timer_happen_of_off off noRestart)
  cases isOpen : desk.isOpen with
  | false => exact .inl (timer_happen_of_off (timer_of_closed isOpen) noRestart)
  | true => exact .inr (notRunning_happen isOpen noRestart notRunning)

theorem Idle.after_steps {desk : Desk σ ς} (idle : desk.Idle)
    {steps : List (Moment × SessionStep)}
    (noRestart : desk.restartsThrough steps = false) :
    (desk.after steps).Idle := by
  induction steps generalizing desk with
  | nil => exact idle
  | cons next rest ih =>
      rw [restartsThrough, Bool.or_eq_false_iff] at noRestart
      have timed : (desk.atMoment next.1).Idle := idle
      exact ih (timed.happen noRestart.1) noRestart.2

theorem timer_of_stopped {desk : Desk σ ς} {step : SessionStep}
    (stops : desk.timerEvent step = some .stopped) :
    (desk.happen step).timer = .off := by
  have move := (desk.happen_follows step).1
  rw [stops] at move
  generalize desk.timer = before at move
  generalize (desk.happen step).timer = after at move ⊢
  cases move
  rfl

omit [KeyValueStore σ] [AgentService ς] in
theorem notRunning_of_running? {desk : Desk σ ς}
    (isNone : desk.poller.running? = none) :
    ∀ run, desk.poller.dashboard.run = some run → run.status ≠ .running := by
  intro run isRun running
  cases isNone.symm.trans (Poller.running?_of_running isRun running)

/-- A run that is suspended, stopped, cleared or settled lets the timer
rest. -/
theorem idle_of_settles {desk : Desk σ ς} {step : SessionStep}
    (settles : desk.settles step = true) : (desk.happen step).Idle := by
  cases step with
  | suspend silent =>
      have returned : desk.outcome? (.suspend silent) = some (.ok ()) :=
        of_decide_eq_true settles
      have isOpen : desk.isOpen = true := by
        by_contra isClosed
        simp [outcome?, returns?, isClosed] at returned
      cases found : desk.poller.running? with
      | none =>
          right
          have same : (desk.happen (.suspend silent)).poller = desk.poller := by
            simp only [happen, (inSession_of_isOpen isOpen).2, Poller.suspend,
              found]
            rfl
          rw [same]
          exact notRunning_of_running? found
      | some run =>
          left
          apply timer_of_stopped
          simp only [timerEvent, isOpen, found, Option.isSome_some, and_self,
            if_true]
  | stop | clear =>
      have returned : desk.outcome? _ = some (.ok ()) :=
        of_decide_eq_true settles
      left
      apply timer_of_stopped
      simp only [timerEvent, returned]
      rfl
  | answer sent forTimer outcome =>
      rw [Desk.settles, Bool.and_eq_true] at settles
      exact .inr (notRunning_of_running? (by simpa using settles.2))
  | _ => cases settles

/-! ## Whatever has happened -/

/-- The timer of the session does not wake before it is due. -/
def IsDue (desk : Desk σ ς) (moment : Moment) : Prop :=
  ∀ due, desk.timer = .sleeping due → due ≤ moment.clock

/-- How a desk keeps time, given the tasks that were spawned for its timer. -/
structure KeepsTime (interval : Nat) (tasks : TimerTasks) (desk : Desk σ ς) :
    Prop where
  alone : tasks.alive.length ≤ 1
  isAlive : tasks.alive ≠ [] ↔
    desk.isOpen = true ∧ desk.poller.isPolling = true
  /-- A poll is sent when somebody asks for it or the timer wakes, but only
  for a run that is running. -/
  asks : ∀ moment step poll, poll ∈ desk.polls moment step ↔
    (step = .ask ∧ desk.isOpen = true ∨
        step = .timerDue ∧ ∃ due, desk.timer = .sleeping due) ∧
      ∃ run, desk.poller.dashboard.run = some run ∧ run.status = .running ∧
        poll = ⟨run.id, run.cursor⟩
  /-- The task that sends a poll was spawned, or had its last answer, at least
  an interval ago. -/
  spaced : ∀ moment, desk.IsDue moment → desk.polls moment .timerDue ≠ [] →
    ∃ task ∈ tasks.alive, task.waits = none ∧
      task.since + interval ≤ moment.clock
  /-- The timer sends no poll after the run was suspended, stopped, cleared or
  settled, until it is given a reason to. -/
  rests : ∀ moment step, (desk.atMoment moment).settles step = true →
    ∀ later, (desk.step moment step).restartsThrough later = false →
    ∀ last, ((desk.step moment step).after later).polls last .timerDue = []

theorem keepsTime_of_follow {interval : Nat} {tasks : TimerTasks}
    {desk : Desk σ ς} (follow : tasks.Follow interval desk.timer) :
    desk.KeepsTime interval tasks := by
  obtain ⟨alone, isAlive⟩ := follow.alone
  constructor
  case alone => exact alone
  case isAlive =>
    rw [isAlive, timer]
    cases desk.isOpen <;> simp [Timer.isAlive, Poller.isPolling]
  case asks =>
    intro moment step poll
    exact mem_polls
  case spaced =>
    intro moment isDue isAsked
    obtain ⟨poll, isPoll⟩ := List.exists_mem_of_ne_nil _ isAsked
    obtain ⟨⟨due, sleeps⟩, -⟩ := mem_polls_timerDue.mp isPoll
    have inTime := isDue due sleeps
    rw [sleeps] at follow
    cases follow with
    | @sleeping number since isAlive =>
        refine ⟨⟨number, since, none⟩, ?_, rfl, inTime⟩
        rw [isAlive]
        exact List.mem_singleton_self _
  case rests =>
    intro moment step settles later noRestart last
    exact ((idle_of_settles settles).after_steps noRestart).polls last

/-- Whatever has happened at a desk, the tasks that were spawned for its timer
keep time. -/
theorem keepsTime_after (store : σ) (service : ς) (supply : Supply)
    (interval : Nat) (steps : List (Moment × SessionStep)) :
    let origin := new store service supply interval
    (origin.after steps).KeepsTime interval
      (origin.tasksThrough .empty steps) := by
  intro origin
  have begins : TimerTasks.empty.Follow interval origin.timer := .off rfl
  exact keepsTime_of_follow (follow_after begins rfl steps)

/-! ## A poll that fails, and one that settles the run -/

def atClock (clock : Nat) : Moment := { epoch with clock }

/-- The first poll of the timer fails. -/
def unanswered : List (Moment × SessionStep) :=
  beginning ++ [(atClock 600, .timerDue),
    (atClock 700, .answer bothSent true (.error (.unreachable "away")))]

/-- The run has completed, and somebody has asked for it. -/
def completed : SessionStep :=
  .answer bothSent false (.ok { upTo 1 with status := .completed })

/-- The timer goes on an interval after the failure, but not once the run has
completed. -/
theorem keepsTime_unanswered :
    let reached := ofOneRun.after unanswered
    reached.polls (atClock 1300) .timerDue = [⟨"run-1", 0⟩] ∧
      (∃ task ∈ (ofOneRun.tasksThrough .empty unanswered).alive,
        task.waits = none ∧ task.since + 600 ≤ 1300) ∧
      (reached.step (atClock 800) completed).polls (atClock 1300)
        .timerDue = [] := by
  intro reached
  have keeps := keepsTime_after MemoryStore.empty oneRun ⟨0, 0, ⟨0, 0⟩⟩ 600
    unanswered
  have sleeps : reached.timer = .sleeping 1300 := by decide +kernel
  have asked : reached.polls (atClock 1300) .timerDue =
      [⟨"run-1", 0⟩] := by
    decide +kernel
  have isDue : reached.IsDue (atClock 1300) := by
    intro due isTimer
    cases sleeps.symm.trans isTimer
    exact Nat.le_refl 1300
  have settles : (reached.atMoment (atClock 800)).settles completed = true := by
    decide +kernel
  refine ⟨asked, keeps.spaced (atClock 1300) isDue ?_, ?_⟩
  · intro silent
    cases silent.symm.trans asked
  · exact keeps.rests (atClock 800) completed settles [] rfl (atClock 1300)

end Desk

end AgentPipeline
