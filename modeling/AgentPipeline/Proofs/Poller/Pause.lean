import AgentPipeline.Proofs.Poller.Ending
import AgentPipeline.Proofs.Poller.Sound

/-!
# Pausing a run

A run that is polled may be paused by the user, who resumes it, or by the end
of the session, after which the next session resumes it.  Nothing is lost
either way.
Main statement: `pausesWell_after`.
-/

namespace AgentPipeline

/-! ## One poller -/

/-- A running run that was suspended and has been resumed is as it was. -/
theorem EvaluatorRun.IsConsistent.become_running {run : EvaluatorRun}
    (consistent : run.IsConsistent) (running : run.status = .running)
    (automatic : Bool) (since now : Timestamp) :
    (run.become .suspended automatic since).become .running false now =
      { run with updatedAt := now } := by
  have unmarked := consistent.unmarked_of_running running
  simp only [EvaluatorRun.become, running, unmarked]

namespace Poller

variable {σ ς : Type} [KeyValueStore σ] [AgentService ς] {works : σ → Prop}

omit [AgentService ς] in
theorem write_ok (faultless : KeyValueStore.Faultless works)
    {poller : Poller σ} (working : works poller.store)
    (dashboard : Dashboard) : (poller.write dashboard).1 = .ok () := by
  unfold write
  exact faultless.set_ok working StoreKey.dashboard.name dashboard.encode.text

theorem suspend_suspended (faultless : KeyValueStore.Faultless works)
    {poller : Poller σ} (working : works poller.store) {run : EvaluatorRun}
    (isRun : poller.dashboard.run = some run)
    (running : run.status = .running) (silent : Bool) (service : ς) :
    Suspended false (!silent) poller service run
      (poller.suspend silent service).1.poller
      (poller.suspend silent service).1.effects
      (poller.suspend silent service).2 := by
  have kept : works poller.stopTimer.readClock.2.store :=
    works_readClock working
  unfold suspend
  rw [running?_of_running isRun running]
  dsimp only
  split
  next error failed isFailed =>
    rw [Prod.ext_iff] at isFailed
    cases isFailed.1.symm.trans (write_ok faultless kept _)
  next paused isPaused =>
    have same : _ = paused := congrArg Prod.snd isPaused
    subst same
    refine ⟨?_, ?_, rfl, rfl⟩
    · simp only [readClock, write, Supply.tick]
      rfl
    · simp only [readClock, write, Supply.tick]
      rfl

omit [AgentService ς] in
theorem handleAnswer_of_not_running {poller : Poller σ}
    (notRunning : ∀ run, poller.dashboard.run = some run →
      run.status ≠ .running)
    (poll : Poll) (outcome : Except ServiceError RunSnapshot) :
    (poller.handleAnswer poll outcome).poller = poller ∧
      (poller.handleAnswer poll outcome).effects = [] := by
  cases outcome with
  | error error => exact ⟨rfl, rfl⟩
  | ok snapshot =>
      cases polled : poller.polledRun? poll with
      | none =>
          simp only [handleAnswer, handleSnapshot, polled]
          exact ⟨rfl, rfl⟩
      | some run =>
          obtain ⟨isRun, -, running⟩ := polledRun?_eq_some polled
          exact absurd running (notRunning run isRun)

/-- The poller goes on with a run that the service has resumed. -/
def goneOn (poller : Poller σ) (run : EvaluatorRun) : Poller σ :=
  (poller.readClock.2.write { poller.dashboard with
    run := some (run.become .running false poller.supply.now) }).2

omit [AgentService ς] in
theorem goneOn_dashboard (poller : Poller σ) (run : EvaluatorRun) :
    (poller.goneOn run).dashboard = { poller.dashboard with
      run := some (run.become .running false poller.supply.now) } := by
  simp only [goneOn, readClock, Supply.tick, write]

omit [AgentService ς] in
theorem goneOn_timer (poller : Poller σ) (run : EvaluatorRun) :
    (poller.goneOn run).startTimer.timer =
      .sleeping (poller.clock + poller.interval) := by
  simp only [goneOn, readClock, write, startTimer]

omit [AgentService ς] in
theorem goneOn_text {holds : σ → String → Option String}
    (durable : KeyValueStore.Durable holds)
    (faultless : KeyValueStore.Faultless works) {poller : Poller σ}
    (working : works poller.store) (run : EvaluatorRun) :
    holds (poller.goneOn run).store StoreKey.dashboard.name =
      some (poller.goneOn run).dashboard.encode.text := by
  have kept : works poller.readClock.2.store := works_readClock working
  exact durable.set_ok (faultless.set_ok kept _ _)

theorem resume_of_agreed (faultless : KeyValueStore.Faultless works)
    {poller : Poller σ} (working : works poller.store) {run : EvaluatorRun}
    (isRun : poller.dashboard.run = some run)
    (suspended : run.status = .suspended) {service later : ς}
    (agreed : control run.id .resume service = (.ok (), later)) :
    poller.resume service =
      (((poller.goneOn run).startTimer.answer
        [.announce (.evaluatorStatusChanged run.id .running true)] ()).after
          [.call (.control run.id .resume)], later) := by
  have kept : works poller.readClock.2.store := works_readClock working
  unfold resume run?
  rw [isRun]
  dsimp only
  rw [if_neg (not_not_intro suspended), agreed]
  dsimp only
  rw [commit_eq faultless kept]
  rfl

theorem resume_of_refused {poller : Poller σ} {run : EvaluatorRun}
    (isRun : poller.dashboard.run = some run)
    (suspended : run.status = .suspended) {service later : ς}
    {error : ServiceError}
    (refused : control run.id .resume service = (.error error, later)) :
    poller.resume service = ((poller.fail (.service error)).after
      [.call (.control run.id .resume)], later) := by
  unfold resume run?
  rw [isRun]
  dsimp only
  rw [if_neg (not_not_intro suspended), refused]

theorem rehydrate_of_agreed (faultless : KeyValueStore.Faultless works)
    {poller : Poller σ} (working : works poller.store) {run : EvaluatorRun}
    (isRun : poller.dashboard.run = some run)
    (suspended : run.status = .suspended)
    (automatic : run.autoSuspended = true) {service later : ς}
    (agreed : control run.id .resume service = (.ok (), later)) :
    poller.rehydrate service =
      (((poller.goneOn run).pickUp run.id).after
        [.call (.control run.id .resume)], later) := by
  have kept : works poller.readClock.2.store := works_readClock working
  unfold rehydrate run?
  rw [isRun]
  dsimp only
  rw [if_neg (by rw [suspended]; nofun), if_pos ⟨suspended, automatic⟩,
    agreed]
  dsimp only
  rw [commit_eq faultless kept]
  rfl

theorem rehydrate_of_refused {poller : Poller σ} {run : EvaluatorRun}
    (isRun : poller.dashboard.run = some run)
    (suspended : run.status = .suspended)
    (automatic : run.autoSuspended = true) {service later : ς}
    {error : ServiceError}
    (refused : control run.id .resume service = (.error error, later)) :
    poller.rehydrate service = ((poller.answer [] ()).after
      [.call (.control run.id .resume)], later) := by
  unfold rehydrate run?
  rw [isRun]
  dsimp only
  rw [if_neg (by rw [suspended]; nofun), if_pos ⟨suspended, automatic⟩,
    refused]

end Poller

/-! ## Ways to pause -/

/-- The step by which a paused run is to go on, given whether the session has
ended. -/
def SessionStep.undoing (automatic : Bool) : SessionStep :=
  if automatic then .openActive else .resume

/-- The ways in which a run that is polled is paused. -/
inductive Pause where
  | suspend (silent : Bool)
  | close
  | drop (inUse : Bool)

namespace Pause

/-- Whether the session ends, and the run is marked by that. -/
def ends : Pause → Bool
  | .suspend _ => false
  | .close | .drop _ => true

def notifies : Pause → Bool
  | .suspend silent => !silent
  | .close | .drop _ => false

/-- What begins at a moment and is finished at another one. -/
def steps {σ ς : Type} [KeyValueStore σ] (pause : Pause) (desk : Desk σ ς)
    (moment finished : Moment) : List (Moment × SessionStep) :=
  match pause with
  | .suspend silent => [(moment, .suspend silent)]
  | .close => [(moment, .close)]
  | .drop inUse => desk.dropSteps moment inUse [] finished

/-- When the run is suspended. -/
def isAt (pause : Pause) (moment finished : Moment) : Moment :=
  match pause with
  | .suspend _ | .close => moment
  | .drop inUse => if inUse then finished else moment

end Pause

namespace Desk

variable {σ ς : Type} [KeyValueStore σ] [AgentService ς]
  {works : σ → Prop}

/-- In a session that is open a running run is polled, over a store that
works. -/
structure Polls (works : σ → Prop) (run : EvaluatorRun) (desk : Desk σ ς) :
    Prop where
  isOpen : desk.isOpen = true
  isPolling : desk.poller.isPolling = true
  working : works desk.poller.store
  isRun : desk.poller.dashboard.run = some run
  running : run.status = .running

section Begin

variable {desk : Desk σ ς}

theorem suspend_step (isOpen : desk.isOpen = true) (moment : Moment)
    (silent : Bool) :
    let suspended := (desk.atMoment moment).poller.suspend silent desk.service
    desk.step moment (.suspend silent) =
      { desk.atMoment moment with
        poller := suspended.1.poller, service := suspended.2 } ∧
    (desk.atMoment moment).noticed (.suspend silent) =
      suspended.1.effects := by
  have isThere : (desk.atMoment moment).isOpen = true := isOpen
  constructor
  · simp only [Desk.step, happen, inSession, isThere, if_true]
    rfl
  · simp only [noticed, isThere, if_true]
    rfl

variable {run : EvaluatorRun} (polls : desk.Polls works run) (pause : Pause)
  (moment finished : Moment)
include polls

theorem Polls.suspended (faultless : KeyValueStore.Faultless works) :
    Poller.Suspended pause.ends pause.notifies
      (desk.atMoment (pause.isAt moment finished)).poller desk.service run
      (desk.after (pause.steps desk moment finished)).poller
      (desk.noticedThrough (pause.steps desk moment finished))
      (desk.after (pause.steps desk moment finished)).service := by
  cases pause with
  | suspend silent =>
      obtain ⟨isAfter, isNoticed⟩ := suspend_step polls.isOpen moment silent
      simp only [Pause.steps, noticedThrough, List.append_nil, after,
        List.foldl_cons, List.foldl_nil]
      rw [isAfter, isNoticed]
      have working : works (desk.atMoment moment).poller.store :=
        polls.working
      exact Poller.suspend_suspended faultless working polls.isRun
        polls.running silent desk.service
  | close =>
      have ends := close_ends polls.isOpen moment
      simp only [Pause.steps, noticedThrough, List.append_nil]
      exact ends.suspends polls.isPolling run polls.isRun polls.running
  | drop inUse =>
      -- A drop differs from a close only in when it is finished.
      have ends := drop_ends_undisturbed polls.isOpen moment finished inUse
      exact ends.suspends polls.isPolling run polls.isRun polls.running

theorem Polls.standing :
    let paused := desk.after (pause.steps desk moment finished)
    paused.poller.timer = .off ∧ paused.isOpen = !pause.ends ∧
      paused.pending = desk.pending := by
  cases pause with
  | suspend silent =>
      obtain ⟨isAfter, -⟩ := suspend_step polls.isOpen moment silent
      have isThere : (desk.atMoment moment).poller.running? = some run :=
        Poller.running?_of_running polls.isRun polls.running
      simp only [Pause.steps, after, List.foldl_cons, List.foldl_nil]
      rw [isAfter]
      refine ⟨?_, polls.isOpen, rfl⟩
      rw [Poller.suspend_poller _ isThere]
      exact (Poller.staysQuiet_readWrite _ _).timer rfl
  | close =>
      have isThere : (desk.atMoment moment).isOpen = true := polls.isOpen
      simp only [Pause.steps, after, List.foldl_cons, List.foldl_nil,
        Desk.step, happen, endSession, inSession, isThere, if_true]
      exact ⟨Poller.close_timer _ _, rfl, rfl⟩
  | drop inUse =>
      obtain ⟨isDropped, -⟩ := drop_step polls.isOpen moment inUse
      obtain ⟨isFinished, -⟩ :=
        finish_step finished (leftBy_mem polls.isOpen moment inUse)
      have off := (desk.atMoment moment).poller.drop_timer inUse
      simp only [Pause.steps, dropSteps, List.nil_append, List.cons_append,
        after, List.foldl_cons, List.foldl_nil]
      rw [isFinished, isDropped]
      refine ⟨(Poller.finishTeardown_quiet _ _ _).timer off, rfl, ?_⟩
      exact List.erase_cons_head (desk.leftBy moment inUse) desk.pending

end Begin

/-! ## While the run is paused -/

/-- The run of a desk has been paused, at some time. -/
structure IsPaused (works : σ → Prop) (original : Desk σ ς)
    (run : EvaluatorRun) (automatic : Bool) (since : Timestamp)
    (desk : Desk σ ς) : Prop where
  dashboard : desk.poller.dashboard = { original.poller.dashboard with
    run := some (run.become .suspended automatic since) }
  working : works desk.poller.store
  found : KeyValueStore.read Dashboard.decoder desk.poller.store
    StoreKey.dashboard.name = .ok (some desk.poller.dashboard)
  quiet : original.poller.StaysQuiet desk.poller
  timer : desk.poller.timer = .off
  isOpen : desk.isOpen = !automatic
  isFree : .whole ∉ desk.pending
  service : desk.service =
    (Poller.control run.id .suspend original.service).2

/-- A running run that was paused comes back from its text. -/
theorem parse?_paused {dashboard : Dashboard} (sound : dashboard.IsSound)
    {run : EvaluatorRun} (isRun : dashboard.run = some run)
    (running : run.status = .running) (automatic : Bool) {since : Timestamp}
    (nameable : since.IsNameable) :
    let paused : Dashboard :=
      { dashboard with run := some (run.become .suspended automatic since) }
    Dashboard.decoder.parse? paused.encode.text = some paused := by
  obtain ⟨consistent, times⟩ := sound run isRun
  have noMetrics := (consistent.of_isLive (by rw [running]; rfl)).1
  apply Dashboard.parse?_text_of_keeps
  · intro suspended isSuspended
    cases isSuspended
    exact ⟨times.startedAt, nameable⟩
  · intro suspended isSuspended
    cases isSuspended
    rw [EvaluatorRun.become, noMetrics]
    rfl

theorem Polls.isPaused {desk : Desk σ ς} {run : EvaluatorRun}
    (polls : desk.Polls works run) (isExclusive : desk.IsExclusive)
    (sound : desk.poller.dashboard.IsSound)
    (faultless : KeyValueStore.Faultless works) (pause : Pause)
    (moment finished : Moment) :
    IsPaused works desk run pause.ends (pause.isAt moment finished).now
      (desk.after (pause.steps desk moment finished)) := by
  have suspended := polls.suspended pause moment finished faultless
  obtain ⟨timer, standsOpen, pending⟩ := polls.standing pause moment finished
  have isFree : .whole ∉ desk.pending := isExclusive polls.isOpen
  have areQuiet : ∀ next ∈ pause.steps desk moment finished,
      next.2.isQuiet = true := by
    cases pause <;> simp [Pause.steps, dropSteps, SessionStep.isQuiet]
  -- The dashboard is found whole because a running run has no metrics.
  refine ⟨suspended.dashboard, ?_, ?_, quiet_after areQuiet, timer,
    standsOpen, pending ▸ isFree, suspended.service⟩
  · rw [suspended.store]
    exact faultless.works_write polls.working _ _
  · have working : works
        (desk.atMoment (pause.isAt moment finished)).poller.store :=
      polls.working
    rw [suspended.store, faultless.read_write working, suspended.dashboard]
    exact congrArg Except.ok (parse?_paused sound polls.isRun polls.running _
      (pause.isAt moment finished).isNameable)

section Paused

variable {original desk : Desk σ ς} {run : EvaluatorRun} {automatic : Bool}
  {since : Timestamp}

theorem IsPaused.atMoment
    (paused : IsPaused works original run automatic since desk)
    (moment : Moment) :
    IsPaused works original run automatic since (desk.atMoment moment) where
  dashboard := paused.dashboard
  working := paused.working
  found := paused.found
  quiet := ⟨paused.quiet.timer, paused.quiet.resumed, paused.quiet.interval⟩
  timer := paused.timer
  isOpen := paused.isOpen
  isFree := paused.isFree
  service := paused.service

theorem IsPaused.isRun
    (paused : IsPaused works original run automatic since desk) :
    desk.poller.dashboard.run =
      some (run.become .suspended automatic since) := by
  rw [paused.dashboard]

/-- An answer that comes while the run is paused is dropped. -/
theorem IsPaused.answer
    (paused : IsPaused works original run automatic since desk)
    {step : SessionStep} (isAnswer : step.isAnswer = true) :
    desk.happen step = desk ∧ desk.noticed step = [] := by
  have notRunning : ∀ present, desk.poller.dashboard.run = some present →
      present.status ≠ .running := by
    intro present isPresent running
    cases paused.isRun.symm.trans isPresent
    cases running
  cases step with
  | answer sent forTimer outcome =>
      -- No timer waits for it, and who asked finds the run suspended.
      obtain ⟨samePoller, silent⟩ :=
        desk.poller.handleAnswer_of_not_running notRunning sent.poll outcome
      simp only [happen, takeAnswer, noticed, paused.timer, silent,
        samePoller, reduceCtorEq, and_false, if_false, ite_self, and_self]
  | _ => cases isAnswer

theorem IsPaused.answers
    (paused : IsPaused works original run automatic since desk)
    {late : List (Moment × SessionStep)}
    (areAnswers : ∀ next ∈ late, next.2.isAnswer = true) :
    IsPaused works original run automatic since (desk.after late) ∧
      desk.noticedThrough late = [] := by
  induction late generalizing desk with
  | nil => exact ⟨paused, rfl⟩
  | cons next rest ih =>
      rw [List.forall_mem_cons] at areAnswers
      have timed := paused.atMoment next.1
      obtain ⟨same, silent⟩ := timed.answer areAnswers.1
      obtain ⟨still, nothing⟩ := ih timed areAnswers.2
      rw [← same] at still nothing
      refine ⟨still, ?_⟩
      rw [noticedThrough, silent]
      exact nothing

end Paused

/-! ## Going on -/

/-- The run goes on as if it had not been paused, but for the time of its last
change. -/
structure Continues (holds : σ → String → Option String) (pause : Pause)
    (original : Desk σ ς) (run : EvaluatorRun) (later : Moment)
    (after : Desk σ ς) (noticed : List PollerEffect) : Prop where
  dashboard : after.poller.dashboard = { original.poller.dashboard with
    run := some { run with updatedAt := later.now } }
  isWritten : after.IsWritten holds
  noticed : noticed =
    [.announce (.evaluatorStatusChanged run.id .suspended pause.notifies),
      .call (.control run.id .suspend), .call (.control run.id .resume),
      .announce (if pause.ends then .evaluatorResumed run.id
        else .evaluatorStatusChanged run.id .running true)]
  service : after.service = (Poller.control run.id .resume
    (Poller.control run.id .suspend original.service).2).2
  isOpen : after.isOpen = true
  timer : after.poller.timer =
    .sleeping (later.clock + original.poller.interval)
  polls : ∀ moment, (after.atMoment moment).noticed .timerDue =
    [.call (.poll run.id run.cursor)]
  tells : after.TellsOnce (pause.ends || original.poller.resumed)

/-- The run is suspended as the pause has left it, and nobody polls it. -/
structure StaysPaused (pause : Pause) (original : Desk σ ς)
    (run : EvaluatorRun) (since : Timestamp) (after : Desk σ ς)
    (noticed : List PollerEffect) : Prop where
  dashboard : after.poller.dashboard = { original.poller.dashboard with
    run := some (run.become .suspended pause.ends since) }
  noticed : noticed =
    [.announce (.evaluatorStatusChanged run.id .suspended pause.notifies),
      .call (.control run.id .suspend), .call (.control run.id .resume)]
  service : after.service = (Poller.control run.id .resume
    (Poller.control run.id .suspend original.service).2).2
  isOpen : after.isOpen = true
  timer : after.poller.timer = .off
  tells : after.TellsOnce (!pause.ends && original.poller.resumed)

/-- The poller of a session that finds the dashboard as it is in memory. -/
def reopened (desk : Desk σ ς) (later : Moment) : Poller σ :=
  { (desk.atMoment later).poller with timer := .off, resumed := false }

section Steps

variable {desk : Desk σ ς} (later : Moment)

theorem resume_step (isOpen : desk.isOpen = true) :
    let resumed := (desk.atMoment later).poller.resume desk.service
    desk.step later .resume =
      { desk.atMoment later with
        poller := resumed.1.poller, service := resumed.2 } ∧
    (desk.atMoment later).noticed .resume = resumed.1.effects := by
  have isThere : (desk.atMoment later).isOpen = true := isOpen
  constructor
  · simp only [Desk.step, happen, inSession, isThere, if_true]
    rfl
  · simp only [noticed, isThere, if_true]
    rfl

theorem reopen_step (isClosed : desk.isOpen = false)
    (isFree : .whole ∉ desk.pending)
    (found : KeyValueStore.read Dashboard.decoder desk.poller.store
      StoreKey.dashboard.name = .ok (some desk.poller.dashboard)) :
    let resumed := (desk.reopened later).rehydrate desk.service
    desk.step later .openActive =
      { desk.atMoment later with
        poller := resumed.1.poller
        service := resumed.2
        isOpen := resumed.1.result.isOk } ∧
    (desk.atMoment later).noticed .openActive = resumed.1.effects := by
  have isFound : KeyValueStore.read Dashboard.decoder
      (desk.atMoment later).poller.store StoreKey.dashboard.name =
      .ok (some desk.poller.dashboard) := found
  have isPossible : ¬((desk.atMoment later).isOpen = true ∨
      .whole ∈ (desk.atMoment later).pending) := by
    rintro (isOpen | isPending)
    · exact absurd (isClosed.symm.trans isOpen) Bool.false_ne_true
    · exact isFree isPending
  constructor
  · simp only [Desk.step, happen, openBy, if_neg isPossible,
      Poller.openPassive, isFound]
    rfl
  · simp only [noticed, if_neg isPossible, Poller.openPassive, isFound]
    rfl

end Steps

/-- A timer that becomes due polls the run from its cursor on. -/
theorem noticed_timerDue {desk : Desk σ ς} (isOpen : desk.isOpen = true)
    {due : Nat} (isTimer : desk.poller.timer = .sleeping due)
    {run : EvaluatorRun} (isRun : desk.poller.dashboard.run = some run)
    (running : run.status = .running) {moment : Moment} :
    (desk.atMoment moment).noticed .timerDue =
      [.call (.poll run.id run.cursor)] := by
  have isThere : (desk.atMoment moment).isOpen = true := isOpen
  have sleeps : (desk.atMoment moment).poller.timer = .sleeping due := isTimer
  have asked : (desk.atMoment moment).poller.nextPoll =
      .ok ⟨run.id, run.cursor⟩ := by
    have isPresent : (desk.atMoment moment).poller.run? = some run := isRun
    simp only [Poller.nextPoll, isPresent, running, if_true]
  simp only [noticed, isThere, if_true, sleeps, Poller.timerDue, asked]
  rfl

section Undo

variable {original desk : Desk σ ς} {run : EvaluatorRun} {automatic : Bool}
  {since : Timestamp}
  (paused : IsPaused works original run automatic since desk) (later : Moment)
include paused

theorem IsPaused.undo_agreed (faultless : KeyValueStore.Faultless works)
    {service : ς} (agreed : Poller.control run.id .resume desk.service =
      (.ok (), service)) :
    let goneOn := (desk.atMoment later).poller.goneOn
      (run.become .suspended automatic since)
    let after := desk.step later (.undoing automatic)
    after.poller = { goneOn.startTimer with
      resumed := automatic || goneOn.resumed } ∧
    after.service = service ∧ after.isOpen = true ∧
    (desk.atMoment later).noticed (.undoing automatic) =
      [.call (.control run.id .resume),
        .announce (if automatic then .evaluatorResumed run.id
          else .evaluatorStatusChanged run.id .running true)] := by
  cases automatic with
  | false =>
      obtain ⟨isAfter, isNoticed⟩ := resume_step later paused.isOpen
      have working : works (desk.atMoment later).poller.store :=
        paused.working
      have isResumed := Poller.resume_of_agreed faultless working
        paused.isRun rfl agreed
      simp only [SessionStep.undoing, Bool.false_eq_true, if_false]
      rw [isAfter, isNoticed, isResumed]
      exact ⟨rfl, rfl, paused.isOpen, rfl⟩
  | true =>
      obtain ⟨isAfter, isNoticed⟩ :=
        reopen_step later paused.isOpen paused.isFree paused.found
      have working : works (desk.reopened later).store := paused.working
      have isResumed := Poller.rehydrate_of_agreed faultless working
        paused.isRun rfl rfl agreed
      simp only [SessionStep.undoing, if_true]
      rw [isAfter, isNoticed, isResumed]
      exact ⟨rfl, rfl, rfl, rfl⟩

theorem IsPaused.undo_refused {service : ς} {error : ServiceError}
    (refused : Poller.control run.id .resume desk.service =
      (.error error, service)) :
    let after := desk.step later (.undoing automatic)
    after.poller.dashboard = desk.poller.dashboard ∧
    after.poller.timer = .off ∧
    after.poller.resumed = (!automatic && desk.poller.resumed) ∧
    after.service = service ∧ after.isOpen = true ∧
    (desk.atMoment later).noticed (.undoing automatic) =
      [.call (.control run.id .resume)] := by
  cases automatic with
  | false =>
      obtain ⟨isAfter, isNoticed⟩ := resume_step later paused.isOpen
      have isRun : (desk.atMoment later).poller.dashboard.run = some _ :=
        paused.isRun
      have isRefused := Poller.resume_of_refused isRun rfl refused
      simp only [SessionStep.undoing, Bool.false_eq_true, if_false]
      rw [isAfter, isNoticed, isRefused]
      exact ⟨rfl, paused.timer, rfl, rfl, paused.isOpen, rfl⟩
  | true =>
      obtain ⟨isAfter, isNoticed⟩ :=
        reopen_step later paused.isOpen paused.isFree paused.found
      have isRun : (desk.reopened later).dashboard.run = some _ :=
        paused.isRun
      have isRefused := Poller.rehydrate_of_refused isRun rfl rfl refused
      simp only [SessionStep.undoing, if_true]
      rw [isAfter, isNoticed, isRefused]
      exact ⟨rfl, rfl, rfl, rfl, rfl, rfl⟩

end Undo

section Pausing

variable {original desk : Desk σ ς} {run : EvaluatorRun} {pause : Pause}
  {since : Timestamp} {earlier : List PollerEffect}
  (paused : IsPaused works original run pause.ends since desk)
  (isNoticed : earlier =
    [.announce (.evaluatorStatusChanged run.id .suspended pause.notifies),
      .call (.control run.id .suspend)])
  (later : Moment)
include paused isNoticed

theorem IsPaused.continues {holds : σ → String → Option String}
    (durable : KeyValueStore.Durable holds)
    (faultless : KeyValueStore.Faultless works)
    (consistent : run.IsConsistent) (running : run.status = .running)
    {service : ς} (agreed : Poller.control run.id .resume desk.service =
      (.ok (), service)) :
    Continues holds pause original run later
      (desk.step later (.undoing pause.ends))
      (earlier ++ (desk.atMoment later).noticed (.undoing pause.ends)) := by
  obtain ⟨isPoller, isService, isOpen, isNoticedLater⟩ :=
    paused.undo_agreed later faultless agreed
  let poller := (desk.atMoment later).poller
  let suspended := run.become .suspended pause.ends since
  have isDashboard : (desk.step later (.undoing pause.ends)).poller.dashboard =
      { original.poller.dashboard with
        run := some { run with updatedAt := later.now } } := by
    rw [isPoller, ← consistent.become_running running pause.ends since]
    refine (poller.goneOn_dashboard suspended).trans ?_
    rw [show poller.dashboard = _ from paused.dashboard]
    rfl
  have isTimer : (desk.step later (.undoing pause.ends)).poller.timer =
      .sleeping (later.clock + original.poller.interval) := by
    rw [isPoller, ← paused.quiet.interval]
    exact poller.goneOn_timer suspended
  refine ⟨isDashboard, ?_, ?_, ?_, isOpen, isTimer, ?_, ?_⟩
  · rw [IsWritten, isPoller]
    have working : works poller.store := paused.working
    exact Poller.goneOn_text durable faultless working suspended
  · rw [isNoticed, isNoticedLater]
    rfl
  · rw [isService, ← paused.service, agreed]
  · intro moment
    exact noticed_timerDue isOpen isTimer (congrArg Dashboard.run isDashboard)
      running
  · have sameFlag : (poller.goneOn suspended).resumed =
        original.poller.resumed :=
      (poller.staysQuiet_readWrite _).resumed.trans paused.quiet.resumed
    have tells := (desk.step later (.undoing pause.ends)).tellsOnce
    rw [isPoller] at tells
    rw [← sameFlag]
    exact tells

theorem IsPaused.staysPaused {service : ς} {error : ServiceError}
    (refused : Poller.control run.id .resume desk.service =
      (.error error, service)) :
    StaysPaused pause original run since
      (desk.step later (.undoing pause.ends))
      (earlier ++ (desk.atMoment later).noticed (.undoing pause.ends)) := by
  obtain ⟨isDashboard, isTimer, isResumed, isService, isOpen,
    isNoticedLater⟩ := paused.undo_refused later refused
  have tells := (desk.step later (.undoing pause.ends)).tellsOnce
  rw [isResumed, paused.quiet.resumed] at tells
  refine ⟨isDashboard.trans paused.dashboard, ?_, ?_, isOpen, isTimer, tells⟩
  · rw [isNoticed, isNoticedLater]
    rfl
  · rw [isService, ← paused.service, refused]

end Pausing

/-! ## Whatever has happened -/

/-- The run is paused, answers to polls come late, and the run is to go on. -/
def pausing (desk : Desk σ ς) (pause : Pause) (moment finished : Moment)
    (late : List (Moment × SessionStep)) (later : Moment) :
    List (Moment × SessionStep) :=
  pause.steps desk moment finished ++ late ++ [(later, .undoing pause.ends)]

/-- However a run is paused, it goes on if the service resumes it, whether or
not the service has suspended it; otherwise it stays as it was left. -/
structure PausesWell (holds : σ → String → Option String) (works : σ → Prop)
    (desk : Desk σ ς) : Prop where
  continues : ∀ run, desk.Polls works run → ∀ pause moment finished late later,
    (∀ next ∈ late, next.2.isAnswer = true) →
    (Poller.control run.id .resume
      (Poller.control run.id .suspend desk.service).2).1 = .ok () →
    Continues holds pause desk run later
      (desk.after (desk.pausing pause moment finished late later))
      (desk.noticedThrough (desk.pausing pause moment finished late later))
  staysPaused : ∀ run, desk.Polls works run →
    ∀ pause moment finished late later error,
    (∀ next ∈ late, next.2.isAnswer = true) →
    (Poller.control run.id .resume
      (Poller.control run.id .suspend desk.service).2).1 = .error error →
    StaysPaused pause desk run (pause.isAt moment finished).now
      (desk.after (desk.pausing pause moment finished late later))
      (desk.noticedThrough (desk.pausing pause moment finished late later))

/-- Until it is to go on the run stays paused, whichever answers come. -/
theorem Polls.staysPaused {desk : Desk σ ς} {run : EvaluatorRun}
    (polls : desk.Polls works run) (isExclusive : desk.IsExclusive)
    (sound : desk.poller.dashboard.IsSound)
    (faultless : KeyValueStore.Faultless works) (pause : Pause)
    (moment finished : Moment) {late : List (Moment × SessionStep)}
    (areAnswers : ∀ next ∈ late, next.2.isAnswer = true) :
    IsPaused works desk run pause.ends (pause.isAt moment finished).now
      (desk.after (pause.steps desk moment finished ++ late)) ∧
    desk.noticedThrough (pause.steps desk moment finished ++ late) =
      [.announce (.evaluatorStatusChanged run.id .suspended pause.notifies),
        .call (.control run.id .suspend)] := by
  have paused := polls.isPaused isExclusive sound faultless pause moment
    finished
  obtain ⟨still, silent⟩ := paused.answers areAnswers
  rw [after_append, noticedThrough_append, silent, List.append_nil]
  exact ⟨still, (polls.suspended pause moment finished faultless).effects⟩

theorem pausesWell_of_sound {holds : σ → String → Option String}
    (durable : KeyValueStore.Durable holds)
    (faultless : KeyValueStore.Faultless works) {desk : Desk σ ς}
    (sound : desk.poller.dashboard.IsSound) (isExclusive : desk.IsExclusive) :
    desk.PausesWell holds works := by
  constructor
  · intro run polls pause moment finished late later areAnswers agreed
    obtain ⟨paused, isNoticed⟩ :=
      polls.staysPaused isExclusive sound faultless pause moment finished
        areAnswers
    rw [pausing, after_append, noticedThrough_append]
    rw [← paused.service] at agreed
    have continues := paused.continues isNoticed later durable faultless
      (sound run polls.isRun).1 polls.running (Prod.ext agreed rfl)
    simp only [noticedThrough, List.append_nil]
    exact continues
  · intro run polls pause moment finished late later error areAnswers refused
    obtain ⟨paused, isNoticed⟩ :=
      polls.staysPaused isExclusive sound faultless pause moment finished
        areAnswers
    rw [pausing, after_append, noticedThrough_append]
    rw [← paused.service] at refused
    have stays := paused.staysPaused isNoticed later (Prod.ext refused rfl)
    simp only [noticedThrough, List.append_nil]
    exact stays

omit [KeyValueStore σ] [AgentService ς] in
theorem isExclusive_new (store : σ) (service : ς) (supply : Supply)
    (interval : Nat) : (new store service supply interval).IsExclusive := by
  intro isOpen
  cases isOpen

/-- Pausing loses nothing, whatever has happened before, and even if writes
have failed.  What the store held at first may be anything sound, for instance
nothing. -/
theorem pausesWell_after {holds : σ → String → Option String}
    (durable : KeyValueStore.Durable holds)
    (faultless : KeyValueStore.Faultless works) (store : σ) (service : ς)
    (supply : Supply) (interval : Nat)
    (sound : ((new store service supply interval).stored holds).IsSound)
    (steps : List (Moment × SessionStep)) :
    ((new store service supply interval).after steps).PausesWell holds
      works := by
  have begins : (new store service supply interval).IsSound holds := by
    refine ⟨?_, sound⟩
    intro run isRun
    cases isRun
  apply pausesWell_of_sound durable faultless
  · exact (begins.after_steps durable steps).inMemory
  · exact (isExclusive_new store service supply interval).after_steps steps

/-- A service that fails to suspend the run, and resumes it all the same. -/
def resuming : RecordedService :=
  .replaying [⟨.startEvaluator ⟨"workflow", 5, some ⟨"model-A", none⟩⟩,
      .ok (⟨"run-1"⟩ : StartedRun), 0⟩,
    ⟨.control "run-1" .suspend, .error (.unreachable "away"), 0⟩,
    ⟨.control "run-1" .resume, .ok (), 0⟩]

def ofOneResumed : Desk MemoryStore RecordedService :=
  (new .empty resuming ⟨0, 0, ⟨0, 0⟩⟩ 600).after beginning

theorem pausesWell_resuming :
    ∃ run, ofOneResumed.Polls (fun store => store.faults = .none) run ∧
      Continues (fun store => store.documents.find?) (.drop true)
        ofOneResumed run epoch
        (ofOneResumed.after
          (ofOneResumed.pausing (.drop true) epoch epoch [] epoch))
        (ofOneResumed.noticedThrough
          (ofOneResumed.pausing (.drop true) epoch epoch [] epoch)) := by
  have sound : ((new MemoryStore.empty resuming ⟨0, 0, ⟨0, 0⟩⟩ 600).stored
      fun store => store.documents.find?).IsSound := by
    intro run isRun
    cases isRun
  have pausesWell := pausesWell_after MemoryStore.durable
    MemoryStore.faultless _ _ _ _ sound beginning
  have polls : ofOneResumed.Polls (fun store => store.faults = .none)
      (.start "workflow" "run-1" 5 (some "model-A") ⟨0, 0⟩) := by
    constructor <;> decide +kernel
  refine ⟨_, polls, ?_⟩
  apply pausesWell.continues _ polls
  · exact List.forall_mem_nil _
  · decide +kernel

end Desk

end AgentPipeline
