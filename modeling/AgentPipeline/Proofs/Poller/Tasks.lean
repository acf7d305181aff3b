import AgentPipeline.Proofs.Poller.Timer

/-!
# The tasks of the timer

Whenever the timer is started a task is spawned that polls from then on.  The
session has a handle of the task that it has spawned last and can stop no
other one, and a new session has no handle at all; a task that was not
stopped would go on.  Here the tasks are traced by what can be seen of the
steps, and they turn out to be what the timer says.
-/

namespace AgentPipeline

/-- What happens to the tasks of the timer. -/
inductive TimerEvent where
  /-- A session is opened, with a task only if polling is picked up. -/
  | opened (picksUp : Bool)
  /-- A task is spawned in place of the one before. -/
  | started
  /-- The task sends a poll. -/
  | polled (poll : Poll)
  /-- The answer to the poll of the task was handled, and the task goes on. -/
  | answered
  /-- The task ends by itself. -/
  | ended
  | stopped
  /-- The process is gone with all of its tasks. -/
  | lost
deriving DecidableEq

structure TimerTask where
  number : Nat
  /-- When the task was spawned, or the last answer to it was handled. -/
  since : Nat
  /-- The poll whose answer the task waits for. -/
  waits : Option Poll
deriving DecidableEq

/-- All tasks that were ever spawned for the sessions of a desk. -/
structure TimerTasks where
  spawned : Nat
  alive : List TimerTask
  /-- The task that the session has a handle of. -/
  handle : Option Nat
deriving DecidableEq

namespace TimerTasks

/-- Nothing was spawned so far. -/
def empty : TimerTasks := ⟨0, [], none⟩

def spawn (tasks : TimerTasks) (clock : Nat) : TimerTasks where
  spawned := tasks.spawned + 1
  alive := ⟨tasks.spawned, clock, none⟩ :: tasks.alive
  handle := some tasks.spawned

/-- The task of the handle is no longer alive, if it was. -/
def dismiss (tasks : TimerTasks) : TimerTasks :=
  { tasks with
    alive := tasks.alive.filter fun task =>
      tasks.handle ≠ some task.number }

/-- Changes the task of the handle. -/
def adapt (tasks : TimerTasks) (change : TimerTask → TimerTask) :
    TimerTasks :=
  { tasks with
    alive := tasks.alive.map fun task =>
      if tasks.handle = some task.number then change task else task }

def happen (tasks : TimerTasks) (clock : Nat) : TimerEvent → TimerTasks
  | .opened picksUp =>
      if picksUp then tasks.spawn clock else { tasks with handle := none }
  | .started => tasks.dismiss.spawn clock
  | .polled poll => tasks.adapt fun task => { task with waits := some poll }
  | .answered =>
      tasks.adapt fun task => { task with since := clock, waits := none }
  | .ended => tasks.dismiss
  | .stopped => { tasks.dismiss with handle := none }
  | .lost => { tasks with alive := [], handle := none }

/-- The tasks are as the timer says: no task is alive but that of the handle,
and it sleeps until an interval after it was spawned or last had an answer. -/
inductive Follow (interval : Nat) (tasks : TimerTasks) : Timer → Prop where
  | off (noTask : tasks.alive = []) : Follow interval tasks .off
  | sleeping {number since : Nat}
      (isAlive : tasks.alive = [⟨number, since, none⟩])
      (isHeld : tasks.handle = some number) :
      Follow interval tasks (.sleeping (since + interval))
  | polling {number since : Nat} {poll : Poll}
      (isAlive : tasks.alive = [⟨number, since, some poll⟩])
      (isHeld : tasks.handle = some number) :
      Follow interval tasks (.polling poll)

variable {interval : Nat} {tasks : TimerTasks} {timer : Timer}

theorem Follow.dismiss_alive (follow : tasks.Follow interval timer) :
    tasks.dismiss.alive = [] := by
  cases follow with
  | off noTask => simp [dismiss, noTask]
  | sleeping isAlive isHeld | polling isAlive isHeld =>
      simp [dismiss, isAlive, isHeld]

/-- At most one task is alive, and one is exactly if the timer is. -/
theorem Follow.alone (follow : tasks.Follow interval timer) :
    tasks.alive.length ≤ 1 ∧ (tasks.alive ≠ [] ↔ timer.isAlive = true) := by
  cases follow with
  | off noTask => simp [noTask, Timer.isAlive]
  | sleeping isAlive | polling isAlive => simp [isAlive, Timer.isAlive]

theorem Follow.of_spawn {clock : Nat} (noTask : tasks.alive = []) :
    (tasks.spawn clock).Follow interval (.sleeping (clock + interval)) :=
  .sleeping (by rw [spawn, noTask]) rfl

end TimerTasks

/-- How the timer follows an event, given when a task that goes on from now
will be due. -/
inductive TimerMove (due : Nat) : Timer → Option TimerEvent → Timer → Prop where
  | still (timer : Timer) : TimerMove due timer none timer
  | opened (picksUp : Bool) :
      TimerMove due .off (some (.opened picksUp))
        (if picksUp then .sleeping due else .off)
  | started (before : Timer) :
      TimerMove due before (some .started) (.sleeping due)
  | polled (since : Nat) (poll : Poll) :
      TimerMove due (.sleeping since) (some (.polled poll)) (.polling poll)
  | answered (poll : Poll) :
      TimerMove due (.polling poll) (some .answered) (.sleeping due)
  | ended (before : Timer) : TimerMove due before (some .ended) .off
  | stopped (before : Timer) : TimerMove due before (some .stopped) .off
  | lost (before : Timer) : TimerMove due before (some .lost) .off

namespace TimerTasks

/-- What happens in a step, if anything does. -/
def through (tasks : TimerTasks) (clock : Nat) (event : Option TimerEvent) :
    TimerTasks :=
  event.elim tasks (tasks.happen clock)

theorem Follow.move {interval clock : Nat} {tasks : TimerTasks}
    {before after : Timer} {event : Option TimerEvent}
    (follow : tasks.Follow interval before)
    (move : TimerMove (clock + interval) before event after) :
    (tasks.through clock event).Follow interval after := by
  cases move with
  | still => exact follow
  | opened picksUp =>
      cases follow with
      | off noTask =>
          cases picksUp with
          | true => exact .of_spawn noTask
          | false => exact .off noTask
  | started => exact .of_spawn follow.dismiss_alive
  | polled _ poll =>
      cases follow with
      | @sleeping number since isAlive isHeld =>
          have waits : (tasks.through clock (some (.polled poll))).alive =
              [⟨number, since, some poll⟩] := by
            simp [through, happen, adapt, isAlive, isHeld]
          exact .polling waits isHeld
  | answered poll =>
      cases follow with
      | @polling number since poll isAlive isHeld =>
          have rests : (tasks.through clock (some .answered)).alive =
              [⟨number, clock, none⟩] := by
            simp [through, happen, adapt, isAlive, isHeld]
          exact .sleeping rests isHeld
  | ended | stopped => exact .off follow.dismiss_alive
  | lost => exact .off rfl

end TimerTasks

namespace Desk

variable {σ ς : Type} [KeyValueStore σ] [AgentService ς]

/-! ## What is seen of the timer -/

/-- The timer of the session, if there is one. -/
def timer (desk : Desk σ ς) : Timer :=
  if desk.isOpen then desk.poller.timer else .off

/-- Whether the task goes on after an answer to its poll. -/
def goesOn (desk : Desk σ ς) (poll : Poll)
    (outcome : Except ServiceError RunSnapshot) : Bool :=
  match (desk.poller.handleAnswer poll outcome).result with
  | .ok outcome => outcome.keepsPolling
  | .error _ => true

/-- What happens to the tasks of the timer in a step, as far as it can be
seen by what the step returns, and by the polls that are sent and answered. -/
def timerEvent (desk : Desk σ ς) (step : SessionStep) : Option TimerEvent :=
  match step with
  | .openPassive | .openActive =>
      if desk.outcome? step = some (.ok ()) then
        some (.opened ((desk.noticed step).any PollerEffect.isPickUp))
      else none
  | .start .. | .resume =>
      if desk.outcome? step = some (.ok ()) then some .started else none
  | .suspend _ =>
      if desk.isOpen ∧ desk.poller.running?.isSome then some .stopped
      else none
  | .stop | .clear =>
      if (desk.outcome? step).any isCarriedOut then some .stopped else none
  | .timerDue =>
      match desk.timer with
      | .sleeping _ =>
          match desk.poller.nextPoll with
          | .ok poll => some (.polled poll)
          | .error _ => some .ended
      | .off | .polling _ => none
  | .answer sent forTimer outcome =>
      if sent ∈ desk.asked ∧ forTimer ∧ desk.timer = .polling sent.poll then
        if desk.goesOn sent.poll outcome then some .answered else some .ended
      else none
  | .close | .detach | .drop _ => if desk.isOpen then some .stopped else none
  | .vanish => some .lost
  | .selectEvaluator _ | .setItemLimit .. | .viewRecord _ | .takeResumed
  | .ask | .finishTeardown _ => none

/-- The tasks after the steps that follow. -/
def tasksThrough (desk : Desk σ ς) (tasks : TimerTasks) :
    List (Moment × SessionStep) → TimerTasks
  | [] => tasks
  | next :: later =>
      (desk.step next.1 next.2).tasksThrough
        (tasks.through next.1.clock
          ((desk.atMoment next.1).timerEvent next.2)) later

/-! ## One step -/

/-- The timer of the session follows the event of a step. -/
def Follows (desk : Desk σ ς) (event : Option TimerEvent)
    (after : Desk σ ς) : Prop :=
  TimerMove (desk.poller.clock + desk.poller.interval) desk.timer event
      after.timer ∧
    after.poller.interval = desk.poller.interval

omit [KeyValueStore σ] [AgentService ς] in
theorem follows_of_same {desk after : Desk σ ς}
    (same : desk.poller.SameTimer after.poller)
    (sameOpen : after.isOpen = desk.isOpen) : desk.Follows none after := by
  refine ⟨?_, same.interval⟩
  have sameTimer : after.timer = desk.timer := by
    rw [timer, timer, sameOpen, same.timer]
  rw [sameTimer]
  exact .still _

omit [KeyValueStore σ] [AgentService ς] in
theorem follows_refl (desk : Desk σ ς) : desk.Follows none desk :=
  follows_of_same desk.poller.sameTimer_refl rfl

section Operation

variable {α : Type} {desk after : Desk σ ς} {reaction : Reaction σ α}

omit [KeyValueStore σ] [AgentService ς] in
theorem follows_of_returns {event : Option TimerEvent}
    (stays : desk.isOpen = false → event = none ∧ after = desk)
    (leads : desk.isOpen = true → after.isOpen = true ∧
      TimerMove (desk.poller.clock + desk.poller.interval) desk.poller.timer
        event after.poller.timer ∧
      after.poller.interval = desk.poller.interval) :
    desk.Follows event after := by
  cases isOpen : desk.isOpen with
  | false =>
      obtain ⟨noEvent, same⟩ := stays isOpen
      rw [noEvent, same]
      exact desk.follows_refl
  | true =>
      obtain ⟨standsOpen, move, interval⟩ := leads isOpen
      refine ⟨?_, interval⟩
      rw [timer, timer, isOpen, standsOpen]
      exact move

omit [KeyValueStore σ] [AgentService ς] in
theorem follows_of_startsTimer (starts : reaction.StartsTimer desk.poller)
    (stays : desk.isOpen = false → after = desk)
    (leads : desk.isOpen = true →
      after.isOpen = true ∧ after.poller = reaction.poller) :
    desk.Follows
      (if desk.returns? reaction = some (.ok ()) then some .started else none)
      after := by
  apply follows_of_returns
  · intro isClosed
    rw [returns?, isClosed]
    exact ⟨rfl, stays isClosed⟩
  · intro isOpen
    obtain ⟨standsOpen, isPoller⟩ := leads isOpen
    refine ⟨standsOpen, ?_, isPoller ▸ starts.interval⟩
    rw [isPoller, starts.timer, returns?, isOpen, Reaction.forget]
    cases reaction.result with
    | ok value => exact .started _
    | error error => exact .still _

omit [KeyValueStore σ] [AgentService ς] in
theorem follows_of_stopsTimer (stops : reaction.StopsTimer desk.poller)
    (stays : desk.isOpen = false → after = desk)
    (leads : desk.isOpen = true →
      after.isOpen = true ∧ after.poller = reaction.poller)
    (interval : reaction.poller.interval = desk.poller.interval) :
    desk.Follows
      (if (desk.returns? reaction).any isCarriedOut then some .stopped
        else none)
      after := by
  apply follows_of_returns
  · intro isClosed
    rw [returns?, isClosed]
    exact ⟨rfl, stays isClosed⟩
  · intro isOpen
    obtain ⟨standsOpen, isPoller⟩ := leads isOpen
    refine ⟨standsOpen, ?_, isPoller ▸ interval⟩
    have sameKind : isCarriedOut reaction.forget.result =
        isCarriedOut reaction.result := by
      rw [Reaction.forget]
      cases reaction.result <;> rfl
    rw [isPoller, stops.timer, returns?, isOpen, if_pos rfl, Option.any_some,
      sameKind]
    cases isCarriedOut reaction.result with
    | true => exact .stopped _
    | false => exact .still _

end Operation

/-- What a step does that opens a session. -/
structure Opens (desk : Desk σ ς) (poller : Poller σ)
    (goOn : Poller σ → ς → Reaction σ Unit × ς) : Prop where
  isClosed : desk.isOpen = false
  isFound : desk.found? = some (.ok poller)
  timer : poller.timer = .off
  clock : poller.clock = desk.poller.clock
  interval : poller.interval = desk.poller.interval
  isOpened : desk.openBy goOn =
    { desk with
      poller := (goOn poller desk.service).1.poller
      service := (goOn poller desk.service).2
      isOpen := (goOn poller desk.service).1.result.isOk }

omit [AgentService ς] in
theorem openBy_cases (desk : Desk σ ς)
    (goOn : Poller σ → ς → Reaction σ Unit × ς) :
    (desk.openBy goOn = desk ∧ ∀ poller, desk.found? ≠ some (.ok poller)) ∨
      ∃ poller, desk.Opens poller goOn := by
  by_cases taken : desk.isOpen ∨ Teardown.whole ∈ desk.pending
  · left
    simp only [openBy, found?, if_pos taken, ne_eq, reduceCtorEq,
      not_false_eq_true, implies_true, and_self]
  cases found : KeyValueStore.read Dashboard.decoder desk.poller.store
      StoreKey.dashboard.name with
  | error error =>
      left
      simp only [openBy, found?, if_neg taken, Poller.openPassive, found]
      refine ⟨rfl, ?_⟩
      intro poller isFound
      cases isFound
  | ok value =>
      right
      refine ⟨{ desk.poller with
        dashboard := value.getD .empty, timer := .off, resumed := false },
        ?_, ?_, rfl, rfl, rfl, ?_⟩
      · simpa using (not_or.mp taken).1
      · simp only [found?, if_neg taken, Poller.openPassive, found]
        rfl
      · simp only [openBy, if_neg taken, Poller.openPassive, found]
        rfl

omit [AgentService ς] in
/-- A session that is opened has a timer only if polling is picked up. -/
theorem Opens.follows {desk : Desk σ ς} {poller : Poller σ}
    {goOn : Poller σ → ς → Reaction σ Unit × ς} (opens : desk.Opens poller goOn)
    (picksUp : (goOn poller desk.service).1.PicksUp poller) :
    desk.Follows
      (if (goOn poller desk.service).1.result = .ok () then
        some (.opened ((goOn poller desk.service).1.effects.any
          PollerEffect.isPickUp))
      else none)
      (desk.openBy goOn) := by
  have wasOff : desk.timer = .off := by
    rw [Desk.timer, opens.isClosed]
    rfl
  have due : poller.startTimer.timer =
      .sleeping (desk.poller.clock + desk.poller.interval) := by
    rw [Poller.startTimer, opens.clock, opens.interval]
  rw [opens.isOpened]
  refine ⟨?_, picksUp.interval.trans opens.interval⟩
  rw [wasOff, Desk.timer, picksUp.timer, opens.timer, due]
  cases (goOn poller desk.service).1.result with
  | ok done => exact .opened _
  | error error => exact .still .off

omit [KeyValueStore σ] [AgentService ς] in
/-- A session that is opened passively does not poll. -/
theorem picksUp_passive (poller : Poller σ) :
    (poller.answer [] () : Reaction σ Unit).PicksUp poller :=
  ⟨rfl, rfl, rfl⟩

theorem outcome?_of_unfound {desk : Desk σ ς} {step : SessionStep}
    (opens : step.opens = true)
    (unfound : ∀ poller, desk.found? ≠ some (.ok poller)) :
    desk.outcome? step ≠ some (.ok ()) := by
  cases step with
  | openPassive | openActive =>
      simp only [outcome?]
      cases isFound : desk.found? with
      | none =>
          intro returned
          cases returned
      | some found =>
          cases found with
          | error error =>
              intro returned
              cases returned
          | ok poller => exact absurd isFound (unfound poller)
  | _ => cases opens

theorem noticed_openActive {desk : Desk σ ς} {poller : Poller σ}
    (isFound : desk.found? = some (.ok poller)) :
    desk.noticed .openActive = (poller.rehydrate desk.service).1.effects := by
  unfold found? at isFound
  split at isFound
  · cases isFound
  next free => simp only [noticed, if_neg free, Option.some.inj isFound]

theorem open_follows (desk : Desk σ ς) {step : SessionStep}
    (opens : step.opens = true) :
    desk.Follows (desk.timerEvent step) (desk.happen step) := by
  have unopened {goOn : Poller σ → ς → Reaction σ Unit × ς}
      (same : desk.openBy goOn = desk)
      (unfound : ∀ poller, desk.found? ≠ some (.ok poller)) :
      desk.Follows (if desk.outcome? step = some (.ok ()) then
        some (.opened ((desk.noticed step).any PollerEffect.isPickUp))
      else none) (desk.openBy goOn) := by
    rw [if_neg (outcome?_of_unfound opens unfound), same]
    exact desk.follows_refl
  cases step with
  | openPassive =>
      rcases desk.openBy_cases fun poller service =>
          (poller.answer [] (), service) with ⟨same, unfound⟩ | ⟨poller, found⟩
      · exact unopened same unfound
      · have follows := found.follows (picksUp_passive poller)
        simp only [timerEvent, outcome?, found.isFound, Option.map_some]
        exact follows
  | openActive =>
      rcases desk.openBy_cases Poller.rehydrate with
        ⟨same, unfound⟩ | ⟨poller, found⟩
      · exact unopened same unfound
      · have follows := found.follows (poller.rehydrate_picksUp desk.service)
        simp only [timerEvent, outcome?, found.isFound, Option.map_some,
          noticed_openActive found.isFound, Option.some.injEq]
        exact follows
  | _ => cases opens

omit [KeyValueStore σ] [AgentService ς] in
/-- A session that ends has no timer any more. -/
theorem end_follows {desk after : Desk σ ς}
    (isClosed : after.isOpen = false)
    (interval : after.poller.interval = desk.poller.interval) :
    desk.Follows (if desk.isOpen then some .stopped else none) after := by
  refine ⟨?_, interval⟩
  rw [timer, timer, isClosed]
  cases desk.isOpen with
  | true => exact .stopped _
  | false => exact .still _

theorem wakeTimer_follows (desk : Desk σ ς) :
    desk.Follows (desk.timerEvent .timerDue) desk.wakeTimer := by
  simp only [timerEvent]
  unfold wakeTimer
  cases isOpen : desk.isOpen with
  | false =>
      simp only [timer, isOpen, Bool.false_eq_true, if_false]
      exact desk.follows_refl
  | true =>
      simp only [timer, isOpen, if_true]
      cases isTimer : desk.poller.timer with
      | off | polling poll => exact desk.follows_refl
      | sleeping due =>
          have sleeps : desk.timer = .sleeping due := by
            rw [timer, isOpen, isTimer]
            rfl
          unfold Poller.timerDue
          cases desk.poller.nextPoll with
          | ok poll =>
              refine ⟨?_, rfl⟩
              rw [sleeps]
              exact .polled due poll
          | error error =>
              refine ⟨?_, rfl⟩
              rw [sleeps]
              exact .ended _

omit [KeyValueStore σ] [AgentService ς] in
theorem timer_eq_polling_iff {desk : Desk σ ς} {poll : Poll} :
    desk.timer = .polling poll ↔
      desk.isOpen = true ∧ desk.poller.timer = .polling poll := by
  rw [timer]
  cases desk.isOpen <;> simp

theorem takeAnswer_follows (desk : Desk σ ς) (sent : SentPoll)
    (forTimer : Bool) (outcome : Except ServiceError RunSnapshot) :
    desk.Follows (desk.timerEvent (.answer sent forTimer outcome))
      (desk.takeAnswer sent forTimer outcome) := by
  have leaves := desk.poller.handleAnswer_leavesTimer sent.poll outcome
  simp only [timerEvent]
  unfold takeAnswer
  by_cases wasSent : sent ∈ desk.asked
  case neg =>
    rw [if_neg wasSent, if_neg fun answers => wasSent answers.1]
    exact desk.follows_refl
  cases forTimer with
  | false =>
      simp only [wasSent, Bool.false_eq_true, false_and, and_false, if_true,
        if_false]
      exact follows_of_same leaves.same rfl
  | true =>
      simp only [wasSent, true_and, if_true, timer_eq_polling_iff]
      split
      next waits =>
        have isPoller : (desk.poller.handleTimerAnswer sent.poll
              outcome).poller =
            if desk.goesOn sent.poll outcome then
              (desk.poller.handleAnswer sent.poll outcome).poller.startTimer
            else
              (desk.poller.handleAnswer sent.poll outcome).poller.stopTimer :=
          rfl
        refine ⟨?_, (desk.poller.handleTimerAnswer_keeps sent.poll outcome).2⟩
        rw [timer_eq_polling_iff.mpr waits, timer, isPoller]
        dsimp only
        rw [if_pos waits.1]
        cases desk.goesOn sent.poll outcome with
        | true =>
            rw [if_pos rfl, if_pos rfl, leaves.same.startTimer.timer]
            exact .answered sent.poll
        | false => exact .ended _
      next => exact desk.follows_refl

section InSession

variable {desk : Desk σ ς} {operation : Poller σ → ς → Poller σ × ς}

omit [KeyValueStore σ] [AgentService ς] in
theorem inSession_of_closed (isClosed : desk.isOpen = false) :
    desk.inSession operation = desk := by
  rw [inSession, isClosed]
  rfl

omit [KeyValueStore σ] [AgentService ς] in
theorem inSession_of_isOpen (isOpen : desk.isOpen = true) :
    (desk.inSession operation).isOpen = true ∧
      (desk.inSession operation).poller =
        (operation desk.poller desk.service).1 := by
  rw [inSession, if_pos isOpen]
  exact ⟨isOpen, rfl⟩

omit [KeyValueStore σ] [AgentService ς] in
/-- An operation that leaves the timer alone does so within a session. -/
theorem inSession_follows (same : ∀ (poller : Poller σ) (service : ς),
      poller.SameTimer (operation poller service).1) :
    desk.Follows none (desk.inSession operation) := by
  unfold inSession
  split
  · exact follows_of_same (same _ _) rfl
  · exact desk.follows_refl

end InSession

theorem suspend_follows (desk : Desk σ ς) (silent : Bool) :
    desk.Follows (desk.timerEvent (.suspend silent))
      (desk.happen (.suspend silent)) := by
  simp only [timerEvent, happen]
  apply follows_of_returns
  · intro isClosed
    refine ⟨?_, inSession_of_closed isClosed⟩
    rw [isClosed]
    rfl
  · intro isOpen
    obtain ⟨standsOpen, isPoller⟩ := inSession_of_isOpen isOpen
    have quiet := desk.poller.suspend_quiet silent desk.service
    refine ⟨standsOpen, ?_, (congrArg Poller.interval isPoller).trans
      quiet.interval⟩
    rw [isPoller, (desk.poller.suspend_timer silent _).1, isOpen]
    cases desk.poller.running?.isSome with
    | true => exact .stopped _
    | false => exact .still _

theorem happen_follows (desk : Desk σ ς) (step : SessionStep) :
    desk.Follows (desk.timerEvent step) (desk.happen step) := by
  cases step with
  | openPassive | openActive => exact desk.open_follows rfl
  | selectEvaluator kind =>
      exact inSession_follows fun poller _ =>
        (Poller.commit_leavesTimer poller.sameTimer_refl _ rfl _).same
  | setItemLimit kind limit =>
      exact inSession_follows fun poller _ =>
        (Poller.commit_leavesTimer poller.sameTimer_refl _ rfl _).same
  | viewRecord index =>
      exact inSession_follows fun poller service =>
        (poller.viewRecord_leavesTimer index service).same
  | takeResumed => exact inSession_follows fun poller _ => ⟨rfl, rfl, rfl⟩
  | start kind itemLimit model =>
      refine follows_of_startsTimer (desk.poller.start_startsTimer kind
        itemLimit model desk.service) ?_ ?_
      · intro isClosed
        simp only [happen, startRun, isClosed, Bool.false_eq_true, if_false]
      · intro isOpen
        simp only [happen, startRun, isOpen, if_true, and_self]
  | suspend silent => exact desk.suspend_follows silent
  | resume =>
      rw [happen]
      exact follows_of_startsTimer
        (desk.poller.resume_startsTimer desk.service) inSession_of_closed
        inSession_of_isOpen
  | stop =>
      rw [happen]
      exact follows_of_stopsTimer (desk.poller.stop_stopsTimer desk.service)
        inSession_of_closed inSession_of_isOpen
        (desk.poller.stop_quiet desk.service).interval
  | clear =>
      rw [happen]
      exact follows_of_stopsTimer desk.poller.clear_stopsTimer
        inSession_of_closed inSession_of_isOpen
        desk.poller.clear_quiet.interval
  | ask =>
      simp only [happen, timerEvent, askPoll]
      split
      · split <;> exact follows_of_same desk.poller.sameTimer_refl rfl
      · exact desk.follows_refl
  | timerDue => exact desk.wakeTimer_follows
  | answer sent forTimer outcome =>
      exact desk.takeAnswer_follows sent forTimer outcome
  | close =>
      exact end_follows rfl (inSession_quiet desk Poller.close_quiet).interval
  | detach =>
      exact end_follows rfl (inSession_quiet desk fun poller _ =>
        poller.staysQuiet_stopTimer).interval
  | drop inUse =>
      refine end_follows ?_ (happen_quiet desk rfl).interval
      simp only [happen, dropSession]
      split
      · rfl
      next isClosed => simpa using isClosed
  | finishTeardown rest =>
      simp only [happen, timerEvent, finish]
      split
      · exact follows_of_same
          (desk.poller.finishTeardown_leavesTimer rest desk.service).1 rfl
      · exact desk.follows_refl
  | vanish => exact ⟨.lost _, rfl⟩

/-! ## Whatever has happened -/

/-- The tasks of a desk, given those that were there at first, are as the timer
of its session says. -/
theorem follow_after {interval : Nat} {tasks : TimerTasks} {desk : Desk σ ς}
    (follow : tasks.Follow interval desk.timer)
    (isInterval : desk.poller.interval = interval)
    (steps : List (Moment × SessionStep)) :
    (desk.tasksThrough tasks steps).Follow interval
      (desk.after steps).timer := by
  induction steps generalizing desk tasks with
  | nil => exact follow
  | cons next rest ih =>
      obtain ⟨move, sameInterval⟩ :=
        (desk.atMoment next.1).happen_follows next.2
      have due : (desk.atMoment next.1).poller.clock +
          (desk.atMoment next.1).poller.interval = next.1.clock + interval :=
        congrArg (next.1.clock + ·) isInterval
      rw [due] at move
      exact ih (follow.move move) (sameInterval.trans isInterval)

end Desk

end AgentPipeline
