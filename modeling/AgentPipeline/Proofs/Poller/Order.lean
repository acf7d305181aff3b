import AgentPipeline.Proofs.Poller.Calls

/-!
# The order of control requests

A session that is dropped marks its run at once, but the service is asked to
suspend the run by a task of its own.  If that task has run before the next
session opens, and the mark was written, then the service learns of
suspensions and resumptions in the order in which they happen.  Otherwise the
next session may resume the run before it is suspended, or find it running.
Main statements: `controls_inOrder`, `controls_outOfOrder`.
-/

namespace AgentPipeline

namespace Desk

open LoggedService

variable {σ ς : Type} [KeyValueStore σ] [AgentService ς]

/-- What ended sessions have left to do is done before the next one opens or
the process goes away, and the mark of a session that ends is written. -/
structure IsTimely (desk : Desk σ ς) (moment : Moment) (step : SessionStep) :
    Prop where
  finished : step.leavesBehind = true → ∀ rest ∈ desk.pending, rest = .nothing
  marked : step.ends = true → desk.poller.dashboard.isRunning = true →
    (desk.step moment step).poller.dashboard.isRunning = false →
    (desk.step moment step).poller.IsTakenBy desk.poller.store

def AreTimely (desk : Desk σ ς) : List (Moment × SessionStep) → Prop
  | [] => True
  | next :: later =>
      desk.IsTimely next.1 next.2 ∧ (desk.step next.1 next.2).AreTimely later

/-- A run that is running is none that the service was last asked to suspend
and has agreed to. -/
def Agrees (desk : Desk σ (LoggedService ς)) : Prop :=
  desk.poller.dashboard.isRunning = true →
    lastControl? desk.service.log ≠ some (.suspend, true)

/-- A session polls a run that is running. -/
structure IsFollowing (desk : Desk σ ς) (run : EvaluatorRun) : Prop where
  isOpen : desk.isOpen = true
  isPolling : desk.poller.isPolling = true
  isRun : desk.poller.dashboard.run = some run
  running : run.status = .running

/-- What happens once a session has been dropped, given the calls until then:
the session still waits for its end, or the next call was to suspend the run,
or the run has settled while the session waited, and its end asked the service
for nothing. -/
inductive SuspendsFirst (run : String) (log : List LoggedCall)
    (desk : Desk σ (LoggedService ς)) (later : List (Moment × SessionStep)) :
    Prop
  | waits (isClosed : (desk.after later).isOpen = false)
      (silent : (desk.after later).service.log = log)
  | asked {accepted : Bool}
      (isFirst : log ++ [⟨.control run .suspend, accepted⟩] <+:
        (desk.after later).service.log)
  | settled {before rest : List (Moment × SessionStep)} {moment : Moment}
      (isSplit : later = before ++ (moment, .finishTeardown .whole) :: rest)
      (isClosed : (desk.after before).isOpen = false)
      (isLeft : .whole ∈ (desk.after before).pending)
      (asleep : (desk.after before).poller.dashboard.isRunning = false)
      (silent : (desk.after before).service.log = log)
      (asksNothing : ((desk.after before).step moment
        (.finishTeardown .whole)).service.log = log)

/-! ## Runs at rest -/

section Rests

variable {holds : σ → String → Option String}
  {desk : Desk σ (LoggedService ς)} {moment : Moment} {step : SessionStep}

/-- The run is running neither in memory nor in the store. -/
structure Rests {ς : Type} (holds : σ → String → Option String)
    (desk : Desk σ ς) : Prop where
  inMemory : desk.poller.dashboard.isRunning = false
  inStore : (desk.stored holds).isRunning = false

omit [KeyValueStore σ] [AgentService ς] in
theorem Rests.of_written (asleep : desk.poller.dashboard.isRunning = false)
    (isWritten : desk.IsWritten holds) : desk.Rests holds := by
  refine ⟨asleep, ?_⟩
  rw [stored, isWritten]
  exact Dashboard.isRunning_parse? asleep

omit [AgentService ς] in
theorem Rests.base (durable : KeyValueStore.Durable holds)
    (rests : desk.Rests holds) (step : SessionStep) :
    (desk.base step).isRunning = false := by
  unfold Desk.base
  cases loaded : desk.loaded? step with
  | none => exact rests.inMemory
  | some dashboard =>
      rw [eq_stored_of_loaded? durable loaded]
      exact rests.inStore

theorem Rests.of_asleep (durable : KeyValueStore.Durable holds)
    (rests : desk.Rests holds)
    (asleep : (desk.step moment step).poller.dashboard.isRunning = false) :
    (desk.step moment step).Rests holds := by
  rcases (desk.step_movedFrom moment step).isWritten_or_same durable with
    isWritten | isSame
  · exact .of_written asleep isWritten
  · refine ⟨asleep, ?_⟩
    rw [isSame]
    exact rests.inStore

theorem Suspends.rests (durable : KeyValueStore.Durable holds)
    (timely : desk.IsTimely moment step)
    (suspends : Suspends step desk (desk.step moment step)) :
    (desk.step moment step).Rests holds := by
  have taken : (desk.step moment step).poller.IsTakenBy desk.poller.store := by
    rcases suspends.taken with taken | ⟨isEnd, wasRunning⟩
    · exact taken
    · exact timely.marked isEnd wasRunning suspends.marks.asleep
  refine .of_written suspends.marks.asleep ?_
  rw [IsWritten, suspends.marks.isStore]
  exact durable.set_ok taken

end Rests

/-! ## The order is kept -/

/-- While a session is open nothing is left to do, and if the service was last
asked to suspend the run, or is still to be asked, the run rests. -/
structure IsInOrder (holds : σ → String → Option String)
    (desk : Desk σ (LoggedService ς)) : Prop where
  alone : desk.isOpen = true → ∀ rest ∈ desk.pending, rest = .nothing
  agreed : lastControl? desk.service.log = some (.suspend, true) →
    desk.Rests holds
  marked : ∀ run, .request run ∈ desk.pending → desk.Rests holds

section InOrder

variable {holds : σ → String → Option String}
  {desk : Desk σ (LoggedService ς)} {moment : Moment} {next : SessionStep}

theorem IsInOrder.alone_step (inOrder : desk.IsInOrder holds)
    (timely : desk.IsTimely moment next)
    (isOpen : (desk.step moment next).isOpen = true) :
    ∀ rest ∈ (desk.step moment next).pending, rest = .nothing := by
  intro rest isLeft
  rcases (desk.atMoment moment).happen_standing next with
    ⟨sameOpen, fewer⟩ | ended | ⟨opens, -, samePending⟩
  · exact inOrder.alone (sameOpen.symm.trans isOpen) rest (fewer isLeft)
  · cases ended.symm.trans isOpen
  · rw [Desk.step, samePending] at isLeft
    refine timely.finished ?_ rest isLeft
    cases next <;> first | rfl | cases opens

/-- While a request is still to be made nobody speaks to the service but those
who make it, and the run goes on resting. -/
theorem IsInOrder.rests_step (durable : KeyValueStore.Durable holds)
    (inOrder : desk.IsInOrder holds) (timely : desk.IsTimely moment next)
    {run : String} (isLeft : .request run ∈ desk.pending) :
    (desk.step moment next).Rests holds := by
  have rests := inOrder.marked run isLeft
  obtain ⟨calls, -, tells⟩ := desk.step_talks moment next
  cases tells with
  | nothing areAside asleep =>
      exact rests.of_asleep durable (asleep (rests.base durable next))
  | other areOther isHere =>
      rcases isHere with isOpen | leaves
      · cases inOrder.alone isOpen _ isLeft
      · cases timely.finished leaves _ isLeft
  | suspended suspends => exact suspends.rests durable timely
  | requested _ isDashboard =>
      apply rests.of_asleep durable
      rw [isDashboard]
      exact rests.inMemory

theorem IsInOrder.agreed_step (durable : KeyValueStore.Durable holds)
    (inOrder : desk.IsInOrder holds) (timely : desk.IsTimely moment next)
    (isLast : lastControl? (desk.step moment next).service.log =
      some (.suspend, true)) :
    (desk.step moment next).Rests holds := by
  obtain ⟨calls, isLogged, tells⟩ := desk.step_talks moment next
  rw [isLogged, lastControl?_append] at isLast
  cases tells with
  | nothing areAside asleep =>
      rw [areAside] at isLast
      have rests := inOrder.agreed isLast
      exact rests.of_asleep durable (asleep (rests.base durable next))
  | other areOther => exact absurd isLast (areOther _)
  | suspended suspends => exact suspends.rests durable timely
  | requested isLeft => exact inOrder.rests_step durable timely isLeft

theorem IsInOrder.step (durable : KeyValueStore.Durable holds)
    (inOrder : desk.IsInOrder holds) (timely : desk.IsTimely moment next) :
    (desk.step moment next).IsInOrder holds where
  alone := inOrder.alone_step timely
  agreed := inOrder.agreed_step durable timely
  marked run isLeft := by
    rcases request_pending isLeft with wasLeft | suspends
    · exact inOrder.rests_step durable timely wasLeft
    · exact Suspends.rests durable timely ⟨suspends.marks, suspends.taken⟩

omit [KeyValueStore σ] [AgentService ς] in
theorem isInOrder_new (store : σ) (service : ς) (supply : Supply)
    (interval : Nat) :
    (new store (LoggedService.begin service) supply interval).IsInOrder
      holds where
  alone := nofun
  agreed := nofun
  marked := nofun

theorem areTimely_append {first second : List (Moment × SessionStep)}
    (timely : desk.AreTimely (first ++ second)) :
    desk.AreTimely first ∧ (desk.after first).AreTimely second := by
  induction first generalizing desk with
  | nil => exact ⟨trivial, timely⟩
  | cons next rest ih =>
      obtain ⟨isTimely, later⟩ := timely
      exact ⟨⟨isTimely, (ih later).1⟩, (ih later).2⟩

theorem IsInOrder.after_steps (durable : KeyValueStore.Durable holds)
    (inOrder : desk.IsInOrder holds) {steps : List (Moment × SessionStep)}
    (timely : desk.AreTimely steps) : (desk.after steps).IsInOrder holds := by
  induction steps generalizing desk with
  | nil => exact inOrder
  | cons next rest ih => exact ih (inOrder.step durable timely.1) timely.2

omit [KeyValueStore σ] [AgentService ς] in
theorem IsInOrder.agrees (inOrder : desk.IsInOrder holds) : desk.Agrees := by
  intro isRunning isLast
  cases (inOrder.agreed isLast).inMemory.symm.trans isRunning

end InOrder

/-! ## After a session has been dropped -/

/-- Nobody does anything but handle an answer. -/
structure StaysClosed {ς : Type} (desk after : Desk σ ς) : Prop where
  isClosed : after.isOpen = false
  pending : after.pending = desk.pending
  service : after.service = desk.service
  started : after.started = desk.started

theorem happen_of_closed {desk : Desk σ ς} {step : SessionStep}
    (isClosed : desk.isOpen = false) (stays : step.leavesBehind = false) :
    (∃ rest ∈ desk.pending, step = .finishTeardown rest) ∨
      StaysClosed desk (desk.happen step) := by
  have still : StaysClosed desk desk := ⟨isClosed, rfl, rfl, rfl⟩
  cases step with
  | openPassive | openActive | vanish => cases stays
  | selectEvaluator | setItemLimit | suspend | resume | stop | clear
  | viewRecord | takeResumed =>
      simp only [happen, inSession_of_closed isClosed]
      exact .inr still
  | close | detach =>
      simp only [happen, endSession, inSession_of_closed isClosed]
      exact .inr ⟨rfl, rfl, rfl, rfl⟩
  | start | ask | timerDue | drop =>
      simp only [happen, startRun, askPoll, wakeTimer, dropSession, isClosed,
        Bool.false_eq_true, if_false]
      exact .inr still
  | answer sent forTimer outcome =>
      obtain ⟨sameOpen, samePending⟩ :=
        desk.takeAnswer_standing sent forTimer outcome
      obtain ⟨sameService, sameStarted⟩ :=
        desk.takeAnswer_keeps sent forTimer outcome
      exact .inr ⟨sameOpen.trans isClosed, samePending, sameService,
        sameStarted⟩
  | finishTeardown rest =>
      by_cases isLeft : rest ∈ desk.pending
      · exact .inl ⟨rest, isLeft, rfl⟩
      · simp only [happen, finish, if_neg isLeft]
        exact .inr still

/-- What a dropped session has left of a run is still to be done, and the
service has had no call since.  If the whole end is left, there is no other
run. -/
structure Awaits (run : String) (log : List LoggedCall) (left : Teardown)
    (desk : Desk σ (LoggedService ς)) : Prop where
  isClosed : desk.isOpen = false
  isLeft : left ∈ desk.pending
  only : ∀ rest ∈ desk.pending, rest = left ∨ rest = .nothing
  silent : desk.service.log = log
  isOf : left = .request run ∨ left = .whole ∧
    ∀ kept, desk.poller.dashboard.run = some kept → kept.id = run

section Awaits

variable {run : String} {log : List LoggedCall} {left : Teardown}
  {desk : Desk σ (LoggedService ς)} {moment : Moment} {next : SessionStep}

theorem SuspendsFirst.of_step {later : List (Moment × SessionStep)}
    (goesOn : (desk.step moment next).SuspendsFirst run log later) :
    desk.SuspendsFirst run log ((moment, next) :: later) := by
  cases goesOn with
  | waits isClosed silent => exact .waits isClosed silent
  | asked isFirst => exact .asked isFirst
  | @settled before rest _ isSplit isClosed isLeft asleep silent asksNothing =>
      have isWhole : (moment, next) :: later =
          ((moment, next) :: before) ++ _ :: rest :=
        congrArg ((moment, next) :: ·) isSplit
      exact .settled isWhole isClosed isLeft asleep silent asksNothing

theorem suspendsFirst_of_asked {called : LoggedService ς}
    (silent : desk.service.log = log)
    (isCalled : (Poller.control run .suspend desk.service).2 = called)
    {after : Desk σ (LoggedService ς)} (isAfter : after.service = called)
    (later : List (Moment × SessionStep)) :
    after.SuspendsFirst run log later := by
  have isLogged : after.service.log = log ++ [⟨.control run .suspend,
      (Poller.control run .suspend desk.service).1.isOk⟩] := by
    rw [isAfter, ← isCalled, ← silent]
    exact log_of_call rfl
  exact .asked (isLogged ▸ after.log_after later)

/-- The whole end suspends the run that is running, and asks for nothing if
none is. -/
theorem Awaits.finish_whole (awaits : desk.Awaits run log .whole)
    (moment : Moment) (later : List (Moment × SessionStep)) :
    desk.SuspendsFirst run log ((moment, .finishTeardown .whole) :: later) := by
  have ends := Poller.finish_whole_ends (desk.atMoment moment).poller
    desk.service
  have isFinished := (finish_step moment awaits.isLeft).1
  cases isRunning : desk.poller.dashboard.isRunning with
  | true =>
      obtain ⟨kept, isRun, running⟩ := Dashboard.exists_of_isRunning isRunning
      obtain rfl : kept.id = run := by
        rcases awaits.isOf with isRequest | ⟨-, isOnly⟩
        · cases isRequest
        · exact isOnly kept isRun
      have suspended := ends.suspends rfl kept isRun running
      apply SuspendsFirst.of_step
      rw [isFinished]
      exact suspendsFirst_of_asked awaits.silent rfl suspended.service later
  | false =>
      -- An answer has settled the run while the end of the session waited.
      have untouched := ends.leaves
        (.inr ((Dashboard.isRunning_eq_false_iff _).mp isRunning))
      refine .settled (List.nil_append _).symm awaits.isClosed awaits.isLeft
        isRunning awaits.silent ?_
      rw [after, List.foldl_nil, isFinished]
      exact (congrArg LoggedService.log untouched.service).trans awaits.silent

/-- What is done is either of no account or the request itself. -/
theorem Awaits.finish (awaits : desk.Awaits run log left) {rest : Teardown}
    (isPending : rest ∈ desk.pending) (moment : Moment) :
    (desk.step moment (.finishTeardown rest)).Awaits run log left ∨
      ∀ later, desk.SuspendsFirst run log
        ((moment, .finishTeardown rest) :: later) := by
  rcases awaits.only rest isPending with rfl | rfl
  · right
    intro later
    rcases awaits.isOf with rfl | ⟨rfl, -⟩
    · apply SuspendsFirst.of_step
      rw [(finish_step moment isPending).1]
      exact suspendsFirst_of_asked awaits.silent rfl rfl later
    · exact awaits.finish_whole moment later
  · have different : left ≠ .nothing := by
      rcases awaits.isOf with rfl | ⟨rfl, -⟩ <;> nofun
    left
    rw [(finish_step moment isPending).1]
    exact
      { isClosed := awaits.isClosed
        isLeft := (List.mem_erase_of_ne different).mpr awaits.isLeft
        only := fun rest isRest =>
          awaits.only rest (List.mem_of_mem_erase isRest)
        silent := awaits.silent
        isOf := awaits.isOf }

/-- A run that goes on while the session waits is still the same. -/
theorem Awaits.wait (awaits : desk.Awaits run log left)
    (stays : next.leavesBehind = false)
    (same : StaysClosed desk (desk.step moment next)) :
    (desk.step moment next).Awaits run log left where
  isClosed := same.isClosed
  isLeft := by
    rw [same.pending]
    exact awaits.isLeft
  only := by
    rw [same.pending]
    exact awaits.only
  silent := (congrArg LoggedService.log same.service).trans awaits.silent
  isOf := by
    refine awaits.isOf.imp_right fun ⟨isWhole, isOnly⟩ => ⟨isWhole, ?_⟩
    intro found isFound
    have isBase : desk.base next = desk.poller.dashboard := by
      cases next <;> first | rfl | cases stays
    have moved := desk.step_movedFrom moment next
    rw [isBase] at moved
    rcases moved.goesOn with isStart | ⟨-, goesOn⟩
    · rw [same.started] at isStart
      exact absurd isStart.symm (Nat.succ_ne_self _)
    · obtain ⟨earlier, isEarlier, sameId, -⟩ := goesOn found isFound
      exact sameId.trans (isOnly earlier isEarlier)

theorem Awaits.step (awaits : desk.Awaits run log left)
    (timely : desk.IsTimely moment next) :
    (desk.step moment next).Awaits run log left ∨
      ∀ later, desk.SuspendsFirst run log ((moment, next) :: later) := by
  have stays : next.leavesBehind = false := by
    by_contra leaves
    have isNothing := timely.finished (by simpa using leaves) _ awaits.isLeft
    rcases awaits.isOf with rfl | ⟨rfl, -⟩ <;> cases isNothing
  rcases (desk.atMoment moment).happen_of_closed awaits.isClosed stays with
    ⟨rest, isPending, rfl⟩ | same
  · exact awaits.finish isPending moment
  · exact .inl (awaits.wait stays
      ⟨same.isClosed, same.pending, same.service, same.started⟩)

theorem Awaits.suspendsFirst (awaits : desk.Awaits run log left)
    {later : List (Moment × SessionStep)} (timely : desk.AreTimely later) :
    desk.SuspendsFirst run log later := by
  induction later generalizing desk with
  | nil => exact .waits awaits.isClosed awaits.silent
  | cons next rest ih =>
      rcases awaits.step timely.1 with awaits | suspendsFirst
      · exact (ih awaits timely.2).of_step
      · exact suspendsFirst rest

/-- A session was dropped that polled a running run: the run is marked, and the
service is still to be asked to suspend it. -/
structure IsDropped {ς : Type} (desk : Desk σ ς) (run : EvaluatorRun)
    (moment : Moment) (after : Desk σ ς) : Prop where
  isClosed : after.isOpen = false
  pending : after.pending = .request run.id :: desk.pending
  service : after.service = desk.service
  dashboard : after.poller.dashboard = { desk.poller.dashboard with
    run := some (run.become .suspended true moment.now) }
  isStore : after.poller.store = (KeyValueStore.write desk.poller.store
    StoreKey.dashboard.name after.poller.dashboard.encode).2

theorem IsFollowing.isDropped {desk : Desk σ ς} {run : EvaluatorRun}
    (following : desk.IsFollowing run) (moment : Moment) :
    IsDropped desk run moment (desk.step moment (.drop false)) := by
  have isPolling : (desk.atMoment moment).poller.isPolling = true :=
    following.isPolling
  obtain ⟨isLeft, isDashboard, isStore⟩ :=
    Poller.drop_of_running isPolling following.isRun following.running
  rw [(drop_step following.isOpen moment false).1, isLeft]
  exact ⟨rfl, rfl, rfl, isDashboard, isStore⟩

/-- A session that is dropped while it polls a running run has left something
to do. -/
theorem awaits_drop {desk : Desk σ (LoggedService ς)} {kept : EvaluatorRun}
    (following : desk.IsFollowing kept)
    (alone : ∀ rest ∈ desk.pending, rest = .nothing) (moment : Moment)
    (inUse : Bool) :
    (desk.step moment (.drop inUse)).Awaits kept.id desk.service.log
      (desk.leftBy moment inUse) := by
  rw [(drop_step following.isOpen moment inUse).1]
  refine ⟨rfl, List.mem_cons_self, ?_, rfl, ?_⟩
  · intro rest isRest
    rcases List.mem_cons.mp isRest with isNew | isOld
    · exact .inl isNew
    · exact .inr (alone rest isOld)
  cases inUse with
  | true =>
      have isWhole := desk.leftBy_inUse moment
      rw [following.isPolling] at isWhole
      refine .inr ⟨isWhole, fun found isFound => ?_⟩
      have untouched := dropInUse_untouched following.isOpen moment
      rw [← (drop_step following.isOpen moment true).1,
        untouched.dashboard, following.isRun] at isFound
      exact congrArg EvaluatorRun.id (Option.some.inj isFound).symm
  | false =>
      have isPolling : (desk.atMoment moment).poller.isPolling = true :=
        following.isPolling
      exact .inl (Poller.drop_of_running isPolling following.isRun
        following.running).1

end Awaits

/-! ## Whatever has happened -/

/-- If what ended sessions leave to do is done in time, a run that is running
is none that the service has agreed to suspend; and once a session that polls
a running run is dropped, the service is asked to suspend that run before
anything else, unless the run settles while the end of the session waits. -/
theorem controls_inOrder {holds : σ → String → Option String}
    (durable : KeyValueStore.Durable holds) (store : σ) (service : ς)
    (supply : Supply) (interval : Nat) (steps : List (Moment × SessionStep))
    (timely : (new store (LoggedService.begin service) supply
      interval).AreTimely steps) :
    let first := new store (LoggedService.begin service) supply interval
    (first.after steps).Agrees ∧
    ∀ earlier moment inUse later,
      steps = earlier ++ (moment, .drop inUse) :: later →
      ∀ run, (first.after earlier).IsFollowing run →
        ((first.after earlier).step moment (.drop inUse)).SuspendsFirst run.id
          (first.after earlier).service.log later := by
  intro first
  have begins : first.IsInOrder holds :=
    isInOrder_new store service supply interval
  constructor
  · exact (begins.after_steps durable timely).agrees
  · intro earlier moment inUse later isSplit run following
    rw [isSplit] at timely
    obtain ⟨timelyBefore, -, timelyLater⟩ := areTimely_append timely
    have alone := (begins.after_steps durable timelyBefore).alone
      following.isOpen
    exact (awaits_drop following alone moment inUse).suspendsFirst timelyLater

/-- A service that starts runs and agrees to whatever is done with them. -/
structure WillingService where
deriving DecidableEq

instance : AgentService WillingService where
  call request service := match request with
    | .startEvaluator _ => (.ok (⟨"run-1"⟩ : StartedRun), service)
    | .control _ _ => (.ok (), service)
    | _ => (.error (.unreachable "away"), service)

/-- The service is asked to suspend the run of a dropped session, and then the
next one opens. -/
def reopenedInTime : List (Moment × SessionStep) :=
  [(epoch, .drop false), (epoch, .finishTeardown (.request "run-1")),
    (epoch, .openActive)]

/-- The next session opens before the service is asked. -/
def reopenedEarly : List (Moment × SessionStep) :=
  [(epoch, .drop false), (epoch, .openActive),
    (epoch, .finishTeardown (.request "run-1"))]

def ofWilling {σ : Type} (store : σ) : Desk σ (LoggedService WillingService) :=
  new store (.begin ⟨⟩) ⟨0, 0, ⟨0, 0⟩⟩ 600

def willingRun : EvaluatorRun :=
  .start "workflow" "run-1" 5 (some "model-A") ⟨0, 0⟩

/-- The start of the run, and control requests of it. -/
def callsOf (actions : List RunControl) : List LoggedCall :=
  ⟨.startEvaluator ⟨"workflow", 5, some ⟨"model-A", none⟩⟩, true⟩ ::
    actions.map fun action => ⟨.control "run-1" action, true⟩

instance (desk : Desk σ ς) (moment : Moment) (step : SessionStep) :
    Decidable (desk.IsTimely moment step) :=
  decidable_of_iff
    ((step.leavesBehind = true → ∀ rest ∈ desk.pending, rest = .nothing) ∧
      (step.ends = true → desk.poller.dashboard.isRunning = true →
        (desk.step moment step).poller.dashboard.isRunning = false →
        (KeyValueStore.write desk.poller.store StoreKey.dashboard.name
          (desk.step moment step).poller.dashboard.encode).1 = .ok ()))
    ⟨fun timely => ⟨timely.1, timely.2⟩,
      fun timely => ⟨timely.finished, timely.marked⟩⟩

def decideAreTimely (desk : Desk σ ς) :
    (steps : List (Moment × SessionStep)) → Decidable (desk.AreTimely steps)
  | [] => isTrue trivial
  | next :: later =>
      have := decideAreTimely (desk.step next.1 next.2) later
      inferInstanceAs (Decidable (_ ∧ _))

instance (desk : Desk σ ς) (steps : List (Moment × SessionStep)) :
    Decidable (desk.AreTimely steps) := desk.decideAreTimely steps

section Willing

variable {σ : Type} [KeyValueStore σ]

theorem isSound_willing {holds : σ → String → Option String}
    (durable : KeyValueStore.Durable holds) {store : σ}
    (isEmpty : holds store StoreKey.dashboard.name = none) :
    ((ofWilling store).after beginning).poller.dashboard.IsSound := by
  have begins : (ofWilling store).IsSound holds := by
    constructor
    · intro run isRun
      cases isRun
    · intro run isRun
      rw [stored, show holds (ofWilling store).poller.store _ = none
        from isEmpty] at isRun
      cases isRun
  exact (begins.after_steps durable beginning).inMemory

theorem isExclusive_willing (store : σ) :
    ((ofWilling store).after beginning).IsExclusive :=
  (isExclusive_new store (LoggedService.begin WillingService.mk)
    ⟨0, 0, ⟨0, 0⟩⟩ 600).after_steps beginning

end Willing

theorem reopenedInTime_willing :
    let last := (ofWilling MemoryStore.empty).after
      (beginning ++ reopenedInTime)
    last.poller.dashboard.isRunning = true ∧
      last.service.log = callsOf [.suspend, .resume] := by
  have isSteps : reopenedInTime = ((ofWilling MemoryStore.empty).after
      beginning).pausing (.drop false) epoch epoch [] epoch := rfl
  have polls : ((ofWilling MemoryStore.empty).after beginning).Polls
      (fun store => store.faults = .none) willingRun := by
    constructor <;> rfl
  have continues := (pausesWell_of_sound MemoryStore.durable
    MemoryStore.faultless (isSound_willing MemoryStore.durable rfl)
    (isExclusive_willing _)).continues willingRun polls (.drop false) epoch
    epoch [] epoch (List.forall_mem_nil _) rfl
  rw [after_append, isSteps]
  refine ⟨?_, congrArg LoggedService.log continues.service⟩
  rw [continues.dashboard]
  rfl

theorem controls_reopenedInTime :
    let first := ofWilling MemoryStore.empty
    let steps := beginning ++ reopenedInTime
    (first.AreTimely steps ∧ (first.after beginning).IsFollowing willingRun) ∧
      (first.after steps).Agrees ∧
      ((first.after beginning).step epoch (.drop false)).SuspendsFirst "run-1"
        (first.after beginning).service.log reopenedInTime.tail ∧
      (first.after steps).poller.dashboard.isRunning = true ∧
      (first.after steps).service.log = callsOf [.suspend, .resume] := by
  have timely : (ofWilling MemoryStore.empty).AreTimely
      (beginning ++ reopenedInTime) := by
    decide +kernel
  have following : ((ofWilling MemoryStore.empty).after
      beginning).IsFollowing willingRun := by
    constructor <;> rfl
  obtain ⟨agrees, suspendsFirst⟩ := controls_inOrder MemoryStore.durable
    MemoryStore.empty WillingService.mk _ _ _ timely
  exact ⟨⟨timely, following⟩, agrees,
    suspendsFirst beginning epoch false _ rfl willingRun following,
    reopenedInTime_willing⟩

/-! ## When the order is lost -/

section Lost

variable {desk : Desk σ ς} {run : EvaluatorRun}

/-- If the next session opens before the service has been asked to suspend the
run, it is asked to resume it first, and the run is running when it is asked
to suspend it. -/
theorem reopened_early {works : σ → Prop}
    (faultless : KeyValueStore.Faultless works)
    (following : desk.IsFollowing run) (isExclusive : desk.IsExclusive)
    (sound : desk.poller.dashboard.IsSound) (working : works desk.poller.store)
    (agreed : (Poller.control run.id .resume desk.service).1 = .ok ())
    (moment later last : Moment) :
    let after := desk.after [(moment, .drop false), (later, .openActive),
      (last, .finishTeardown (.request run.id))]
    after.poller.dashboard.isRunning = true ∧
      after.service = (Poller.control run.id .suspend
        (Poller.control run.id .resume desk.service).2).2 := by
  have isDropped := following.isDropped moment
  simp only [after, List.foldl_cons, List.foldl_nil]
  generalize desk.step moment (.drop false) = dropped at isDropped ⊢
  -- The next session finds the mark, and the request is still to be made.
  have found : KeyValueStore.read Dashboard.decoder dropped.poller.store
      StoreKey.dashboard.name = .ok (some dropped.poller.dashboard) := by
    rw [isDropped.isStore, faultless.read_write working, isDropped.dashboard]
    exact congrArg Except.ok (parse?_paused sound following.isRun
      following.running true moment.isNameable)
  have kept : works (dropped.reopened later).store :=
    isDropped.isStore ▸ faultless.works_write working _ _
  have isRun : (dropped.reopened later).dashboard.run =
      some (run.become .suspended true moment.now) :=
    congrArg Dashboard.run isDropped.dashboard
  have isFree : .whole ∉ dropped.pending := by
    rw [isDropped.pending]
    simpa using isExclusive following.isOpen
  have isReopened := (reopen_step later isDropped.isClosed isFree found).1
  rw [isDropped.service, Poller.rehydrate_of_agreed faultless kept isRun rfl rfl
    (Prod.ext agreed rfl)] at isReopened
  have isPending : .request run.id ∈
      (dropped.step later .openActive).pending := by
    rw [isReopened]
    exact isDropped.pending ▸ List.mem_cons_self
  rw [(finish_step last isPending).1, isReopened]
  exact ⟨rfl, rfl⟩

/-- A session that finds its run running goes on with it, and the service has
no call. -/
theorem openActive_of_running (isClosed : desk.isOpen = false)
    (isFree : .whole ∉ desk.pending) {dashboard : Dashboard}
    (found : KeyValueStore.read Dashboard.decoder desk.poller.store
      StoreKey.dashboard.name = .ok (some dashboard))
    (isRun : dashboard.run = some run) (running : run.status = .running)
    (moment : Moment) :
    let after := desk.step moment .openActive
    after.poller.dashboard.isRunning = true ∧ after.service = desk.service := by
  have isFound : KeyValueStore.read Dashboard.decoder
      (desk.atMoment moment).poller.store StoreKey.dashboard.name =
      .ok (some dashboard) := found
  have isPossible : ¬((desk.atMoment moment).isOpen = true ∨
      .whole ∈ (desk.atMoment moment).pending) :=
    not_or.mpr ⟨by simp [atMoment, isClosed], isFree⟩
  let poller : Poller σ := { desk.reopened moment with dashboard }
  have isPickedUp : poller.rehydrate desk.service = (poller.pickUp run.id, _) :=
    Poller.rehydrate_of_running isRun running desk.service
  simp only [Desk.step, happen, openBy, if_neg isPossible, Poller.openPassive,
    isFound]
  constructor
  · exact (congrArg (·.1.poller.dashboard.isRunning) isPickedUp).trans
      (Dashboard.isRunning_of_running isRun running)
  · exact congrArg Prod.snd isPickedUp

/-- If the mark of a dropped session is not written, the next one finds the run
running and goes on with it, though the service was last asked to suspend
it. -/
theorem reopened_unmarked {holds : σ → String → Option String}
    (durable : KeyValueStore.Durable holds) (following : desk.IsFollowing run)
    (isExclusive : desk.IsExclusive) (sound : desk.poller.dashboard.IsSound)
    (isWritten : desk.IsWritten holds) {moment : Moment}
    {error : StorageError} {found : Option String}
    (failed : (KeyValueStore.write desk.poller.store StoreKey.dashboard.name
      (desk.step moment (.drop false)).poller.dashboard.encode).1 =
        .error error)
    (readable : KeyValueStore.get (desk.step moment (.drop false)).poller.store
      StoreKey.dashboard.name = .ok found) (later last : Moment) :
    let after := desk.after [(moment, .drop false),
      (later, .finishTeardown (.request run.id)), (last, .openActive)]
    after.poller.dashboard.isRunning = true ∧
      after.service = (Poller.control run.id .suspend desk.service).2 := by
  have isDropped := following.isDropped moment
  simp only [after, List.foldl_cons, List.foldl_nil]
  generalize desk.step moment (.drop false) = dropped
    at isDropped failed readable ⊢
  have isPending : .request run.id ∈ dropped.pending :=
    isDropped.pending ▸ List.mem_cons_self
  have isFinished := (finish_step later isPending).1
  generalize dropped.step later (.finishTeardown (.request run.id)) = finished
    at isFinished ⊢
  -- The store holds what it held before, and that is found whole.
  have isKept : found = some desk.poller.dashboard.encode.text := by
    rw [durable.get_ok readable, ← isWritten]
    exact congrFun (isDropped.isStore ▸ durable.set_error failed) _
  have isReread : Dashboard.decoder.parse? desk.poller.dashboard.encode.text =
      some desk.poller.dashboard := by
    obtain ⟨consistent, times⟩ := sound run following.isRun
    apply Dashboard.parse?_text_of_keeps
    all_goals
      intro present isPresent
      cases following.isRun.symm.trans isPresent
    · exact times
    · rw [(consistent.of_isLive (by rw [following.running]; rfl)).1]
      rfl
  have isFound : KeyValueStore.read Dashboard.decoder finished.poller.store
      StoreKey.dashboard.name = .ok (some desk.poller.dashboard) := by
    have isSame : finished.poller.store = dropped.poller.store := by
      rw [isFinished]
      rfl
    rw [isSame, KeyValueStore.read, readable, isKept]
    exact congrArg Except.ok isReread
  have isClosed : finished.isOpen = false := by
    rw [isFinished]
    exact isDropped.isClosed
  have isFree : .whole ∉ finished.pending := by
    rw [isFinished, isDropped.pending]
    intro isLeft
    exact isExclusive following.isOpen
      (by simpa using List.mem_of_mem_erase isLeft)
  obtain ⟨isRunning, isService⟩ := openActive_of_running isClosed isFree
    isFound following.isRun following.running last
  refine ⟨isRunning, isService.trans ?_⟩
  rw [isFinished, isDropped.service]
  rfl

end Lost

/-- A store that does not take the mark of the dropped session. -/
def withoutMark : FlakyStore := ⟨.empty, [true, false]⟩

theorem reopenedEarly_willing :
    let last := (ofWilling MemoryStore.empty).after (beginning ++ reopenedEarly)
    last.poller.dashboard.isRunning = true ∧
      last.service.log = callsOf [.resume, .suspend] := by
  have following : ((ofWilling MemoryStore.empty).after
      beginning).IsFollowing willingRun := by
    constructor <;> rfl
  have early := reopened_early MemoryStore.faultless following
    (isExclusive_willing _) (isSound_willing MemoryStore.durable rfl) rfl rfl
    epoch epoch epoch
  rw [after_append]
  exact ⟨early.1, congrArg LoggedService.log early.2⟩

theorem withoutMark_willing :
    let last := (ofWilling withoutMark).after (beginning ++ reopenedInTime)
    last.poller.dashboard.isRunning = true ∧
      last.service.log = callsOf [.suspend] := by
  have following : ((ofWilling withoutMark).after
      beginning).IsFollowing willingRun := by
    constructor <;> rfl
  have failed : (KeyValueStore.write
      ((ofWilling withoutMark).after beginning).poller.store
      StoreKey.dashboard.name (((ofWilling withoutMark).after beginning).step
        epoch (.drop false)).poller.dashboard.encode).1 = .error _ := rfl
  have unmarked := reopened_unmarked FlakyStore.durable following
    (isExclusive_willing _) (isSound_willing FlakyStore.durable rfl) rfl
    failed rfl epoch epoch
  rw [after_append]
  exact ⟨unmarked.1, congrArg LoggedService.log unmarked.2⟩

theorem controls_outOfOrder :
    let early := (ofWilling MemoryStore.empty).after
      (beginning ++ reopenedEarly)
    let unmarked := (ofWilling withoutMark).after
      (beginning ++ reopenedInTime)
    ¬early.Agrees ∧ early.service.log = callsOf [.resume, .suspend] ∧
      ¬unmarked.Agrees ∧ unmarked.service.log = callsOf [.suspend] := by
  obtain ⟨earlyRuns, earlyLog⟩ := reopenedEarly_willing
  obtain ⟨unmarkedRuns, unmarkedLog⟩ := withoutMark_willing
  refine ⟨?_, earlyLog, ?_, unmarkedLog⟩
  · intro agrees
    exact agrees earlyRuns (congrArg lastControl? earlyLog)
  · intro agrees
    exact agrees unmarkedRuns (congrArg lastControl? unmarkedLog)

end Desk

end AgentPipeline
