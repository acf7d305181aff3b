import AgentPipeline.Proofs.Poller.Pause
import AgentPipeline.Proofs.Poller.Timing

/-!
# What the service is told

The calls that reach the service are written down in order.  In a step there
are none that count, or one after which the last control request is no
suspension, or the run has been marked as suspended.
Main statement: `step_talks`.
-/

namespace AgentPipeline

/-- A call that has reached the service, and whether it was accepted. -/
structure LoggedCall where
  request : Request
  accepted : Bool
deriving DecidableEq

/-- A service with the calls that have reached it, in order. -/
structure LoggedService (ς : Type) where
  service : ς
  log : List LoggedCall

/-- The service before the first call. -/
def LoggedService.begin {ς : Type} (service : ς) : LoggedService ς :=
  ⟨service, []⟩

instance {ς : Type} [AgentService ς] : AgentService (LoggedService ς) where
  call request logged :=
    let (outcome, service) := AgentService.call request logged.service
    (outcome, ⟨service, logged.log ++ [⟨request, outcome.isOk⟩]⟩)

/-- The last control request, and whether it was accepted, when one more call
has reached the service.  For a new run there has been none. -/
def LoggedCall.follow (last : Option (RunControl × Bool)) (call : LoggedCall) :
    Option (RunControl × Bool) :=
  match call.request with
  | .control _ action => some (action, call.accepted)
  | .startEvaluator _ => if call.accepted then none else last
  | _ => last

/-- The last control request since a run was started. -/
def lastControl? (log : List LoggedCall) : Option (RunControl × Bool) :=
  log.foldl LoggedCall.follow none

def Dashboard.isRunning (dashboard : Dashboard) : Bool :=
  dashboard.run.any fun run => run.status = .running

/-- The store takes the dashboard. -/
def Poller.IsTakenBy {σ : Type} [KeyValueStore σ] (poller : Poller σ)
    (store : σ) : Prop :=
  (KeyValueStore.write store StoreKey.dashboard.name
    poller.dashboard.encode).1 = .ok ()

namespace SessionStep

/-- A step that ends a session, or does what an ended one has left to do. -/
def ends : SessionStep → Bool
  | .close | .drop _ | .finishTeardown _ => true
  | _ => false

/-- A session is opened, or the process goes away. -/
def leavesBehind : SessionStep → Bool
  | .openPassive | .openActive | .vanish => true
  | _ => false

end SessionStep

/-! ## Calls -/

/-- Calls that leave the last control request as it is. -/
def AreAside (calls : List LoggedCall) : Prop :=
  ∀ last, calls.foldl LoggedCall.follow last = last

/-- Calls after which the last control request is no suspension. -/
def AreOther (calls : List LoggedCall) : Prop :=
  ∀ last, calls.foldl LoggedCall.follow last ≠ some (.suspend, true)

theorem lastControl?_append (log calls : List LoggedCall) :
    lastControl? (log ++ calls) =
      calls.foldl LoggedCall.follow (lastControl? log) := List.foldl_append

namespace LoggedService

variable {ς : Type} {same : Prop}

/-- The calls from one state of the service to another are none that count,
and then something stays as it was, or the last one is no suspension. -/
def Asks (same : Prop) (service later : LoggedService ς) : Prop :=
  ∃ calls, later.log = service.log ++ calls ∧
    (AreAside calls ∧ same ∨ AreOther calls)

theorem asks_nothing (isSame : same) (service : LoggedService ς) :
    Asks same service service :=
  ⟨[], (List.append_nil _).symm, .inl ⟨fun _ => rfl, isSame⟩⟩

variable [AgentService ς]

theorem log_of_call {request : Request} {service later : LoggedService ς}
    {outcome : request.Outcome}
    (called : AgentService.call request service = (outcome, later)) :
    later.log = service.log ++ [⟨request, outcome.isOk⟩] := by
  obtain ⟨rfl, rfl⟩ := Prod.ext_iff.mp called
  rfl

theorem asks_control (run : String) (action : RunControl)
    (isOther : action ≠ .suspend) (service : LoggedService ς) :
    Asks same service (Poller.control run action service).2 := by
  refine ⟨_, log_of_call rfl, .inr ?_⟩
  intro last isSuspension
  exact isOther (congrArg Prod.fst (Option.some.inj isSuspension))

end LoggedService

namespace Dashboard

theorem isRunning_eq_false_iff (dashboard : Dashboard) :
    dashboard.isRunning = false ↔
      ∀ run, dashboard.run = some run → run.status ≠ .running := by
  cases isRun : dashboard.run <;> simp [isRunning, isRun]

theorem isRunning_of_running {dashboard : Dashboard} {run : EvaluatorRun}
    (isRun : dashboard.run = some run) (running : run.status = .running) :
    dashboard.isRunning = true := by
  simp [isRunning, isRun, running]

theorem exists_of_isRunning {dashboard : Dashboard}
    (isRunning : dashboard.isRunning = true) :
    ∃ run, dashboard.run = some run ∧ run.status = .running := by
  simpa [Dashboard.isRunning, Option.any_eq_true] using isRunning

/-- A run that is not running when it is written is not so when it is
found. -/
theorem isRunning_parse? {dashboard : Dashboard}
    (asleep : dashboard.isRunning = false) :
    ((decoder.parse? dashboard.encode.text).getD .empty).isRunning =
      false := by
  rw [isRunning_eq_false_iff] at asleep ⊢
  intro run isRun
  obtain ⟨kept, metrics, startedAt, updatedAt, isKept, -, -, -, rfl⟩ :=
    run_parse?_text isRun
  exact asleep kept isKept

end Dashboard

/-! ## Operations -/

namespace Poller

open LoggedService

variable {σ ς : Type} [KeyValueStore σ] [AgentService ς]

section Operations

variable (poller : Poller σ) (service : LoggedService ς)

theorem start_asks (kind : String) (itemLimit : UInt32)
    (model : Option ModelConfig) :
    Asks ((poller.start kind itemLimit model service).1.poller = poller)
      service (poller.start kind itemLimit model service).2 := by
  unfold start
  split
  · exact asks_nothing rfl service
  split
  · exact asks_nothing rfl service
  next chosen =>
    split
    · exact asks_nothing rfl service
    · dsimp only
      cases called : AgentService.call
          (.startEvaluator ⟨kind, itemLimit, some chosen⟩) service with
      | mk outcome later =>
          have isLogged := log_of_call called
          cases outcome with
          | error error => exact ⟨_, isLogged, .inl ⟨fun _ => rfl, rfl⟩⟩
          | ok started => exact ⟨_, isLogged, .inr nofun⟩

theorem resume_asks :
    Asks ((poller.resume service).1.poller = poller) service
      (poller.resume service).2 := by
  unfold resume
  split
  · exact asks_nothing rfl service
  split
  · exact asks_nothing rfl service
  next run _ _ => exact asks_control run.id .resume (by decide) service

theorem stop_asks : Asks True service (poller.stop service).2 := by
  unfold stop
  split
  · exact asks_nothing trivial service
  split
  · exact asks_nothing trivial service
  next run _ _ => exact asks_control run.id .stop (by decide) service

omit [KeyValueStore σ] in
theorem viewRecord_asks (index : UInt32) :
    Asks True service (poller.viewRecord index service).2 := by
  unfold viewRecord
  split
  · exact asks_nothing trivial service
  split
  · exact asks_nothing trivial service
  · exact ⟨_, log_of_call rfl, .inl ⟨fun _ => rfl, trivial⟩⟩

theorem rehydrate_asks :
    Asks ((poller.rehydrate service).1.poller.dashboard = poller.dashboard)
      service (poller.rehydrate service).2 := by
  unfold rehydrate
  split
  · exact asks_nothing rfl service
  next run _ =>
    split
    · exact asks_nothing rfl service
    split
    · exact asks_control run.id .resume (by decide) service
    · exact asks_nothing rfl service

end Operations

theorem rehydrate_of_running {poller : Poller σ} {run : EvaluatorRun}
    (isRun : poller.dashboard.run = some run) (running : run.status = .running)
    (service : ς) :
    poller.rehydrate service = (poller.pickUp run.id, service) := by
  unfold rehydrate run?
  rw [isRun]
  dsimp only
  rw [if_pos running]

/-- The run was suspended and the dashboard written, if the store took it. -/
structure Marks (store : σ) (after : Poller σ) : Prop where
  asleep : after.dashboard.isRunning = false
  isStore : after.store = (KeyValueStore.write store
    StoreKey.dashboard.name after.dashboard.encode).2

omit [KeyValueStore σ] in
theorem isRunning_suspended {dashboard after : Dashboard} {run : EvaluatorRun}
    {automatic : Bool} {now : Timestamp}
    (isAfter : after = { dashboard with
      run := some (run.become .suspended automatic now) }) :
    after.isRunning = false := by
  rw [isAfter]
  rfl

/-- The service is asked once the mark has been written, and only then. -/
theorem suspend_marks (poller : Poller σ) (silent : Bool)
    (service : LoggedService ς) :
    let after := (poller.suspend silent service).1.poller
    let later := (poller.suspend silent service).2
    later = service ∨ Marks poller.store after ∧ after.IsTakenBy poller.store ∧
      ∃ call, later.log = service.log ++ [call] := by
  cases found : poller.running? with
  | none =>
      left
      simp only [suspend, found]
  | some run =>
      unfold suspend
      rw [found]
      dsimp only
      split
      · exact .inl rfl
      next paused isPaused =>
        have same : _ = paused := congrArg Prod.snd isPaused
        have taken : _ = Except.ok () := congrArg Prod.fst isPaused
        subst same
        refine .inr ⟨⟨?_, ?_⟩, ?_, _, log_of_call rfl⟩
        · simp only [readClock, write, Supply.tick]
          rfl
        · simp only [readClock, write, Supply.tick]
          rfl
        · simp only [readClock, write, Supply.tick] at taken ⊢
          exact taken

/-- The end of a session leaves everything as it was, or the run was running
and has been marked, and the service is asked to suspend it. -/
theorem Ends.marks {polled : Bool} {before after : Poller σ}
    {service later : LoggedService ς} {effects : List PollerEffect}
    (ends : Ends polled before service after effects later) :
    Untouched before service after effects later ∨
    ∃ run accepted, before.dashboard.run = some run ∧
      run.status = .running ∧ Marks before.store after ∧
      later.log =
        service.log ++ [⟨.control run.id .suspend, accepted⟩] := by
  by_cases suspends : polled = true ∧ before.dashboard.isRunning = true
  · obtain ⟨run, isRun, running⟩ := Dashboard.exists_of_isRunning suspends.2
    have suspended := ends.suspends suspends.1 run isRun running
    refine .inr ⟨run, (control run.id .suspend service).1.isOk, isRun, running,
      ⟨isRunning_suspended suspended.dashboard, suspended.store⟩, ?_⟩
    rw [suspended.service]
    exact log_of_call rfl
  · refine .inl (ends.leaves ?_)
    rw [not_and_or, Bool.not_eq_true, Bool.not_eq_true,
      Dashboard.isRunning_eq_false_iff] at suspends
    exact suspends

omit [AgentService ς] in
theorem drop_of_running {poller : Poller σ} {run : EvaluatorRun}
    (isPolling : poller.isPolling = true)
    (isRun : poller.dashboard.run = some run)
    (running : run.status = .running) :
    (poller.drop false).2.2 = .request run.id ∧
      (poller.drop false).1.dashboard = { poller.dashboard with
        run := some (run.become .suspended true poller.supply.now) } ∧
      (poller.drop false).1.store = (KeyValueStore.write poller.store
        StoreKey.dashboard.name (poller.drop false).1.dashboard.encode).2 := by
  obtain ⟨marked, isMarked, isDashboard, isStore⟩ :
    ∃ marked, poller.stopTimer.autoSuspend = _ ∧ _ :=
    autoSuspend_of_running isRun running
  simp only [drop, isPolling, if_true, Bool.false_eq_true, if_false, isMarked,
    Option.elim_some]
  exact ⟨trivial, isDashboard, isStore⟩

omit [AgentService ς] in
/-- A request is left to be made only if the run was running and has been
marked. -/
theorem drop_marks {poller : Poller σ} {inUse : Bool} {run : String}
    (isLeft : (poller.drop inUse).2.2 = .request run) :
    poller.dashboard.isRunning = true ∧
      Marks poller.store (poller.drop inUse).1 := by
  cases isPolling : poller.isPolling with
  | false =>
      simp only [drop, isPolling] at isLeft
      cases isLeft
  | true =>
      cases inUse with
      | true =>
          simp only [drop, isPolling] at isLeft
          cases isLeft
      | false =>
          cases isRunning : poller.dashboard.isRunning with
          | false =>
              rw [Dashboard.isRunning_eq_false_iff] at isRunning
              have isAfter : poller.stopTimer.autoSuspend = _ :=
                autoSuspend_of_not_running isRunning
              simp only [drop, isPolling, isAfter] at isLeft
              cases isLeft
          | true =>
              obtain ⟨kept, isRun, running⟩ :=
                Dashboard.exists_of_isRunning isRunning
              obtain ⟨-, isDashboard, isStore⟩ :=
                drop_of_running isPolling isRun running
              exact ⟨rfl, isRunning_suspended isDashboard, isStore⟩

end Poller

/-! ## Steps -/

namespace Desk

open LoggedService

variable {σ ς : Type} [KeyValueStore σ] [AgentService ς]

omit [AgentService ς] in
theorem MovedFrom.asleep {base : Dashboard} {now : Timestamp}
    {step : SessionStep} {asked : List SentPoll} {desk after : Desk σ ς}
    (moved : MovedFrom base now (step.cause asked) desk after)
    (noTimer : step.startsTimer = false) (asleep : base.isRunning = false) :
    after.poller.dashboard.isRunning = false := by
  rw [Dashboard.isRunning_eq_false_iff] at asleep ⊢
  exact moved.notRunning noTimer asleep

/-- The run is suspended in a step, and its mark is written: surely, or at the
end of a session. -/
structure Suspends {ς : Type} (step : SessionStep) (desk after : Desk σ ς) :
    Prop where
  marks : Poller.Marks desk.poller.store after.poller
  taken : after.poller.IsTakenBy desk.poller.store ∨
    step.ends = true ∧ desk.poller.dashboard.isRunning = true

/-- What a step tells the service with its calls, given the dashboard that it
begins with. -/
inductive Tells (base : Dashboard) (step : SessionStep)
    (desk after : Desk σ (LoggedService ς)) (calls : List LoggedCall) : Prop
  | nothing (areAside : AreAside calls)
      (asleep : base.isRunning = false →
        after.poller.dashboard.isRunning = false)
  | other (areOther : AreOther calls)
      (isHere : desk.isOpen = true ∨ step.leavesBehind = true)
  | suspended (suspends : Suspends step desk after)
  | requested {run : String} (isLeft : .request run ∈ desk.pending)
      (isDashboard : after.poller.dashboard = desk.poller.dashboard)
      (isStore : after.poller.store = desk.poller.store)

/-- A step has some calls, and what it tells the service with them. -/
def Talks (step : SessionStep) (desk after : Desk σ (LoggedService ς)) :
    Prop :=
  ∃ calls, after.service.log = desk.service.log ++ calls ∧
    Tells (desk.base step) step desk after calls

section Talks

variable {desk after : Desk σ (LoggedService ς)} {step : SessionStep}

omit [AgentService ς] in
theorem talks_of_silent (silent : after.service = desk.service)
    (asleep : (desk.base step).isRunning = false →
      after.poller.dashboard.isRunning = false) : Talks step desk after :=
  ⟨[], by rw [silent, List.append_nil], .nothing (fun _ => rfl) asleep⟩

omit [AgentService ς] in
theorem talks_of_same (same : after = desk)
    (isBase : desk.base step = desk.poller.dashboard) :
    Talks step desk after := by
  refine talks_of_silent (by rw [same]) ?_
  rw [same, isBase]
  exact id

omit [AgentService ς] in
theorem talks_of_asks {same : Prop}
    (asks : Asks same desk.service after.service)
    (asleep : same → (desk.base step).isRunning = false →
      after.poller.dashboard.isRunning = false)
    (isHere : desk.isOpen = true ∨ step.leavesBehind = true) :
    Talks step desk after := by
  obtain ⟨calls, isLogged, ⟨areAside, isSame⟩ | areOther⟩ := asks
  · exact ⟨calls, isLogged, .nothing areAside (asleep isSame)⟩
  · exact ⟨calls, isLogged, .other areOther isHere⟩

theorem talks_of_ends {polled : Bool} {effects : List PollerEffect}
    (isEnd : step.ends = true)
    (ends : Poller.Ends polled desk.poller desk.service after.poller effects
      after.service) : Talks step desk after := by
  rcases ends.marks with untouched | ⟨run, accepted, isRun, running, marks,
    isLogged⟩
  · have isBase : desk.base step = desk.poller.dashboard := by
      cases step <;> first | rfl | cases isEnd
    refine talks_of_silent untouched.service ?_
    rw [untouched.dashboard, isBase]
    exact id
  · have isRunning := Dashboard.isRunning_of_running isRun running
    exact ⟨_, isLogged, .suspended ⟨marks, .inr ⟨isEnd, isRunning⟩⟩⟩

end Talks

omit [AgentService ς] in
theorem inSession_talks {desk : Desk σ (LoggedService ς)} {step : SessionStep}
    {operation : Poller σ → LoggedService ς → Poller σ × LoggedService ς}
    {same : Prop} (isBase : desk.base step = desk.poller.dashboard)
    (asks : Asks same desk.service (operation desk.poller desk.service).2)
    (asleep : same → (desk.base step).isRunning = false →
      (desk.inSession operation).poller.dashboard.isRunning = false) :
    Talks step desk (desk.inSession operation) := by
  cases isOpen : desk.isOpen with
  | false => exact talks_of_same (inSession_of_closed isOpen) isBase
  | true =>
      refine talks_of_asks ?_ asleep (.inl isOpen)
      rw [inSession, if_pos isOpen]
      exact asks

omit [AgentService ς] in
theorem takeAnswer_keeps (desk : Desk σ ς) (sent : SentPoll) (forTimer : Bool)
    (outcome : Except ServiceError RunSnapshot) :
    (desk.takeAnswer sent forTimer outcome).service = desk.service ∧
      (desk.takeAnswer sent forTimer outcome).started = desk.started := by
  unfold takeAnswer
  split
  · split
    · split <;> exact ⟨rfl, rfl⟩
    · exact ⟨rfl, rfl⟩
  · exact ⟨rfl, rfl⟩

theorem openActive_talks (desk : Desk σ (LoggedService ς)) :
    Talks .openActive desk (desk.openBy Poller.rehydrate) := by
  unfold openBy
  split
  next shut =>
    apply talks_of_same rfl
    simp only [base, loaded?, if_pos shut, Option.getD_none]
  next free =>
    simp only [Poller.openPassive]
    cases found : KeyValueStore.read Dashboard.decoder desk.poller.store
        StoreKey.dashboard.name with
    | error error =>
        apply talks_of_same rfl
        simp only [base, loaded?, if_neg free, found, Option.getD_none]
    | ok value =>
        have isBase : desk.base .openActive = value.getD .empty := by
          simp only [base, loaded?, if_neg free, found, Option.getD_some]
        refine talks_of_asks (Poller.rehydrate_asks _ _) ?_ (.inr rfl)
        intro same asleep
        rw [isBase] at asleep
        exact (congrArg Dashboard.isRunning same).trans asleep

theorem happen_talks (desk : Desk σ (LoggedService ς)) (step : SessionStep) :
    Talks step desk (desk.happen step) := by
  have moved := desk.happen_movedFrom step
  cases step with
  | openPassive =>
      refine talks_of_silent ?_ (moved.asleep rfl)
      simp only [happen, openBy]
      split
      · rfl
      split <;> rfl
  | openActive => exact openActive_talks desk
  | selectEvaluator | setItemLimit | clear | takeResumed =>
      exact inSession_talks rfl (asks_nothing trivial _) fun _ =>
        moved.asleep rfl
  | viewRecord index =>
      exact inSession_talks rfl (Poller.viewRecord_asks _ _ index) fun _ =>
        moved.asleep rfl
  | stop =>
      exact inSession_talks rfl (Poller.stop_asks _ _) fun _ =>
        moved.asleep rfl
  | resume =>
      refine inSession_talks rfl (Poller.resume_asks _ _) ?_
      intro same asleep
      apply inSession_poller
        (motive := fun poller => poller.dashboard.isRunning = false) desk
      · exact asleep
      · dsimp only
        rw [same]
        exact asleep
  | detach =>
      refine talks_of_silent ?_ (moved.asleep rfl)
      simp only [happen, endSession, inSession]
      split <;> rfl
  | vanish => exact talks_of_silent rfl (moved.asleep rfl)
  | ask =>
      refine talks_of_silent ?_ (moved.asleep rfl)
      simp only [happen, askPoll]
      split
      · split <;> rfl
      · rfl
  | timerDue =>
      refine talks_of_silent ?_ (moved.asleep rfl)
      simp only [happen, wakeTimer]
      split
      · split
        · split <;> rfl
        · rfl
        · rfl
      · rfl
  | answer sent forTimer outcome =>
      exact talks_of_silent (desk.takeAnswer_keeps sent forTimer outcome).1
        (moved.asleep rfl)
  | drop inUse =>
      refine talks_of_silent ?_ (moved.asleep rfl)
      simp only [happen, dropSession]
      split <;> rfl
  | start kind itemLimit model =>
      cases isOpen : desk.isOpen with
      | false =>
          exact talks_of_same (by simp [happen, startRun, isOpen]) rfl
      | true =>
          simp only [happen, startRun, isOpen, if_true]
          refine talks_of_asks (Poller.start_asks _ _ kind itemLimit model) ?_
            (.inl isOpen)
          intro same asleep
          rw [same]
          exact asleep
  | suspend silent =>
      cases isOpen : desk.isOpen with
      | false =>
          simp only [happen, inSession_of_closed isOpen]
          exact talks_of_same rfl rfl
      | true =>
          have asleep := moved.asleep rfl
          simp only [happen, inSession, isOpen, if_true] at asleep ⊢
          rcases desk.poller.suspend_marks silent desk.service with
            same | ⟨marks, taken, call, isLogged⟩
          · exact talks_of_silent same asleep
          · exact ⟨[call], isLogged, .suspended ⟨marks, .inl taken⟩⟩
  | close =>
      cases isOpen : desk.isOpen with
      | false =>
          refine talks_of_silent ?_ (moved.asleep rfl)
          simp only [happen, endSession, inSession_of_closed isOpen]
      | true =>
          simp only [happen, endSession, inSession, isOpen, if_true]
          exact talks_of_ends rfl (Poller.close_ends desk.poller desk.service)
  | finishTeardown rest =>
      simp only [happen, finish]
      split
      next isLeft =>
        cases rest with
        | nothing => exact talks_of_silent rfl id
        | request run =>
            exact ⟨_, log_of_call rfl, .requested isLeft rfl rfl⟩
        | whole =>
            exact talks_of_ends rfl
              (Poller.finish_whole_ends desk.poller desk.service)
      · exact talks_of_same rfl rfl

theorem step_talks (desk : Desk σ (LoggedService ς)) (moment : Moment)
    (step : SessionStep) : Talks step desk (desk.step moment step) := by
  have isBase : (desk.atMoment moment).base step = desk.base step := by
    cases step <;> rfl
  obtain ⟨calls, isLogged, tells⟩ := (desk.atMoment moment).happen_talks step
  refine ⟨calls, isLogged, ?_⟩
  rw [isBase] at tells
  cases tells with
  | nothing areAside asleep => exact .nothing areAside asleep
  | other areOther isHere => exact .other areOther isHere
  | suspended suspends => exact .suspended ⟨suspends.marks, suspends.taken⟩
  | requested isLeft isDashboard isStore =>
      exact .requested isLeft isDashboard isStore

/-- What has reached the service stays so. -/
theorem log_after (desk : Desk σ (LoggedService ς))
    (steps : List (Moment × SessionStep)) :
    desk.service.log <+: (desk.after steps).service.log := by
  induction steps generalizing desk with
  | nil => exact List.prefix_refl _
  | cons next rest ih =>
      obtain ⟨calls, isLogged, -⟩ := desk.step_talks next.1 next.2
      have grows : desk.service.log <+:
          (desk.step next.1 next.2).service.log := by
        rw [isLogged]
        exact List.prefix_append _ _
      exact grows.trans (ih _)

/-- A request is left only for a run that has been marked. -/
theorem request_pending {desk : Desk σ (LoggedService ς)} {step : SessionStep}
    {run : String} (isLeft : .request run ∈ (desk.happen step).pending) :
    .request run ∈ desk.pending ∨ Suspends step desk (desk.happen step) := by
  by_cases drops : ∃ inUse, step = .drop inUse
  · obtain ⟨inUse, rfl⟩ := drops
    simp only [happen, dropSession] at isLeft ⊢
    split
    next isOpen =>
      rw [if_pos isOpen, List.mem_cons] at isLeft
      rcases isLeft with isNew | isOld
      · obtain ⟨wasRunning, marks⟩ := Poller.drop_marks isNew.symm
        exact .inr ⟨marks, .inr ⟨rfl, wasRunning⟩⟩
      · exact .inl isOld
    next isClosed =>
      rw [if_neg isClosed] at isLeft
      exact .inl isLeft
  · exact .inl (desk.pending_happen (not_exists.mp drops) isLeft)

end Desk

end AgentPipeline
