import AgentPipeline.Proofs.Poller.Session

/-!
# The end of a session

A session may be closed, dropped or detached.  Closing and dropping suspend
the run if it is running and the session still polls it, and then to the same
effect, also if the dashboard was in use when the session was dropped;
otherwise they do nothing, and detaching never does anything.
Main statement: `endsWell_after`.
-/

namespace AgentPipeline

namespace Poller

variable {σ ς : Type} [KeyValueStore σ] [AgentService ς]

/-- Nothing that outlives the session has changed. -/
structure Untouched (before : Poller σ) (service : ς) (after : Poller σ)
    (effects : List PollerEffect) (later : ς) : Prop where
  dashboard : after.dashboard = before.dashboard
  store : after.store = before.store
  effects : effects = []
  service : later = service

/-- The run was suspended: it is marked, by the end of the session or not, the
dashboard is written, and the service is asked once. -/
structure Suspended (automatic notifies : Bool) (before : Poller σ)
    (service : ς) (run : EvaluatorRun) (after : Poller σ)
    (effects : List PollerEffect) (later : ς) : Prop where
  dashboard : after.dashboard = { before.dashboard with
    run := some (run.become .suspended automatic before.supply.now) }
  store : after.store = (KeyValueStore.write before.store
    StoreKey.dashboard.name after.dashboard.encode).2
  effects : effects =
    [.announce (.evaluatorStatusChanged run.id .suspended notifies),
      .call (.control run.id .suspend)]
  service : later = (control run.id .suspend service).2

/-- What the end of a session does, given whether its timer was alive. -/
structure Ends (polled : Bool) (before : Poller σ) (service : ς)
    (after : Poller σ) (effects : List PollerEffect) (later : ς) : Prop where
  suspends : polled = true → ∀ run, before.dashboard.run = some run →
    run.status = .running →
    Suspended true false before service run after effects later
  leaves : polled = false ∨
      (∀ run, before.dashboard.run = some run → run.status ≠ .running) →
    Untouched before service after effects later

/-- Only dashboard, store and time count. -/
theorem Ends.of_same {polled : Bool} {before other after : Poller σ}
    {service later : ς} {effects : List PollerEffect}
    (ends : Ends polled before service after effects later)
    (sameDashboard : other.dashboard = before.dashboard)
    (sameStore : other.store = before.store)
    (sameTime : other.supply.now = before.supply.now) :
    Ends polled other service after effects later := by
  constructor
  · intro isPolled run isRun running
    rw [sameDashboard] at isRun
    have suspended := ends.suspends isPolled run isRun running
    refine ⟨?_, ?_, suspended.effects, suspended.service⟩
    · rw [sameDashboard, sameTime]
      exact suspended.dashboard
    · rw [sameStore]
      exact suspended.store
  · intro nothing
    rw [sameDashboard] at nothing
    have untouched := ends.leaves nothing
    exact ⟨untouched.dashboard.trans sameDashboard.symm,
      untouched.store.trans sameStore.symm, untouched.effects,
      untouched.service⟩

/-- There is only one way to end. -/
theorem Ends.unique {polled : Bool} {before first second : Poller σ}
    {service firstService secondService : ς}
    {firstEffects secondEffects : List PollerEffect}
    (one : Ends polled before service first firstEffects firstService)
    (other : Ends polled before service second secondEffects secondService) :
    first.dashboard = second.dashboard ∧ first.store = second.store ∧
      firstEffects = secondEffects ∧ firstService = secondService := by
  -- What was there before decides whether the run is suspended.
  have decided : (polled = false ∨ (∀ run, before.dashboard.run = some run →
      run.status ≠ .running)) ∨ polled = true ∧
        ∃ run, before.dashboard.run = some run ∧ run.status = .running := by
    cases polled with
    | false => exact .inl (.inl rfl)
    | true =>
        by_cases running : ∃ run, before.dashboard.run = some run ∧
          run.status = .running
        · exact .inr ⟨rfl, running⟩
        · refine .inl (.inr ?_)
          intro run isRun isRunning
          exact running ⟨run, isRun, isRunning⟩
  rcases decided with nothing | ⟨isPolled, run, isRun, running⟩
  · have left := one.leaves nothing
    have right := other.leaves nothing
    exact ⟨left.dashboard.trans right.dashboard.symm,
      left.store.trans right.store.symm, left.effects.trans right.effects.symm,
      left.service.trans right.service.symm⟩
  · have left := one.suspends isPolled run isRun running
    have right := other.suspends isPolled run isRun running
    have dashboard := left.dashboard.trans right.dashboard.symm
    refine ⟨dashboard, ?_, left.effects.trans right.effects.symm,
      left.service.trans right.service.symm⟩
    rw [left.store, right.store, dashboard]

theorem ends_of_not_polled (poller : Poller σ) (service : ς)
    {after : Poller σ} (dashboard : after.dashboard = poller.dashboard)
    (store : after.store = poller.store) :
    Ends false poller service after [] service where
  suspends isPolled := by cases isPolled
  leaves _ := ⟨dashboard, store, rfl, rfl⟩

omit [KeyValueStore σ] [AgentService ς] in
theorem running?_of_running {poller : Poller σ} {run : EvaluatorRun}
    (isRun : poller.dashboard.run = some run)
    (running : run.status = .running) : poller.running? = some run := by
  simp [running?, run?, isRun, running]

omit [AgentService ς] in
theorem autoSuspend_of_running {poller : Poller σ} {run : EvaluatorRun}
    (isRun : poller.dashboard.run = some run)
    (running : run.status = .running) :
    ∃ marked, poller.autoSuspend = (marked,
        [.announce (.evaluatorStatusChanged run.id .suspended false)],
        some run.id) ∧
      marked.dashboard = { poller.dashboard with
        run := some (run.become .suspended true poller.supply.now) } ∧
      marked.store = (KeyValueStore.write poller.store
        StoreKey.dashboard.name marked.dashboard.encode).2 := by
  unfold autoSuspend
  rw [running?_of_running isRun running]
  simp only [readClock, Supply.tick, write]
  exact ⟨_, rfl, rfl, rfl⟩

omit [AgentService ς] in
theorem autoSuspend_of_not_running {poller : Poller σ}
    (notRunning : ∀ run, poller.dashboard.run = some run →
      run.status ≠ .running) :
    poller.autoSuspend = (poller, [], none) := by
  cases found : poller.running? with
  | none => simp only [autoSuspend, found]
  | some run =>
      obtain ⟨isRun, running⟩ := running?_eq_some found
      exact absurd running (notRunning run isRun)

/-- The run is marked, and the service is asked then or later. -/
theorem autoSuspend_ends (poller : Poller σ) (service : ς) {later : Poller σ}
    (dashboard : later.dashboard = poller.autoSuspend.1.dashboard)
    (store : later.store = poller.autoSuspend.1.store) :
    Ends true poller service later
      (later.requestSuspend poller.autoSuspend.2.1
        poller.autoSuspend.2.2 service).2.1
      (later.requestSuspend [] poller.autoSuspend.2.2 service).2.2 := by
  constructor
  · intro _ run isRun running
    obtain ⟨marked, isMarked, isDashboard, isStore⟩ :=
      autoSuspend_of_running isRun running
    rw [isMarked] at dashboard store ⊢
    refine ⟨dashboard.trans isDashboard, ?_, rfl, rfl⟩
    rw [store, dashboard]
    exact isStore
  · rintro (notPolled | notRunning)
    · cases notPolled
    · rw [autoSuspend_of_not_running notRunning] at dashboard store ⊢
      exact ⟨dashboard, store, rfl, rfl⟩

omit [KeyValueStore σ] in
theorem requestSuspend_append (poller : Poller σ)
    (effects : List PollerEffect) (run : Option String) (service : ς) :
    poller.requestSuspend effects run service =
      (poller, effects ++ (poller.requestSuspend [] run service).2.1,
        (poller.requestSuspend [] run service).2.2) := by
  cases run with
  | none => simp [requestSuspend]
  | some run => rfl

theorem finish_whole_ends (poller : Poller σ) (service : ς) :
    Ends true poller service (poller.finishTeardown .whole service).1
      (poller.finishTeardown .whole service).2.1
      (poller.finishTeardown .whole service).2.2 := by
  have ends := autoSuspend_ends poller service rfl rfl
  simp only [finishTeardown]
  rw [requestSuspend_append] at ends ⊢
  exact ends

theorem close_ends (poller : Poller σ) (service : ς) :
    Ends poller.isPolling poller service (poller.close service).1
      (poller.close service).2.1 (poller.close service).2.2 := by
  unfold close
  cases poller.isPolling with
  | false => exact ends_of_not_polled poller service rfl rfl
  | true =>
      exact (finish_whole_ends poller.stopTimer service).of_same rfl rfl rfl

/-- A session that was dropped has ended once the rest is done, whenever that
may be. -/
theorem drop_ends (poller : Poller σ) (service : ς) {later : Poller σ}
    (dashboard : later.dashboard = (poller.drop false).1.dashboard)
    (store : later.store = (poller.drop false).1.store) :
    Ends poller.isPolling poller service
      (later.finishTeardown (poller.drop false).2.2 service).1
      ((poller.drop false).2.1 ++
        (later.finishTeardown (poller.drop false).2.2 service).2.1)
      (later.finishTeardown (poller.drop false).2.2 service).2.2 := by
  unfold drop at dashboard store ⊢
  cases isPolling : poller.isPolling with
  | false =>
      rw [isPolling] at dashboard store
      exact ends_of_not_polled poller service dashboard store
  | true =>
      rw [isPolling] at dashboard store
      have ends := autoSuspend_ends poller.stopTimer service dashboard store
      rw [requestSuspend_append] at ends
      replace ends : Ends true poller service later _ _ :=
        ends.of_same rfl rfl rfl
      simp only [if_true, Bool.false_eq_true, if_false]
      cases marked : poller.stopTimer.autoSuspend.2.2 with
      | none =>
          rw [marked] at ends
          exact ends
      | some run =>
          rw [marked] at ends
          exact ends

/-! ## Ended sessions -/

omit [KeyValueStore σ] [AgentService ς] in
theorem isPolling_eq_false_iff (poller : Poller σ) :
    poller.isPolling = false ↔ poller.timer = .off := by
  unfold isPolling
  cases poller.timer <;> simp [Timer.isAlive]

omit [AgentService ς] in
/-- A session whose timer is not alive has nothing left to end. -/
theorem drop_of_not_polling {poller : Poller σ} (off : poller.timer = .off)
    (inUse : Bool) : poller.drop inUse = (poller, [], .nothing) := by
  have notPolling := poller.isPolling_eq_false_iff.mpr off
  simp [drop, notPolling]

theorem close_timer (poller : Poller σ) (service : ς) :
    (poller.close service).1.timer = .off := by
  unfold close
  cases isPolling : poller.isPolling with
  | false => exact poller.isPolling_eq_false_iff.mp isPolling
  | true =>
      simp only [if_true, requestSuspend_poller]
      exact poller.stopTimer.autoSuspend_quiet.timer rfl

omit [AgentService ς] in
theorem drop_timer (poller : Poller σ) (inUse : Bool) :
    (poller.drop inUse).1.timer = .off := by
  unfold drop
  cases isPolling : poller.isPolling with
  | false => exact poller.isPolling_eq_false_iff.mp isPolling
  | true =>
      cases inUse with
      | true => rfl
      | false => exact poller.stopTimer.autoSuspend_quiet.timer rfl

end Poller

/-- An answer to a poll comes. -/
def SessionStep.isAnswer : SessionStep → Bool
  | .answer .. => true
  | _ => false

namespace Desk

variable {σ ς : Type} [KeyValueStore σ] [AgentService ς]

/-- From the desk at a moment on a session has ended, given whether its timer
was alive. -/
def Ends (polled : Bool) (held after : Desk σ ς)
    (noticed : List PollerEffect) : Prop :=
  Poller.Ends polled held.poller held.service after.poller noticed
    after.service

def Untouched (desk after : Desk σ ς) (noticed : List PollerEffect) : Prop :=
  Poller.Untouched desk.poller desk.service after.poller noticed after.service

/-- A desk that is untouched ends alike. -/
theorem Untouched.ends {polled : Bool} {desk between after : Desk σ ς}
    {earlier noticed : List PollerEffect} {moment : Moment}
    (untouched : Untouched desk between earlier)
    (ends : Ends polled (between.atMoment moment) after noticed) :
    Ends polled (desk.atMoment moment) after noticed := by
  have sameService : (between.atMoment moment).service =
      (desk.atMoment moment).service := untouched.service
  rw [Ends, sameService] at ends
  exact Poller.Ends.of_same ends untouched.dashboard.symm
    untouched.store.symm rfl

/-! ## The steps that end a session -/

section Steps

variable {desk : Desk σ ς} (isOpen : desk.isOpen = true) (moment : Moment)
include isOpen

theorem close_ends :
    Ends desk.poller.isPolling (desk.atMoment moment)
      (desk.step moment .close) ((desk.atMoment moment).noticed .close) := by
  have ends := Poller.close_ends (desk.atMoment moment).poller desk.service
  have isThere : (desk.atMoment moment).isOpen = true := isOpen
  simp only [Ends, Desk.step, happen, endSession, inSession, noticed, isThere,
    if_true]
  exact ends

theorem drop_step (inUse : Bool) :
    let dropped := (desk.atMoment moment).poller.drop inUse
    desk.step moment (.drop inUse) =
      { desk.atMoment moment with
        poller := dropped.1
        isOpen := false
        pending := dropped.2.2 :: desk.pending } ∧
    (desk.atMoment moment).noticed (.drop inUse) = dropped.2.1 := by
  have isThere : (desk.atMoment moment).isOpen = true := isOpen
  constructor
  · simp only [Desk.step, happen, dropSession, isThere, if_true]
    rfl
  · simp only [noticed, isThere, if_true]

theorem detach_untouched :
    Untouched desk (desk.step moment .detach)
      ((desk.atMoment moment).noticed .detach) := by
  have isThere : (desk.atMoment moment).isOpen = true := isOpen
  simp only [Untouched, Desk.step, happen, endSession, inSession, noticed,
    isThere, if_true]
  exact ⟨rfl, rfl, rfl, rfl⟩

omit isOpen in
theorem finish_step {rest : Teardown} (isLeft : rest ∈ desk.pending) :
    let finished :=
      (desk.atMoment moment).poller.finishTeardown rest desk.service
    desk.step moment (.finishTeardown rest) =
      { desk.atMoment moment with
        poller := finished.1
        service := finished.2.2
        pending := desk.pending.erase rest } ∧
    (desk.atMoment moment).noticed (.finishTeardown rest) = finished.2.1 := by
  have isThere : rest ∈ (desk.atMoment moment).pending := isLeft
  constructor
  · simp only [Desk.step, happen, finish, isThere, if_true]
    rfl
  · simp only [noticed, isThere, if_true]
    rfl

end Steps

/-! ## All ways to end a session -/

/-- What a session that is dropped leaves to do. -/
def leftBy (desk : Desk σ ς) (moment : Moment) (inUse : Bool) : Teardown :=
  ((desk.atMoment moment).poller.drop inUse).2.2

/-- The session is dropped, answers to polls come late, and what is left to do
is done. -/
def dropSteps (desk : Desk σ ς) (moment : Moment) (inUse : Bool)
    (late : List (Moment × SessionStep)) (later : Moment) :
    List (Moment × SessionStep) :=
  (moment, .drop inUse) :: late ++
    [(later, .finishTeardown (desk.leftBy moment inUse))]

/-- However a session ends, its run is looked after. -/
structure EndsWell (desk : Desk σ ς) : Prop where
  close : ∀ moment, Ends desk.poller.isPolling (desk.atMoment moment)
    (desk.step moment .close) (desk.noticedThrough [(moment, .close)])
  left : ∀ moment inUse, (desk.step moment (.drop inUse)).pending =
    desk.leftBy moment inUse :: desk.pending
  drop : ∀ moment later, Ends desk.poller.isPolling (desk.atMoment moment)
    (desk.after (desk.dropSteps moment false [] later))
    (desk.noticedThrough (desk.dropSteps moment false [] later))
  /-- While the dashboard is in use answers may still be handled, and the run
  is suspended as they leave it. -/
  dropInUse : ∀ moment late later,
    (∀ next ∈ late, next.2.isAnswer = true) →
    Untouched desk (desk.step moment (.drop true))
      (desk.noticedThrough [(moment, .drop true)]) ∧
    let held := (desk.step moment (.drop true)).after late
    Ends desk.poller.isPolling (held.atMoment later)
      (desk.after (desk.dropSteps moment true late later))
      (held.noticedThrough
        [(later, .finishTeardown (desk.leftBy moment true))])
  /-- Closing and dropping come to the same. -/
  agree : ∀ moment inUse,
    let closed := desk.step moment .close
    let dropped := desk.after (desk.dropSteps moment inUse [] moment)
    dropped.poller.dashboard = closed.poller.dashboard ∧
      dropped.poller.store = closed.poller.store ∧
      desk.noticedThrough (desk.dropSteps moment inUse [] moment) =
        desk.noticedThrough [(moment, .close)] ∧
      dropped.service = closed.service
  detach : ∀ moment, Untouched desk (desk.step moment .detach)
    (desk.noticedThrough [(moment, .detach)])
  /-- The value that is left of a session is dropped without effect. -/
  again : ∀ moment inUse,
    let closed := (desk.step moment .close).poller
    let detached := (desk.step moment .detach).poller
    closed.drop inUse = (closed, [], .nothing) ∧
      detached.drop inUse = (detached, [], .nothing)

section EndsWell

variable {desk : Desk σ ς} (isOpen : desk.isOpen = true)
include isOpen

theorem leftBy_mem (moment : Moment) (inUse : Bool) :
    desk.leftBy moment inUse ∈ (desk.step moment (.drop inUse)).pending := by
  rw [(drop_step isOpen moment inUse).1]
  exact List.mem_cons_self

theorem drop_ends (moment later : Moment) :
    Ends desk.poller.isPolling (desk.atMoment moment)
      (desk.after (desk.dropSteps moment false [] later))
      (desk.noticedThrough (desk.dropSteps moment false [] later)) := by
  obtain ⟨isDropped, isNoticed⟩ := drop_step isOpen moment false
  obtain ⟨isFinished, isNoticedLater⟩ :=
    finish_step later (leftBy_mem isOpen moment false)
  have sameDashboard :
      ((desk.step moment (.drop false)).atMoment later).poller.dashboard =
        ((desk.atMoment moment).poller.drop false).1.dashboard := by
    rw [isDropped]
    rfl
  have sameStore :
      ((desk.step moment (.drop false)).atMoment later).poller.store =
        ((desk.atMoment moment).poller.drop false).1.store := by
    rw [isDropped]
    rfl
  have sameService : (desk.step moment (.drop false)).service =
      desk.service := by
    rw [isDropped]
    rfl
  simp only [dropSteps, List.nil_append, List.cons_append, after,
    List.foldl_cons, List.foldl_nil, noticedThrough, List.append_nil]
  rw [isNoticed, isNoticedLater, isFinished, sameService]
  exact Poller.drop_ends (desk.atMoment moment).poller desk.service
    sameDashboard sameStore

omit isOpen [AgentService ς] in
theorem leftBy_inUse (moment : Moment) :
    desk.leftBy moment true =
      if desk.poller.isPolling then .whole else .nothing := by
  have same : (desk.atMoment moment).poller.isPolling =
      desk.poller.isPolling := rfl
  unfold leftBy Poller.drop
  rw [same]
  cases desk.poller.isPolling <;> rfl

theorem dropInUse_untouched (moment : Moment) :
    Untouched desk (desk.step moment (.drop true))
      (desk.noticedThrough [(moment, .drop true)]) := by
  obtain ⟨isDropped, isNoticed⟩ := drop_step isOpen moment true
  have inert : ((desk.atMoment moment).poller.drop true).1.dashboard =
        desk.poller.dashboard ∧
      ((desk.atMoment moment).poller.drop true).1.store =
        desk.poller.store ∧
      ((desk.atMoment moment).poller.drop true).2.1 = [] := by
    unfold Poller.drop
    split <;> exact ⟨rfl, rfl, rfl⟩
  simp only [noticedThrough, List.append_nil]
  rw [isNoticed, isDropped]
  exact ⟨inert.1, inert.2.1, inert.2.2, rfl⟩

omit isOpen in
/-- What is left to do stays so while answers come. -/
theorem pending_after_answers {desk : Desk σ ς}
    {late : List (Moment × SessionStep)}
    (areAnswers : ∀ next ∈ late, next.2.isAnswer = true) :
    (desk.after late).pending = desk.pending := by
  induction late generalizing desk with
  | nil => rfl
  | cons next rest ih =>
      rw [List.forall_mem_cons] at areAnswers
      refine (ih areAnswers.2).trans ?_
      obtain ⟨moment, step⟩ := next
      cases step with
      | answer sent forTimer outcome =>
          exact ((desk.atMoment moment).takeAnswer_standing sent forTimer
            outcome).2
      | _ => cases areAnswers.1

theorem dropInUse_ends {late : List (Moment × SessionStep)}
    (areAnswers : ∀ next ∈ late, next.2.isAnswer = true)
    (moment later : Moment) :
    let held := (desk.step moment (.drop true)).after late
    Ends desk.poller.isPolling (held.atMoment later)
      (desk.after (desk.dropSteps moment true late later))
      (held.noticedThrough
        [(later, .finishTeardown (desk.leftBy moment true))]) := by
  intro held
  have isLeft : desk.leftBy moment true ∈ held.pending := by
    rw [show held.pending = _ from pending_after_answers areAnswers]
    exact leftBy_mem isOpen moment true
  obtain ⟨isFinished, isNoticed⟩ := finish_step later isLeft
  have isAfter : desk.after (desk.dropSteps moment true late later) =
      held.step later (.finishTeardown (desk.leftBy moment true)) := by
    rw [dropSteps, after_append]
    rfl
  simp only [noticedThrough, List.append_nil]
  rw [isAfter, isNoticed, isFinished, leftBy_inUse]
  cases desk.poller.isPolling with
  | false => exact Poller.ends_of_not_polled _ _ rfl rfl
  | true => exact Poller.finish_whole_ends _ _

/-- If nothing comes between it does not matter whether the dashboard was in
use, but for the time. -/
theorem drop_ends_undisturbed (moment later : Moment) (inUse : Bool) :
    Ends desk.poller.isPolling
      (desk.atMoment (if inUse then later else moment))
      (desk.after (desk.dropSteps moment inUse [] later))
      (desk.noticedThrough (desk.dropSteps moment inUse [] later)) := by
  cases inUse with
  | false => exact drop_ends isOpen moment later
  | true =>
      -- All of it is left to the teardown, which finds the desk untouched.
      have untouched := dropInUse_untouched isOpen moment
      have ends := dropInUse_ends isOpen (List.forall_mem_nil _) moment later
      rw [dropSteps, noticedThrough_append, untouched.effects]
      exact untouched.ends ends

theorem close_agrees_drop (moment : Moment) (inUse : Bool) :
    let closed := desk.step moment .close
    let dropped := desk.after (desk.dropSteps moment inUse [] moment)
    dropped.poller.dashboard = closed.poller.dashboard ∧
      dropped.poller.store = closed.poller.store ∧
      desk.noticedThrough (desk.dropSteps moment inUse [] moment) =
        desk.noticedThrough [(moment, .close)] ∧
      dropped.service = closed.service := by
  have closes := close_ends isOpen moment
  have drops := drop_ends_undisturbed isOpen moment moment inUse
  rw [ite_self] at drops
  simp only [noticedThrough, List.append_nil]
  exact drops.unique closes

theorem drop_again (moment : Moment) (inUse : Bool) :
    let closed := (desk.step moment .close).poller
    let detached := (desk.step moment .detach).poller
    closed.drop inUse = (closed, [], .nothing) ∧
      detached.drop inUse = (detached, [], .nothing) := by
  have isThere : (desk.atMoment moment).isOpen = true := isOpen
  constructor
  · apply Poller.drop_of_not_polling
    simp only [Desk.step, happen, endSession, inSession, isThere, if_true]
    exact Poller.close_timer _ _
  · apply Poller.drop_of_not_polling
    simp only [Desk.step, happen, endSession, inSession, isThere, if_true]
    rfl

theorem endsWell_of_isOpen : desk.EndsWell where
  close moment := by
    simp only [noticedThrough, List.append_nil]
    exact close_ends isOpen moment
  left moment inUse := by
    rw [(drop_step isOpen moment inUse).1]
    rfl
  drop := drop_ends isOpen
  dropInUse moment _ later areAnswers :=
    ⟨dropInUse_untouched isOpen moment,
      dropInUse_ends isOpen areAnswers moment later⟩
  agree := close_agrees_drop isOpen
  detach moment := by
    simp only [noticedThrough, List.append_nil]
    exact detach_untouched isOpen moment
  again := drop_again isOpen

end EndsWell

/-! ## Sessions that do not poll -/

/-- A session that is open does not poll. -/
def IsPassive (desk : Desk σ ς) : Prop :=
  desk.isOpen = true → desk.poller.timer = .off

theorem IsPassive.step {desk : Desk σ ς} (passive : desk.IsPassive)
    (moment : Moment) {step : SessionStep}
    (noTimer : step.startsTimer = false) :
    (desk.step moment step).IsPassive := by
  intro isOpen
  cases wasOpen : desk.isOpen with
  | true => exact desk.timer_step moment noTimer (passive wasOpen)
  | false =>
      rcases (desk.atMoment moment).happen_standing step with
        ⟨same, -⟩ | ended | ⟨opens, -⟩
      · exact absurd (same.symm.trans isOpen) (by simp [atMoment, wasOpen])
      · exact absurd (ended.symm.trans isOpen) Bool.false_ne_true
      · cases step with
        | openPassive =>
            rcases (desk.atMoment moment).openPassive_timer with
              isSame | isOff
            · rw [Desk.step, isSame] at isOpen
              exact absurd (wasOpen.symm.trans isOpen) Bool.false_ne_true
            · exact isOff
        | openActive => cases noTimer
        | _ => cases opens

theorem IsPassive.after_steps {desk : Desk σ ς} (passive : desk.IsPassive)
    {steps : List (Moment × SessionStep)}
    (noTimer : ∀ next ∈ steps, next.2.startsTimer = false) :
    (desk.after steps).IsPassive := by
  induction steps generalizing desk with
  | nil => exact passive
  | cons next rest ih =>
      rw [List.forall_mem_cons] at noTimer
      exact ih (passive.step next.1 noTimer.1) noTimer.2

/-- Whatever happened before, a session that is open ends well; and one that
was opened passively, and in which no run was started or resumed, does not
poll. -/
theorem endsWell_after (store : σ) (service : ς) (supply : Supply)
    (interval : Nat) (steps : List (Moment × SessionStep))
    (isOpen : ((new store service supply interval).after steps).isOpen =
      true) :
    ((new store service supply interval).after steps).EndsWell ∧
    ∀ before rest, steps = before ++ rest →
      ((new store service supply interval).after before).isOpen = false →
      (∀ next ∈ rest, next.2.startsTimer = false) →
      ((new store service supply interval).after steps).poller.isPolling =
        false := by
  refine ⟨endsWell_of_isOpen isOpen, ?_⟩
  intro before rest isSplit notOpen noTimer
  have passive : ((new store service supply interval).after
      before).IsPassive := by
    intro isThere
    rw [notOpen] at isThere
    cases isThere
  have still := passive.after_steps noTimer
  rw [← after_append, ← isSplit] at still
  exact (Poller.isPolling_eq_false_iff _).mpr (still isOpen)

theorem endsWell_beginning :
    (ofOneRun.after beginning).isOpen = true ∧
      (ofOneRun.after beginning).poller.isPolling = true ∧
      (ofOneRun.after beginning).EndsWell := by
  have isOpen : (ofOneRun.after beginning).isOpen = true := by
    decide +kernel
  refine ⟨isOpen, ?_, ?_⟩
  · decide +kernel
  · exact (endsWell_after _ _ _ _ beginning isOpen).1

end Desk

end AgentPipeline
