import AgentPipeline.Proofs.Poller.Desk

/-!
# Sessions at a desk

What others notice of a step, and what a step does to the timer and to the
flag of the session.  A timer is started only when a run is started, resumed
or picked up from the store.
-/

namespace AgentPipeline

namespace Poller

variable {σ ς α : Type} [KeyValueStore σ]

/-- Flag and interval stay as they are, and no timer is started where there is
none. -/
structure StaysQuiet (before after : Poller σ) : Prop where
  timer : before.timer = .off → after.timer = .off
  resumed : after.resumed = before.resumed
  interval : after.interval = before.interval

omit [KeyValueStore σ] in
theorem staysQuiet_refl (poller : Poller σ) : poller.StaysQuiet poller :=
  ⟨id, rfl, rfl⟩

omit [KeyValueStore σ] in
theorem staysQuiet_stopTimer (poller : Poller σ) :
    poller.StaysQuiet poller.stopTimer :=
  ⟨fun _ => rfl, rfl, rfl⟩

omit [KeyValueStore σ] in
theorem StaysQuiet.trans {first second third : Poller σ}
    (earlier : first.StaysQuiet second) (later : second.StaysQuiet third) :
    first.StaysQuiet third :=
  ⟨fun off => later.timer (earlier.timer off),
    later.resumed.trans earlier.resumed,
    later.interval.trans earlier.interval⟩

theorem staysQuiet_write (poller : Poller σ) (dashboard : Dashboard) :
    poller.StaysQuiet (poller.write dashboard).2 :=
  ⟨id, rfl, rfl⟩

theorem staysQuiet_readWrite (poller : Poller σ) (dashboard : Dashboard) :
    poller.StaysQuiet (poller.readClock.2.write dashboard).2 := by
  -- Left to itself the comparison would compute what time it is.
  refine StaysQuiet.trans ⟨?_, ?_, ?_⟩ (staysQuiet_write _ _)
  · simp only [readClock, imp_self]
  · simp only [readClock]
  · simp only [readClock]

/-- A commit goes on with the dashboard written, or ends where it stands. -/
theorem commit_cases {motive : Poller σ → Prop} (timed : Poller σ)
    (dashboard : Dashboard) (goOn : Poller σ → Reaction σ α)
    (written : motive (goOn (timed.write dashboard).2).poller)
    (failed : motive (timed.write dashboard).2) :
    motive (timed.commit dashboard goOn).poller := by
  unfold commit
  cases outcome : timed.write dashboard with
  | mk result poller =>
      rw [outcome] at written failed
      cases result with
      | ok done => exact written
      | error error => exact failed

section Operations

variable [AgentService ς] (poller : Poller σ)

theorem selectEvaluator_quiet (kind : String) :
    poller.StaysQuiet (poller.selectEvaluator kind).poller :=
  commit_cases _ _ _ (staysQuiet_write _ _) (staysQuiet_write _ _)

theorem setItemLimit_quiet (kind : String) (limit : UInt32) :
    poller.StaysQuiet (poller.setItemLimit kind limit).poller :=
  commit_cases _ _ _ (staysQuiet_write _ _) (staysQuiet_write _ _)

theorem clear_quiet : poller.StaysQuiet poller.clear.poller := by
  unfold clear
  split
  · exact staysQuiet_refl poller
  · exact (staysQuiet_stopTimer poller).trans
      (commit_cases _ _ _ (staysQuiet_write _ _) (staysQuiet_write _ _))

/-- A run that is suspended is written, and if that fails it is suspended all
the same. -/
theorem suspend_poller {run : EvaluatorRun}
    (found : poller.running? = some run) (silent : Bool) (service : ς) :
    (poller.suspend silent service).1.poller =
      (poller.stopTimer.readClock.2.write { poller.dashboard with
        run := some (run.become .suspended false poller.supply.now) }).2 := by
  unfold suspend
  rw [found]
  dsimp only
  split
  next written => exact (congrArg Prod.snd written).symm
  next written => exact (congrArg Prod.snd written).symm

theorem suspend_quiet (silent : Bool) (service : ς) :
    poller.StaysQuiet (poller.suspend silent service).1.poller := by
  cases found : poller.running? with
  | none =>
      simp only [suspend, found]
      exact staysQuiet_refl poller
  | some run =>
      rw [poller.suspend_poller found]
      exact (staysQuiet_stopTimer poller).trans (staysQuiet_readWrite _ _)

theorem stop_quiet (service : ς) :
    poller.StaysQuiet (poller.stop service).1.poller := by
  unfold stop
  split
  · exact staysQuiet_refl poller
  split
  · exact staysQuiet_refl poller
  next run _ _ =>
    dsimp only
    cases control run.id .stop service with
    | mk outcome service =>
        cases outcome with
        | error error => exact staysQuiet_refl poller
        | ok done =>
            exact (staysQuiet_stopTimer poller).trans
              (commit_cases _ _ _ (staysQuiet_readWrite _ _)
                (staysQuiet_readWrite _ _))

omit [KeyValueStore σ] in
theorem viewRecord_quiet (index : UInt32) (service : ς) :
    poller.StaysQuiet (poller.viewRecord index service).1.poller := by
  unfold viewRecord
  split
  · exact staysQuiet_refl poller
  split
  · exact staysQuiet_refl poller
  next run _ _ =>
    dsimp only
    cases AgentService.call (.fetchRecord run.id index) service with
    | mk outcome service =>
        cases outcome <;> exact staysQuiet_refl poller

theorem handleAnswer_quiet (poll : Poll)
    (outcome : Except ServiceError RunSnapshot) :
    poller.StaysQuiet (poller.handleAnswer poll outcome).poller := by
  unfold handleAnswer
  split
  · exact staysQuiet_refl poller
  next snapshot =>
    unfold handleSnapshot
    split
    · exact staysQuiet_refl poller
    next run _ =>
      dsimp only
      split
      · exact staysQuiet_refl poller
      · exact commit_cases _ _ _ (staysQuiet_readWrite _ _)
          (staysQuiet_readWrite _ _)

theorem autoSuspend_quiet : poller.StaysQuiet poller.autoSuspend.1 := by
  unfold autoSuspend
  split
  · exact staysQuiet_refl poller
  · exact staysQuiet_readWrite poller _

theorem close_quiet (service : ς) :
    poller.StaysQuiet (poller.close service).1 := by
  unfold close
  split
  · simp only [requestSuspend_poller]
    exact (staysQuiet_stopTimer poller).trans (autoSuspend_quiet _)
  · exact staysQuiet_refl poller

theorem drop_quiet (inUse : Bool) :
    poller.StaysQuiet (poller.drop inUse).1 := by
  unfold drop
  split
  · split
    · exact staysQuiet_stopTimer poller
    · exact (staysQuiet_stopTimer poller).trans (autoSuspend_quiet _)
  · exact staysQuiet_refl poller

theorem finishTeardown_quiet (rest : Teardown) (service : ς) :
    poller.StaysQuiet (poller.finishTeardown rest service).1 := by
  cases rest with
  | nothing => exact staysQuiet_refl poller
  | request run =>
      simp only [finishTeardown, requestSuspend_poller]
      exact staysQuiet_refl poller
  | whole =>
      simp only [finishTeardown, requestSuspend_poller]
      exact autoSuspend_quiet poller

/-! The flag does not depend on the timer. -/

theorem start_resumed (kind : String) (itemLimit : UInt32)
    (model : Option ModelConfig) (service : ς) :
    (poller.start kind itemLimit model service).1.poller.resumed =
      poller.resumed := by
  unfold start
  split
  · rfl
  split
  · rfl
  split
  · rfl
  next chosen _ =>
    dsimp only
    cases AgentService.call
        (.startEvaluator ⟨kind, itemLimit, some chosen⟩) service with
    | mk outcome service =>
        cases outcome with
        | error error => rfl
        | ok started =>
            refine commit_cases
              (motive := fun after : Poller σ =>
                after.resumed = poller.resumed) _ _ _ ?_ ?_
            · simp only [answer, startTimer]
              exact (staysQuiet_readWrite poller _).resumed
            · exact (staysQuiet_readWrite poller _).resumed

theorem resume_resumed (service : ς) :
    (poller.resume service).1.poller.resumed = poller.resumed := by
  unfold resume
  split
  · rfl
  split
  · rfl
  next run _ _ =>
    dsimp only
    cases control run.id .resume service with
    | mk outcome service =>
        cases outcome with
        | error error => rfl
        | ok done =>
            refine commit_cases
              (motive := fun after : Poller σ =>
                after.resumed = poller.resumed) _ _ _ ?_ ?_
            · simp only [answer, startTimer]
              exact (staysQuiet_readWrite poller _).resumed
            · exact (staysQuiet_readWrite poller _).resumed

theorem handleTimerAnswer_keeps (poll : Poll)
    (outcome : Except ServiceError RunSnapshot) :
    (poller.handleTimerAnswer poll outcome).poller.resumed =
        poller.resumed ∧
      (poller.handleTimerAnswer poll outcome).poller.interval =
        poller.interval := by
  have quiet := poller.handleAnswer_quiet poll outcome
  unfold handleTimerAnswer
  dsimp only
  split <;> split <;> exact ⟨quiet.resumed, quiet.interval⟩

end Operations

end Poller

namespace SessionStep

def opens : SessionStep → Bool
  | .openPassive | .openActive => true
  | _ => false

/-- Only such a step can start a timer. -/
def startsTimer : SessionStep → Bool
  | .openActive | .start .. | .resume => true
  | _ => false

/-- Neither a timer is started nor the flag changed. -/
def isQuiet : SessionStep → Bool
  | .openPassive | .openActive | .start .. | .resume | .takeResumed => false
  | _ => true

end SessionStep

namespace Desk

variable {σ ς : Type} [KeyValueStore σ]

section Notice

variable [AgentService ς]

/-- What others notice of a step, in the order in which it happens. -/
def noticed (desk : Desk σ ς) : SessionStep → List PollerEffect
  | .openPassive | .takeResumed | .detach | .vanish => []
  | .openActive =>
      if desk.isOpen ∨ .whole ∈ desk.pending then []
      else
        match Poller.openPassive desk.poller.store desk.poller.supply
            desk.poller.interval desk.poller.clock with
        | .error _ => []
        | .ok poller => (poller.rehydrate desk.service).1.effects
  | .selectEvaluator kind =>
      if desk.isOpen then (desk.poller.selectEvaluator kind).effects else []
  | .setItemLimit kind limit =>
      if desk.isOpen then (desk.poller.setItemLimit kind limit).effects
      else []
  | .start kind itemLimit model =>
      if desk.isOpen then
        (desk.poller.start kind itemLimit model desk.service).1.effects
      else []
  | .suspend silent =>
      if desk.isOpen then
        (desk.poller.suspend silent desk.service).1.effects
      else []
  | .resume =>
      if desk.isOpen then (desk.poller.resume desk.service).1.effects else []
  | .stop =>
      if desk.isOpen then (desk.poller.stop desk.service).1.effects else []
  | .clear => if desk.isOpen then desk.poller.clear.effects else []
  | .viewRecord index =>
      if desk.isOpen then
        (desk.poller.viewRecord index desk.service).1.effects
      else []
  | .ask =>
      if desk.isOpen then
        match desk.poller.nextPoll with
        | .ok poll => [.call poll.request]
        | .error _ => []
      else []
  | .timerDue =>
      if desk.isOpen then
        match desk.poller.timer with
        | .sleeping _ =>
            (desk.poller.timerDue.2.map fun poll =>
              .call poll.request).toList
        | .off | .polling _ => []
      else []
  | .answer sent forTimer outcome =>
      if sent ∈ desk.asked then
        if forTimer then
          if desk.isOpen ∧ desk.poller.timer = .polling sent.poll then
            (desk.poller.handleTimerAnswer sent.poll outcome).effects
          else []
        else (desk.poller.handleAnswer sent.poll outcome).effects
      else []
  | .close =>
      if desk.isOpen then (desk.poller.close desk.service).2.1 else []
  | .drop inUse => if desk.isOpen then (desk.poller.drop inUse).2.1 else []
  | .finishTeardown rest =>
      if rest ∈ desk.pending then
        (desk.poller.finishTeardown rest desk.service).2.1
      else []

def noticedThrough (desk : Desk σ ς) :
    List (Moment × SessionStep) → List PollerEffect
  | [] => []
  | next :: later =>
      (desk.atMoment next.1).noticed next.2 ++
        (desk.step next.1 next.2).noticedThrough later

theorem noticedThrough_append (desk : Desk σ ς)
    (first second : List (Moment × SessionStep)) :
    desk.noticedThrough (first ++ second) =
      desk.noticedThrough first ++ (desk.after first).noticedThrough second := by
  induction first generalizing desk with
  | nil => rfl
  | cons next rest ih =>
      simp only [List.cons_append, noticedThrough, ih, List.append_assoc]
      rfl

theorem after_append (desk : Desk σ ς)
    (first second : List (Moment × SessionStep)) :
    desk.after (first ++ second) = (desk.after first).after second :=
  List.foldl_append

end Notice

/-! ## Timer and flag -/

omit [KeyValueStore σ] in
theorem inSession_poller {motive : Poller σ → Prop} (desk : Desk σ ς)
    (operation : Poller σ → ς → Poller σ × ς) (here : motive desk.poller)
    (there : motive (operation desk.poller desk.service).1) :
    motive (desk.inSession operation).poller := by
  unfold inSession
  split
  · exact there
  · exact here

omit [KeyValueStore σ] in
theorem inSession_quiet (desk : Desk σ ς)
    {operation : Poller σ → ς → Poller σ × ς}
    (quiet : ∀ (poller : Poller σ) (service : ς),
      poller.StaysQuiet (operation poller service).1) :
    desk.poller.StaysQuiet (desk.inSession operation).poller :=
  inSession_poller desk operation (Poller.staysQuiet_refl _) (quiet _ _)

omit [KeyValueStore σ] in
theorem wakeTimer_quiet (desk : Desk σ ς) :
    desk.poller.StaysQuiet desk.wakeTimer.poller := by
  unfold wakeTimer
  split
  · split
    next due sleeps =>
      unfold Poller.timerDue
      cases desk.poller.nextPoll with
      | ok poll => exact ⟨fun off => by simp [sleeps] at off, rfl, rfl⟩
      | error error => exact Poller.staysQuiet_stopTimer desk.poller
    · exact Poller.staysQuiet_refl _
    · exact Poller.staysQuiet_refl _
  · exact Poller.staysQuiet_refl _

theorem takeAnswer_quiet (desk : Desk σ ς) (sent : SentPoll)
    (forTimer : Bool) (outcome : Except ServiceError RunSnapshot) :
    desk.poller.StaysQuiet (desk.takeAnswer sent forTimer outcome).poller := by
  unfold takeAnswer
  split
  · split
    · split
      next waits =>
        -- The timer goes on only if it was waiting for this answer.
        obtain ⟨resumed, interval⟩ :=
          desk.poller.handleTimerAnswer_keeps sent.poll outcome
        refine ⟨?_, resumed, interval⟩
        intro off
        rw [off] at waits
        cases waits.2
      · exact Poller.staysQuiet_refl _
    · exact Poller.handleAnswer_quiet _ _ _
  · exact Poller.staysQuiet_refl _

section Quiet

variable [AgentService ς]

theorem happen_quiet (desk : Desk σ ς) {step : SessionStep}
    (isQuiet : step.isQuiet = true) :
    desk.poller.StaysQuiet (desk.happen step).poller := by
  cases step with
  | openPassive | openActive | start | resume | takeResumed => cases isQuiet
  | selectEvaluator kind =>
      exact inSession_quiet desk fun poller _ =>
        poller.selectEvaluator_quiet kind
  | setItemLimit kind limit =>
      exact inSession_quiet desk fun poller _ =>
        poller.setItemLimit_quiet kind limit
  | suspend silent =>
      exact inSession_quiet desk fun poller service =>
        poller.suspend_quiet silent service
  | stop => exact inSession_quiet desk Poller.stop_quiet
  | clear => exact inSession_quiet desk fun poller _ => poller.clear_quiet
  | viewRecord index =>
      exact inSession_quiet desk fun poller service =>
        poller.viewRecord_quiet index service
  | ask =>
      simp only [happen, askPoll]
      split
      · split <;> exact Poller.staysQuiet_refl _
      · exact Poller.staysQuiet_refl _
  | timerDue => exact wakeTimer_quiet desk
  | answer sent forTimer outcome =>
      exact takeAnswer_quiet desk sent forTimer outcome
  | close => exact inSession_quiet desk Poller.close_quiet
  | detach =>
      exact inSession_quiet desk fun poller _ =>
        poller.staysQuiet_stopTimer
  | drop inUse =>
      simp only [happen, dropSession]
      split
      · exact Poller.drop_quiet _ inUse
      · exact Poller.staysQuiet_refl _
  | finishTeardown rest =>
      simp only [happen, finish]
      split
      · exact Poller.finishTeardown_quiet _ rest _
      · exact Poller.staysQuiet_refl _
  | vanish => exact Poller.staysQuiet_refl _

theorem quiet_after {desk : Desk σ ς} {steps : List (Moment × SessionStep)}
    (areQuiet : ∀ next ∈ steps, next.2.isQuiet = true) :
    desk.poller.StaysQuiet (desk.after steps).poller := by
  induction steps generalizing desk with
  | nil => exact Poller.staysQuiet_refl _
  | cons next rest ih =>
      rw [List.forall_mem_cons] at areQuiet
      have first := (desk.atMoment next.1).happen_quiet areQuiet.1
      exact Poller.StaysQuiet.trans
        ⟨first.timer, first.resumed, first.interval⟩ (ih areQuiet.2)

/-- A session that is opened passively has no timer. -/
theorem openPassive_timer (desk : Desk σ ς) :
    desk.happen .openPassive = desk ∨
      (desk.happen .openPassive).poller.timer = .off := by
  simp only [happen, openBy, Poller.openPassive]
  split
  · exact .inl rfl
  cases KeyValueStore.read Dashboard.decoder desk.poller.store
      StoreKey.dashboard.name with
  | error error => exact .inl rfl
  | ok found => exact .inr rfl

/-- Without a step that starts one there is no timer. -/
theorem timer_step (desk : Desk σ ς) (moment : Moment) {step : SessionStep}
    (noTimer : step.startsTimer = false) (off : desk.poller.timer = .off) :
    (desk.step moment step).poller.timer = .off := by
  have still : (desk.atMoment moment).poller.timer = .off := off
  cases isQuiet : step.isQuiet with
  | true => exact (happen_quiet _ isQuiet).timer still
  | false =>
      cases step with
      | openPassive =>
          rcases (desk.atMoment moment).openPassive_timer with isSame | isOff
          · rw [Desk.step, isSame]
            exact still
          · exact isOff
      | takeResumed =>
          exact inSession_poller (motive := (·.timer = .off)) _ _ still still
      | openActive | start | resume => cases noTimer
      | _ => cases isQuiet

/-- In a session the flag changes only when it is taken. -/
theorem resumed_step (desk : Desk σ ς) (moment : Moment) {step : SessionStep}
    (noSession : step.opens = false) (noFlag : step ≠ .takeResumed) :
    (desk.step moment step).poller.resumed = desk.poller.resumed := by
  cases isQuiet : step.isQuiet with
  | true => exact (happen_quiet (desk.atMoment moment) isQuiet).resumed
  | false =>
      cases step with
      | start kind itemLimit model =>
          simp only [Desk.step, happen, startRun]
          split
          · exact Poller.start_resumed _ kind itemLimit model _
          · rfl
      | resume =>
          exact inSession_poller (motive := (·.resumed = desk.poller.resumed))
            _ _ rfl (Poller.resume_resumed _ _)
      | openPassive | openActive => cases noSession
      | takeResumed => exact absurd rfl noFlag
      | _ => cases isQuiet

end Quiet

/-! ## Who is told of the flag -/

section Told

variable [AgentService ς]

/-- What somebody is told who asks whether polling was picked up. -/
def told (desk : Desk σ ς) : SessionStep → List Bool
  | .takeResumed => if desk.isOpen then [desk.poller.takeResumed.1] else []
  | _ => []

def toldThrough (desk : Desk σ ς) : List (Moment × SessionStep) → List Bool
  | [] => []
  | next :: later =>
      desk.told next.2 ++ (desk.step next.1 next.2).toldThrough later

/-- The first who asks in the session is told of the flag, and whoever asks
later that it is not raised. -/
def TellsOnce (desk : Desk σ ς) (flag : Bool) : Prop :=
  ∀ steps : List (Moment × SessionStep),
    (∀ next ∈ steps, next.2.opens = false) → ∀ first others,
    desk.toldThrough steps = first :: others →
    first = flag ∧ ∀ other ∈ others, other = false

theorem told_cases (desk : Desk σ ς) (moment : Moment) {step : SessionStep}
    (noSession : step.opens = false) :
    (desk.told step = [] ∧
      (desk.step moment step).poller.resumed = desk.poller.resumed) ∨
    (desk.told step = [desk.poller.resumed] ∧
      (desk.step moment step).poller.resumed = false) := by
  cases step with
  | takeResumed =>
      cases isOpen : desk.isOpen with
      | true =>
          right
          have isThere : (desk.atMoment moment).isOpen = true := isOpen
          simp only [told, isOpen, Desk.step, happen, inSession, isThere,
            if_true]
          exact ⟨rfl, rfl⟩
      | false =>
          left
          have isNotThere : (desk.atMoment moment).isOpen = false := isOpen
          constructor
          · simp only [told, isOpen, Bool.false_eq_true, if_false]
          · simp only [Desk.step, happen, inSession, isNotThere,
              Bool.false_eq_true, if_false]
            rfl
  | _ => exact .inl ⟨rfl, desk.resumed_step moment noSession (by nofun)⟩

theorem toldThrough_of_lowered {desk : Desk σ ς}
    (lowered : desk.poller.resumed = false)
    {steps : List (Moment × SessionStep)}
    (noSession : ∀ next ∈ steps, next.2.opens = false) :
    ∀ answer ∈ desk.toldThrough steps, answer = false := by
  induction steps generalizing desk with
  | nil => nofun
  | cons next rest ih =>
      rw [List.forall_mem_cons] at noSession
      intro answer isTold
      rcases desk.told_cases next.1 noSession.1 with
        ⟨isSilent, same⟩ | ⟨isOne, isLowered⟩
      · rw [toldThrough, isSilent, List.nil_append] at isTold
        exact ih (same.trans lowered) noSession.2 answer isTold
      · rw [toldThrough, isOne, List.singleton_append,
          List.mem_cons] at isTold
        rcases isTold with isFirst | isLater
        · exact isFirst.trans lowered
        · exact ih isLowered noSession.2 answer isLater

theorem tellsOnce (desk : Desk σ ς) : desk.TellsOnce desk.poller.resumed := by
  intro steps noSession first others isTold
  induction steps generalizing desk with
  | nil => cases isTold
  | cons next rest ih =>
      rw [List.forall_mem_cons] at noSession
      rcases desk.told_cases next.1 noSession.1 with
        ⟨isSilent, same⟩ | ⟨isOne, isLowered⟩
      · rw [toldThrough, isSilent, List.nil_append] at isTold
        have later := ih _ noSession.2 isTold
        rw [same] at later
        exact later
      · rw [toldThrough, isOne, List.singleton_append] at isTold
        cases isTold
        exact ⟨rfl, toldThrough_of_lowered isLowered noSession.2⟩

end Told

/-! ## One session at a time -/

section Standing

variable (desk : Desk σ ς)

omit [KeyValueStore σ] in
theorem inSession_standing (operation : Poller σ → ς → Poller σ × ς) :
    (desk.inSession operation).isOpen = desk.isOpen ∧
      (desk.inSession operation).pending = desk.pending := by
  unfold inSession
  split <;> exact ⟨rfl, rfl⟩

theorem takeAnswer_standing (sent : SentPoll) (forTimer : Bool)
    (outcome : Except ServiceError RunSnapshot) :
    (desk.takeAnswer sent forTimer outcome).isOpen = desk.isOpen ∧
      (desk.takeAnswer sent forTimer outcome).pending = desk.pending := by
  unfold takeAnswer
  split
  · split
    · split <;> exact ⟨rfl, rfl⟩
    · exact ⟨rfl, rfl⟩
  · exact ⟨rfl, rfl⟩

/-- Only a session that is dropped leaves something to do. -/
theorem pending_happen [AgentService ς] {step : SessionStep}
    (noDrop : ∀ inUse, step ≠ .drop inUse) :
    (desk.happen step).pending ⊆ desk.pending := by
  cases step with
  | openPassive | openActive =>
      simp only [happen, openBy]
      split
      · exact List.Subset.refl _
      · split <;> exact List.Subset.refl _
  | selectEvaluator | setItemLimit | suspend | resume | stop | clear
  | viewRecord | takeResumed | close | detach =>
      exact (inSession_standing desk _).2 ▸ List.Subset.refl _
  | start kind itemLimit model =>
      simp only [happen, startRun]
      split <;> exact List.Subset.refl _
  | ask =>
      simp only [happen, askPoll]
      split
      · split <;> exact List.Subset.refl _
      · exact List.Subset.refl _
  | timerDue =>
      simp only [happen, wakeTimer]
      split
      · split
        · split <;> exact List.Subset.refl _
        · exact List.Subset.refl _
        · exact List.Subset.refl _
      · exact List.Subset.refl _
  | answer sent forTimer outcome =>
      exact (takeAnswer_standing desk sent forTimer outcome).2 ▸
        List.Subset.refl _
  | drop inUse => exact absurd rfl (noDrop inUse)
  | finishTeardown rest =>
      simp only [happen, finish]
      split
      · exact List.erase_subset
      · exact List.Subset.refl _
  | vanish => exact List.nil_subset _

/-- In a step sessions stay as they are, or the one there is ends, or one is
opened where there is none. -/
theorem happen_standing [AgentService ς] (step : SessionStep) :
    ((desk.happen step).isOpen = desk.isOpen ∧
      (desk.happen step).pending ⊆ desk.pending) ∨
    (desk.happen step).isOpen = false ∨
    (step.opens = true ∧ .whole ∉ desk.pending ∧
      (desk.happen step).pending = desk.pending) := by
  cases step with
  | openPassive | openActive =>
      simp only [happen, openBy]
      split
      · exact .inl ⟨rfl, List.Subset.refl _⟩
      next free =>
        split
        · exact .inl ⟨rfl, List.Subset.refl _⟩
        · exact .inr (.inr ⟨rfl, (not_or.mp free).2, rfl⟩)
  | selectEvaluator | setItemLimit | suspend | resume | stop | clear
  | viewRecord | takeResumed =>
      exact .inl ⟨(inSession_standing desk _).1, desk.pending_happen nofun⟩
  | start kind itemLimit model =>
      refine .inl ⟨?_, desk.pending_happen nofun⟩
      simp only [happen, startRun]
      split <;> rfl
  | ask =>
      refine .inl ⟨?_, desk.pending_happen nofun⟩
      simp only [happen, askPoll]
      split
      · split <;> rfl
      · rfl
  | timerDue =>
      refine .inl ⟨?_, desk.pending_happen nofun⟩
      simp only [happen, wakeTimer]
      split
      · split
        · split <;> rfl
        · rfl
        · rfl
      · rfl
  | answer sent forTimer outcome =>
      exact .inl ⟨(takeAnswer_standing desk sent forTimer outcome).1,
        desk.pending_happen nofun⟩
  | close | detach | vanish => exact .inr (.inl rfl)
  | drop inUse =>
      simp only [happen, dropSession]
      split
      · exact .inr (.inl rfl)
      · exact .inl ⟨rfl, List.Subset.refl _⟩
  | finishTeardown rest =>
      refine .inl ⟨?_, desk.pending_happen nofun⟩
      simp only [happen, finish]
      split <;> rfl

/-- While a session is open no other one has still to be ended. -/
def IsExclusive (desk : Desk σ ς) : Prop :=
  desk.isOpen = true → .whole ∉ desk.pending

theorem IsExclusive.step [AgentService ς] {desk : Desk σ ς}
    (exclusive : desk.IsExclusive) (moment : Moment) (step : SessionStep) :
    (desk.step moment step).IsExclusive := by
  intro isOpen isPending
  rcases (desk.atMoment moment).happen_standing step with
    ⟨sameOpen, fewer⟩ | ended | ⟨-, free, samePending⟩
  · exact exclusive (sameOpen.symm.trans isOpen) (fewer isPending)
  · rw [Desk.step, ended] at isOpen
    cases isOpen
  · rw [Desk.step, samePending] at isPending
    exact free isPending

theorem IsExclusive.after_steps [AgentService ς] {desk : Desk σ ς}
    (exclusive : desk.IsExclusive) (steps : List (Moment × SessionStep)) :
    (desk.after steps).IsExclusive := by
  induction steps generalizing desk with
  | nil => exact exclusive
  | cons next rest ih => exact ih (exclusive.step next.1 next.2)

end Standing

end Desk

end AgentPipeline
