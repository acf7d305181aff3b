import AgentPipeline.Proofs.Evaluation.TakeOver
import AgentPipeline.Proofs.Poller.Session
import AgentPipeline.Proofs.Store.Durable

/-!
# Changes that could not be written

Every operation takes its change over into memory and then writes it, and none
takes it back.  So when the write fails, memory is ahead of the store by this
one change, and it is the change that is in memory which decides what comes of
the same call when it is made again.
-/

namespace AgentPipeline

/-- A call of an operation that writes the dashboard.  A poll writes when its
answer is handled. -/
inductive PollerCall where
  | selectEvaluator (kind : String)
  | setItemLimit (kind : String) (limit : UInt32)
  | start (kind : String) (itemLimit : UInt32) (model : Option ModelConfig)
  | poll (sent : Poll) (outcome : Except ServiceError RunSnapshot)
  | suspend (silent : Bool)
  | resume
  | stop
  | clear

/-- The reaction without the value that is returned. -/
def Reaction.forget {σ α : Type} (reaction : Reaction σ α) :
    Reaction σ Unit where
  poller := reaction.poller
  effects := reaction.effects
  result := reaction.result.map fun _ => ()

theorem forget_eq_error {σ α : Type} {reaction : Reaction σ α}
    {error : EvaluatorError}
    (failed : reaction.forget.result = .error error) :
    reaction.result = .error error := by
  unfold Reaction.forget at failed
  cases outcome : reaction.result with
  | ok value =>
      rw [outcome] at failed
      cases failed
  | error other =>
      rw [outcome] at failed
      cases failed
      rfl

/-- The poller over another store. -/
def Poller.onStore {σ τ : Type} (poller : Poller σ) (store : τ) :
    Poller τ where
  store
  supply := poller.supply
  interval := poller.interval
  clock := poller.clock
  dashboard := poller.dashboard
  timer := poller.timer
  resumed := poller.resumed

namespace PollerCall

/-- Such an operation stops the timer before it writes. -/
def stopsTimer : PollerCall → Bool
  | .suspend _ | .stop | .clear => true
  | .selectEvaluator _ | .setItemLimit .. | .start .. | .poll .. | .resume =>
      false

variable {σ ς : Type} [KeyValueStore σ] [AgentService ς]

def perform (call : PollerCall) (poller : Poller σ) (service : ς) :
    Reaction σ Unit × ς :=
  match call with
  | .selectEvaluator kind => (poller.selectEvaluator kind, service)
  | .setItemLimit kind limit => (poller.setItemLimit kind limit, service)
  | .start kind itemLimit model =>
      let (reaction, service) := poller.start kind itemLimit model service
      (reaction.forget, service)
  | .poll sent outcome => ((poller.handleAnswer sent outcome).forget, service)
  | .suspend silent =>
      let (reaction, service) := poller.suspend silent service
      (reaction.forget, service)
  | .resume => poller.resume service
  | .stop => poller.stop service
  | .clear => (poller.clear.forget, service)

omit [KeyValueStore σ] in
/-- What the service is asked before the dashboard is written.  A poll was
sent before, and a suspension is asked for afterwards. -/
def request? (call : PollerCall) (poller : Poller σ) : Option Request :=
  match call with
  | .start kind itemLimit model =>
      some (.startEvaluator ⟨kind, itemLimit, model⟩)
  | .resume => poller.run?.map fun run => .control run.id .resume
  | .stop => poller.run?.map fun run => .control run.id .stop
  | .selectEvaluator _ | .setItemLimit .. | .poll .. | .suspend _ | .clear =>
      none

/-- What comes of a call that is made again while its change is in memory.
Preferences and the clearing of a run are written once more, a poll goes on
from the cursor of the answer while the run is running, and everything else
is refused. -/
def Repeats (call : PollerCall) (poller : Poller σ) (service : ς) : Prop :=
  match call with
  | .selectEvaluator kind =>
      poller.selectEvaluator kind =
        poller.commit poller.dashboard fun written => written.answer [] ()
  | .setItemLimit kind limit =>
      poller.setItemLimit kind limit =
        poller.commit poller.dashboard fun written => written.answer [] ()
  | .clear =>
      poller.clear =
        poller.stopTimer.commit poller.dashboard fun written =>
          written.answer [] none
  | .poll sent outcome =>
      ∃ snapshot, outcome = .ok snapshot ∧
        poller.nextPoll =
          if snapshot.status.isTerminal ∨ snapshot.status = .suspended then
            .error .notRunning
          else .ok ⟨sent.run, snapshot.cursor⟩
  | .start kind itemLimit model =>
      poller.start kind itemLimit model service =
        (poller.fail .runAlreadyActive, service)
  | .suspend silent =>
      poller.suspend silent service = (poller.answer [] false, service)
  | .resume => poller.resume service = (poller.fail .notSuspended, service)
  | .stop => poller.stop service = (poller.fail .notRunning, service)

/-- The dashboards that a call may come to write. -/
inductive Writes (poller : Poller σ) : PollerCall → Dashboard → Prop where
  | selectEvaluator (kind : String) :
      Writes poller (.selectEvaluator kind)
        { poller.dashboard with selected := some kind }
  | setItemLimit (kind : String) (limit : UInt32) :
      Writes poller (.setItemLimit kind limit)
        { poller.dashboard with
          itemLimits := poller.dashboard.itemLimits.insert kind limit }
  | start {kind : String} (isNamed : ¬Text.isBlankText kind)
      (itemLimit : UInt32) (model : ModelConfig) (id : String) :
      Writes poller (.start kind itemLimit (some model))
        (Poller.withStarted poller.dashboard
          (.start kind id itemLimit (some model.model) poller.supply.now))
  | poll {sent : Poll} {snapshot : RunSnapshot} {run reached : EvaluatorRun}
      {outcome : PollOutcome} (isRun : run.id = sent.run)
      (running : run.status = .running)
      (taken : run.takeOver snapshot poller.supply.now =
        .ok (outcome, reached)) :
      Writes poller (.poll sent (.ok snapshot))
        { poller.dashboard with run := some reached }
  | suspend (run : EvaluatorRun) (silent : Bool) :
      Writes poller (.suspend silent)
        { poller.dashboard with
          run := some (run.become .suspended false poller.supply.now) }
  | resume (run : EvaluatorRun) :
      Writes poller .resume
        { poller.dashboard with
          run := some (run.become .running false poller.supply.now) }
  | stop (run : EvaluatorRun) :
      Writes poller .stop
        { poller.dashboard with
          run := some (run.become .cancelled false poller.supply.now) }
  | clear : Writes poller .clear { poller.dashboard with run := none }

omit [KeyValueStore σ] in
/-- Whatever a call has come to write decides what comes of it when it is made
again, over any store and whatever the service would answer. -/
theorem Writes.repeats {poller : Poller σ} {call : PollerCall}
    {dashboard : Dashboard} (writes : call.Writes poller dashboard)
    {τ : Type} [KeyValueStore τ] {later : Poller τ}
    (same : later.dashboard = dashboard) (service : ς) :
    call.Repeats later service := by
  cases writes with
  | selectEvaluator kind =>
      simp only [Repeats, Poller.selectEvaluator, same]
  | setItemLimit kind limit =>
      simp only [Repeats, Poller.setItemLimit, same, SortedMap.insert_insert]
  | start isNamed itemLimit model id =>
      have busy : later.isBusy = true := by
        simp only [Poller.isBusy, Poller.run?, same, Poller.withStarted]
        rfl
      simp only [Repeats, Poller.start, isNamed, busy]
      rfl
  | @poll sent snapshot run reached outcome isRun running taken =>
      refine ⟨snapshot, rfl, ?_⟩
      obtain ⟨readToEnd, standing⟩ := EvaluatorRun.takeOver_standing taken
      have sameId := (EvaluatorRun.takeOver_eq_ok taken).id
      simp only [Poller.nextPoll, Poller.run?, same, standing, running,
        readToEnd, sameId, isRun]
      split
      next ends =>
        have notRunning : snapshot.status ≠ .running := by
          rintro isRunning
          rw [isRunning] at ends
          rcases ends with isTerminal | isSuspended
          · cases isTerminal
          · cases isSuspended
        rw [if_neg notRunning]
      · rw [if_pos rfl]
  | suspend run silent =>
      have none : later.running? = none := by
        simp [Poller.running?, Poller.run?, same, EvaluatorRun.become]
      simp only [Repeats, Poller.suspend, none]
  | resume run =>
      simp [Repeats, Poller.resume, Poller.run?, same, EvaluatorRun.become]
  | stop run =>
      simp [Repeats, Poller.stop, Poller.run?, same, EvaluatorRun.become,
        EvaluatorStatus.isLive]
  | clear =>
      simp [Repeats, Poller.clear, Poller.isBusy, Poller.run?, same,
        Poller.stopTimer]

end PollerCall

namespace Poller

variable {σ ς α : Type} [KeyValueStore σ] [AgentService ς]

omit [KeyValueStore σ] in
/-- Reading the clock changes nothing but the time. -/
theorem readClock_eq (poller : Poller σ) :
    ∃ timed, poller.readClock = (poller.supply.now, timed) ∧
      timed.dashboard = poller.dashboard ∧ timed.store = poller.store ∧
      timed.timer = poller.timer := by
  refine ⟨poller.readClock.2, ?_⟩
  simp only [readClock, Supply.tick, and_self]

/-- The service is asked only once the suspension is written. -/
theorem suspend_eq_commit {poller : Poller σ} {run : EvaluatorRun}
    (found : poller.running? = some run) (silent : Bool) (service : ς) :
    (poller.suspend silent service).1 =
      poller.stopTimer.readClock.2.commit
        { poller.dashboard with
          run := some (run.become .suspended false poller.supply.now) }
        fun written => written.answer
          [.announce (.evaluatorStatusChanged run.id .suspended (!silent)),
            .call (.control run.id .suspend)] true := by
  obtain ⟨timed, isRead, sameDashboard, -, -⟩ :=
    poller.stopTimer.readClock_eq
  simp only [suspend, found, isRead, sameDashboard, commit]
  dsimp only [stopTimer]
  split
  next written => rw [written]
  next written => rw [written]

section OnStore

variable {τ : Type} [KeyValueStore τ] (poller : Poller σ) (other : τ)

theorem start_dashboard_onStore (kind : String) (itemLimit : UInt32)
    (model : Option ModelConfig) (service : ς) :
    ((poller.onStore other).start kind itemLimit model
        service).1.poller.dashboard =
      (poller.start kind itemLimit model service).1.poller.dashboard := by
  unfold start
  split
  · rfl
  split
  · rfl
  next chosen =>
    have sameBusy : (poller.onStore other).isBusy = poller.isBusy := rfl
    rw [sameBusy]
    split
    · rfl
    · dsimp only
      cases AgentService.call
          (.startEvaluator ⟨kind, itemLimit, some chosen⟩) service with
      | mk outcome service =>
          cases outcome with
          | error error => rfl
          | ok started =>
              simp only [Reaction.after]
              rw [commit_dashboard _ _ fun _ => rfl,
                commit_dashboard _ _ fun _ => rfl]
              rfl

theorem handleAnswer_dashboard_onStore (sent : Poll)
    (outcome : Except ServiceError RunSnapshot) :
    ((poller.onStore other).handleAnswer sent outcome).poller.dashboard =
      (poller.handleAnswer sent outcome).poller.dashboard := by
  cases outcome with
  | error error => rfl
  | ok snapshot =>
      have sameRun :
          (poller.onStore other).polledRun? sent = poller.polledRun? sent :=
        rfl
      simp only [handleAnswer, handleSnapshot]
      rw [sameRun]
      split
      · rfl
      next run _ =>
        simp only [readClock, Supply.tick, onStore]
        split
        · rfl
        · rw [commit_dashboard _ _ fun _ => rfl,
            commit_dashboard _ _ fun _ => rfl]

theorem suspend_dashboard_onStore (silent : Bool) (service : ς) :
    ((poller.onStore other).suspend silent service).1.poller.dashboard =
      (poller.suspend silent service).1.poller.dashboard := by
  cases found : poller.running? with
  | none =>
      have foundThere : (poller.onStore other).running? = none := found
      simp only [suspend, found, foundThere]
      rfl
  | some run =>
      have foundThere : (poller.onStore other).running? = some run := found
      rw [suspend_poller _ found, suspend_poller _ foundThere]
      rfl

theorem resume_dashboard_onStore (service : ς) :
    ((poller.onStore other).resume service).1.poller.dashboard =
      (poller.resume service).1.poller.dashboard := by
  have sameRun : (poller.onStore other).run? = poller.run? := rfl
  unfold resume
  rw [sameRun]
  split
  · rfl
  next run _ =>
    split
    · rfl
    · dsimp only
      cases control run.id .resume service with
      | mk outcome service =>
          cases outcome with
          | error error => rfl
          | ok done =>
              simp only [Reaction.after]
              rw [commit_dashboard _ _ fun _ => rfl,
                commit_dashboard _ _ fun _ => rfl]
              rfl

theorem stop_dashboard_onStore (service : ς) :
    ((poller.onStore other).stop service).1.poller.dashboard =
      (poller.stop service).1.poller.dashboard := by
  have sameRun : (poller.onStore other).run? = poller.run? := rfl
  unfold stop
  rw [sameRun]
  split
  · rfl
  next run _ =>
    split
    · rfl
    · dsimp only
      cases control run.id .stop service with
      | mk outcome service =>
          cases outcome with
          | error error => rfl
          | ok done =>
              simp only [Reaction.after]
              rw [commit_dashboard _ _ fun _ => rfl,
                commit_dashboard _ _ fun _ => rfl]
              rfl

theorem clear_dashboard_onStore :
    (poller.onStore other).clear.poller.dashboard =
      poller.clear.poller.dashboard := by
  have sameBusy : (poller.onStore other).isBusy = poller.isBusy := rfl
  unfold clear
  rw [sameBusy]
  split
  · rfl
  · rw [commit_dashboard _ _ fun _ => rfl, commit_dashboard _ _ fun _ => rfl]
    rfl

end OnStore

end Poller

namespace PollerCall

variable {σ ς : Type} [KeyValueStore σ] [AgentService ς]

/-- What a call leaves in memory does not depend on the store. -/
theorem perform_dashboard_onStore {τ : Type} [KeyValueStore τ]
    (call : PollerCall) (poller : Poller σ) (other : τ) (service : ς) :
    (call.perform (poller.onStore other) service).1.poller.dashboard =
      (call.perform poller service).1.poller.dashboard := by
  cases call with
  | selectEvaluator kind =>
      exact (Poller.commit_dashboard _ _ fun _ => rfl).trans
        (Poller.commit_dashboard _ _ fun _ => rfl).symm
  | setItemLimit kind limit =>
      exact (Poller.commit_dashboard _ _ fun _ => rfl).trans
        (Poller.commit_dashboard _ _ fun _ => rfl).symm
  | start kind itemLimit model =>
      exact poller.start_dashboard_onStore other kind itemLimit model service
  | poll sent outcome =>
      exact poller.handleAnswer_dashboard_onStore other sent outcome
  | suspend silent =>
      exact poller.suspend_dashboard_onStore other silent service
  | resume => exact poller.resume_dashboard_onStore other service
  | stop => exact poller.stop_dashboard_onStore other service
  | clear => exact poller.clear_dashboard_onStore other

/-- The dashboard that a call has come to write is in memory and nowhere
else. -/
structure FailsToWrite {α : Type} (call : PollerCall) (poller : Poller σ)
    (error : StorageError) (reaction : Reaction σ α) : Prop where
  writes : call.Writes poller reaction.poller.dashboard
  written : KeyValueStore.write poller.store StoreKey.dashboard.name
    reaction.poller.dashboard.encode = (.error error, reaction.poller.store)
  effects : reaction.effects = (call.request? poller).toList.map .call
  timer : reaction.poller.timer =
    if call.stopsTimer then .off else poller.timer

theorem commit_failsToWrite {α : Type} (call : PollerCall)
    (poller : Poller σ) {timed : Poller σ}
    (sameStore : timed.store = poller.store)
    (isTimer : timed.timer = if call.stopsTimer then .off else poller.timer)
    {asked : List PollerEffect}
    (isAsked : asked = (call.request? poller).toList.map .call)
    {dashboard : Dashboard} (writes : call.Writes poller dashboard)
    {goOn : Poller σ → Reaction σ α}
    (goesOn : ∀ written, (goOn written).result.isOk = true)
    {error : StorageError}
    (failed : (timed.commit dashboard goOn).result =
      .error (.storage error)) :
    call.FailsToWrite poller error
      ((timed.commit dashboard goOn).after asked) := by
  unfold Poller.commit Poller.write at failed ⊢
  rw [sameStore] at failed ⊢
  cases written : KeyValueStore.write poller.store StoreKey.dashboard.name
      dashboard.encode with
  | mk outcome store =>
      cases outcome with
      | ok done =>
          simp only [written] at failed
          have isOk := goesOn { timed with store, dashboard }
          rw [failed] at isOk
          cases isOk
      | error cause =>
          simp only [written, Poller.fail] at failed ⊢
          cases failed
          exact {
            writes
            written
            effects := by simpa [Reaction.after] using isAsked
            timer := isTimer }

section Operations

variable {poller : Poller σ} {service : ς} {error : StorageError}

theorem start_failsToWrite {kind : String} {itemLimit : UInt32}
    {model : Option ModelConfig}
    (failed : (poller.start kind itemLimit model service).1.result =
      .error (.storage error)) :
    FailsToWrite (.start kind itemLimit model) poller error
      (poller.start kind itemLimit model service).1 := by
  unfold Poller.start at failed ⊢
  split at failed
  · cases failed
  next isNamed =>
    rw [if_neg isNamed]
    split at failed
    · cases failed
    next chosen =>
      dsimp only at failed ⊢
      split at failed
      · cases failed
      next free =>
        rw [if_neg free]
        dsimp only at failed ⊢
        cases answered : AgentService.call
            (.startEvaluator ⟨kind, itemLimit, some chosen⟩) service with
        | mk outcome service =>
            rw [answered] at failed
            cases outcome with
            | error error => cases failed
            | ok started =>
                obtain ⟨timed, isRead, sameDashboard, sameStore, sameTimer⟩ :=
                  poller.readClock_eq
                dsimp only at failed ⊢
                rw [isRead] at failed ⊢
                dsimp only at failed ⊢
                rw [sameDashboard] at failed ⊢
                exact commit_failsToWrite
                  (.start kind itemLimit (some chosen)) poller sameStore
                  sameTimer rfl (.start isNamed itemLimit chosen started.id)
                  (fun _ => rfl) failed

omit [AgentService ς] in
theorem handleAnswer_failsToWrite {sent : Poll}
    {outcome : Except ServiceError RunSnapshot}
    (failed : (poller.handleAnswer sent outcome).result =
      .error (.storage error)) :
    FailsToWrite (.poll sent outcome) poller error
      (poller.handleAnswer sent outcome) := by
  cases outcome with
  | error error => cases failed
  | ok snapshot =>
      cases found : poller.polledRun? sent with
      | none =>
          simp only [Poller.handleAnswer, Poller.handleSnapshot, found]
            at failed
          cases failed
      | some run =>
          obtain ⟨-, polled, running⟩ := Poller.polledRun?_eq_some found
          obtain ⟨timed, isRead, sameDashboard, sameStore, sameTimer⟩ :=
            poller.readClock_eq
          simp only [Poller.handleAnswer, Poller.handleSnapshot, found,
            isRead, sameDashboard] at failed ⊢
          cases taken : run.takeOver snapshot poller.supply.now with
          | error rejection =>
              rw [(EvaluatorRun.takeOver_eq_error taken).1] at taken
              rw [taken] at failed
              cases failed
          | ok reached =>
              rw [taken] at failed
              exact commit_failsToWrite (.poll sent (.ok snapshot)) poller
                sameStore
                sameTimer rfl (.poll polled running taken) (fun _ => rfl)
                failed

theorem suspend_failsToWrite {silent : Bool}
    (failed : (poller.suspend silent service).1.result =
      .error (.storage error)) :
    FailsToWrite (.suspend silent) poller error
      (poller.suspend silent service).1 := by
  cases found : poller.running? with
  | none =>
      simp only [Poller.suspend, found] at failed
      cases failed
  | some run =>
      obtain ⟨timed, isRead, sameDashboard, sameStore, sameTimer⟩ :=
        poller.stopTimer.readClock_eq
      rw [Poller.suspend_eq_commit found, isRead] at failed ⊢
      exact commit_failsToWrite (.suspend silent) poller sameStore sameTimer
        rfl (.suspend run silent) (fun _ => rfl) failed

theorem resume_failsToWrite
    (failed : (poller.resume service).1.result = .error (.storage error)) :
    FailsToWrite .resume poller error (poller.resume service).1 := by
  unfold Poller.resume at failed ⊢
  split at failed
  · cases failed
  next run present =>
    dsimp only at failed ⊢
    split at failed
    · cases failed
    next suspended =>
      rw [if_neg suspended]
      dsimp only at failed ⊢
      cases answered : Poller.control run.id .resume service with
      | mk outcome service =>
          rw [answered] at failed
          cases outcome with
          | error error => cases failed
          | ok done =>
              obtain ⟨timed, isRead, sameDashboard, sameStore, sameTimer⟩ :=
                poller.readClock_eq
              dsimp only at failed ⊢
              rw [isRead] at failed ⊢
              dsimp only at failed ⊢
              rw [sameDashboard] at failed ⊢
              refine commit_failsToWrite .resume poller sameStore sameTimer ?_
                (.resume run) (fun _ => rfl) failed
              simp only [request?, present]
              rfl

theorem stop_failsToWrite
    (failed : (poller.stop service).1.result = .error (.storage error)) :
    FailsToWrite .stop poller error (poller.stop service).1 := by
  unfold Poller.stop at failed ⊢
  split at failed
  · cases failed
  next run present =>
    dsimp only at failed ⊢
    split at failed
    · cases failed
    next live =>
      rw [if_neg live]
      dsimp only at failed ⊢
      cases answered : Poller.control run.id .stop service with
      | mk outcome service =>
          rw [answered] at failed
          cases outcome with
          | error error => cases failed
          | ok done =>
              obtain ⟨timed, isRead, sameDashboard, sameStore, sameTimer⟩ :=
                poller.stopTimer.readClock_eq
              dsimp only at failed ⊢
              rw [isRead] at failed ⊢
              dsimp only at failed ⊢
              rw [sameDashboard] at failed ⊢
              refine commit_failsToWrite .stop poller sameStore sameTimer ?_
                (.stop run) (fun _ => rfl) failed
              simp only [request?, present]
              rfl

omit [AgentService ς] in
theorem clear_failsToWrite
    (failed : poller.clear.result = .error (.storage error)) :
    FailsToWrite .clear poller error poller.clear := by
  unfold Poller.clear at failed ⊢
  split at failed
  · cases failed
  next free =>
    rw [if_neg free]
    exact commit_failsToWrite .clear poller poller.stopTimer_same.2 rfl rfl
      .clear (fun _ => rfl) failed

end Operations

theorem forget_failsToWrite {α : Type} {call : PollerCall}
    {poller : Poller σ} {error : StorageError} {reaction : Reaction σ α}
    (fails : call.FailsToWrite poller error reaction) :
    call.FailsToWrite poller error reaction.forget :=
  ⟨fails.writes, fails.written, fails.effects, fails.timer⟩

/-- Every storage error is that of the one write of the call. -/
theorem perform_failsToWrite {call : PollerCall} {poller : Poller σ}
    {service : ς} {error : StorageError}
    (failed : (call.perform poller service).1.result =
      .error (.storage error)) :
    call.FailsToWrite poller error (call.perform poller service).1 := by
  cases call with
  | selectEvaluator kind =>
      exact commit_failsToWrite (.selectEvaluator kind) poller rfl rfl rfl
        (.selectEvaluator kind) (fun _ => rfl) failed
  | setItemLimit kind limit =>
      exact commit_failsToWrite (.setItemLimit kind limit) poller rfl rfl rfl
        (.setItemLimit kind limit) (fun _ => rfl) failed
  | start kind itemLimit model =>
      exact forget_failsToWrite (start_failsToWrite (forget_eq_error failed))
  | poll sent outcome =>
      exact forget_failsToWrite
        (handleAnswer_failsToWrite (forget_eq_error failed))
  | suspend silent =>
      exact forget_failsToWrite
        (suspend_failsToWrite (forget_eq_error failed))
  | resume => exact resume_failsToWrite failed
  | stop => exact stop_failsToWrite failed
  | clear =>
      exact forget_failsToWrite (clear_failsToWrite (forget_eq_error failed))

/-- What is left behind by a call whose change could not be written. -/
structure LeavesAhead (call : PollerCall) (poller : Poller σ) (service : ς)
    (error : StorageError) (reaction : Reaction σ Unit) : Prop where
  /-- There was one write, of the dashboard that is now in memory. -/
  written : KeyValueStore.write poller.store StoreKey.dashboard.name
    reaction.poller.dashboard.encode = (.error error, reaction.poller.store)
  stored {holds : σ → String → Option String}
    (durable : KeyValueStore.Durable holds) :
    holds reaction.poller.store = holds poller.store
  /-- Memory is as the call leaves it over any other store, one that does not
  fail for instance. -/
  dashboard {τ : Type} [KeyValueStore τ] (other : τ) :
    reaction.poller.dashboard =
      (call.perform (poller.onStore other) service).1.poller.dashboard
  /-- Nothing is announced. -/
  effects : reaction.effects = (call.request? poller).toList.map .call
  timer : reaction.poller.timer =
    if call.stopsTimer then .off else poller.timer
  /-- The timer goes on if it was the one that polled. -/
  goesOn {sent : Poll} {outcome : Except ServiceError RunSnapshot}
    (isPoll : call = .poll sent outcome) :
    (poller.handleTimerAnswer sent outcome).poller.isPolling = true
  repeats {τ : Type} [KeyValueStore τ] {later : Poller τ}
    (same : later.dashboard = reaction.poller.dashboard) (service : ς) :
    call.Repeats later service

/-- A call that ends with a storage error leaves memory as if the change had
been written, and the store without the change.  This holds in every state,
and whatever else happened between a poll and its answer. -/
theorem leavesAhead_of_storage {call : PollerCall} {poller : Poller σ}
    {service : ς} {error : StorageError}
    (failed : (call.perform poller service).1.result =
      .error (.storage error)) :
    call.LeavesAhead poller service error (call.perform poller service).1 := by
  have fails := perform_failsToWrite failed
  refine {
    written := fails.written
    stored := ?stored
    dashboard := fun other =>
      (call.perform_dashboard_onStore poller other service).symm
    effects := fails.effects
    timer := fails.timer
    goesOn := ?goesOn
    repeats := fun same service => fails.writes.repeats same service }
  case stored =>
    intro holds durable
    have notSet : (KeyValueStore.set poller.store StoreKey.dashboard.name
        (call.perform poller service).1.poller.dashboard.encode.text).1 =
          .error error := congrArg Prod.fst fails.written
    have same := durable.set_error notSet
    have after := congrArg Prod.snd fails.written
    dsimp only [KeyValueStore.write] at after
    rwa [after] at same
  case goesOn =>
    intro sent outcome isPoll
    subst isPoll
    have result := forget_eq_error failed
    simp only [Poller.handleTimerAnswer, result]
    rfl

/-- A desk over a store whose second write fails. -/
def ofOneWrite : Desk FlakyStore RecordedService :=
  .new ⟨.empty, [true, false]⟩ Desk.oneRun ⟨0, 0, ⟨0, 0⟩⟩ 600

/-- The suspension of a run that is polled, when it cannot be written. -/
theorem leavesAhead_suspension :
    let desk := ofOneWrite.after Desk.beginning
    let suspension := (suspend false).perform desk.poller desk.service
    let error := StorageError.io StoreKey.dashboard.name StoreFaults.cause
    suspension.1.result = .error (.storage error) ∧
      (suspend false).LeavesAhead desk.poller desk.service error
        suspension.1 := by
  have failed : ((suspend false).perform (ofOneWrite.after
      Desk.beginning).poller (ofOneWrite.after
        Desk.beginning).service).1.result =
      .error (.storage (.io StoreKey.dashboard.name StoreFaults.cause)) := by
    decide +kernel
  exact ⟨failed, leavesAhead_of_storage failed⟩

/-- Nothing is taken back: the run stays suspended in memory, its timer has
been stopped, and to suspend it again does nothing. -/
theorem not_taken_back :
    let desk := ofOneWrite.after Desk.beginning
    let suspension := desk.poller.suspend false desk.service
    suspension.1.result =
        .error (.storage (.io StoreKey.dashboard.name StoreFaults.cause)) ∧
      suspension.1.poller.dashboard ≠ desk.poller.dashboard ∧
      desk.poller.isPolling = true ∧
      suspension.1.poller.isPolling = false ∧
      (suspension.1.poller.suspend false suspension.2).1.result =
        .ok false := by
  decide +kernel

end PollerCall

end AgentPipeline
