import AgentPipeline.Model.Sync
import AgentPipeline.Proofs.Poller.Refusal
import AgentPipeline.Proofs.Service.Overheard

/-!
# What an operation asks and writes

One operation of the poller sends at most its own request, and writes at most
one dashboard, in which no run is marked as suspended by the end of a session.
-/

namespace AgentPipeline

/-! ## What reaches a service -/

namespace OverheardService

variable {ς : Type}

/-- From one state of the service to another only some requests of a list have
reached it, in their order. -/
def AsksWithin (own : List Request) (service later : OverheardService ς) :
    Prop :=
  ∃ asked, later.requests = service.requests ++ asked ∧ asked.Sublist own

theorem asksWithin_refl (own : List Request) (service : OverheardService ς) :
    AsksWithin own service service :=
  ⟨[], (List.append_nil _).symm, List.nil_sublist own⟩

theorem AsksWithin.append {first second : List Request}
    {service middle later : OverheardService ς}
    (earlier : AsksWithin first service middle)
    (further : AsksWithin second middle later) :
    AsksWithin (first ++ second) service later := by
  obtain ⟨asked, isAsked, within⟩ := earlier
  obtain ⟨others, areOthers, othersWithin⟩ := further
  refine ⟨asked ++ others, ?_, within.append othersWithin⟩
  rw [areOthers, isAsked, List.append_assoc]

theorem AsksWithin.mono {own more : List Request}
    {service later : OverheardService ς}
    (asks : AsksWithin own service later) (isPart : own.Sublist more) :
    AsksWithin more service later := by
  obtain ⟨asked, isAsked, within⟩ := asks
  exact ⟨asked, isAsked, within.trans isPart⟩

theorem asksWithin_call [DelayedService ς] {request : Request}
    {service later : OverheardService ς} {outcome : request.Outcome}
    (called : AgentService.call request service = (outcome, later)) :
    AsksWithin [request] service later := by
  obtain ⟨-, rfl⟩ := Prod.ext_iff.mp called
  exact ⟨[request], rfl, .refl _⟩

end OverheardService

open OverheardService

/-! ## The registry -/

namespace ModelRegistry

variable {σ ς : Type} [KeyValueStore σ] [DelayedService ς]

omit [KeyValueStore σ] in
theorem discover_asks (service : OverheardService ς) :
    AsksWithin [.catalog, .listModels] service (discover service).2 := by
  unfold discover
  cases first : AgentService.call .catalog service with
  | mk outcome middle =>
  have catalogAsked := asksWithin_call first
  cases outcome with
  | error error => exact catalogAsked.mono (.cons_cons _ (.cons _ .slnil))
  | ok catalog =>
  cases second : AgentService.call .listModels middle with
  | mk outcome later =>
  have bothAsked := catalogAsked.append (asksWithin_call second)
  dsimp only
  rw [second]
  cases outcome with
  | error error => exact bothAsked
  | ok models => exact bothAsked

theorem load_asks (store : σ) (service : OverheardService ς) :
    AsksWithin [.catalog, .listModels] service (load store service).2 := by
  unfold load
  split
  · exact asksWithin_refl _ service
  · exact discover_asks service

end ModelRegistry

/-! ## Operations of the poller -/

/-- No run of the dashboard is marked as suspended by the end of a session. -/
def Dashboard.IsUnmarked (dashboard : Dashboard) : Prop :=
  ∀ run, dashboard.run = some run → run.autoSuspended = false

/-- A dashboard was written over a store, and the reaction fails only if that
failed. -/
structure Reaction.Puts {σ α : Type} [KeyValueStore σ]
    (reaction : Reaction σ α) (base : σ) (dashboard : Dashboard) :
    Prop where
  store : reaction.poller.store =
    (KeyValueStore.write base StoreKey.dashboard.name dashboard.encode).2
  failure : ∀ error, reaction.result = .error error → ∃ cause,
    error = .storage cause ∧
      (KeyValueStore.write base StoreKey.dashboard.name
        dashboard.encode).1 = .error cause

/-- The reaction leaves the poller as it was, or has written one dashboard, in
which no run is marked. -/
inductive Reaction.Settles {σ α : Type} [KeyValueStore σ]
    (reaction : Reaction σ α) (poller : Poller σ) : Prop where
  | left (same : reaction.poller = poller)
  | put (dashboard : Dashboard) (unmarked : dashboard.IsUnmarked)
      (puts : reaction.Puts poller.store dashboard)

theorem Reaction.Settles.forget {σ α : Type} [KeyValueStore σ]
    {reaction : Reaction σ α} {poller : Poller σ}
    (settles : reaction.Settles poller) : reaction.forget.Settles poller := by
  cases settles with
  | left same => exact .left same
  | put dashboard unmarked puts =>
      exact .put dashboard unmarked ⟨puts.store, fun error failed =>
        puts.failure error (forget_eq_error failed)⟩

namespace Poller

variable {σ ς α : Type} [KeyValueStore σ]

theorem commit_settles {poller timed : Poller σ}
    (sameStore : timed.store = poller.store) {dashboard : Dashboard}
    (unmarked : dashboard.IsUnmarked) {goOn : Poller σ → Reaction σ α}
    (goesOn : ∀ written, (goOn written).poller.store = written.store ∧
      (goOn written).result.isOk = true) :
    (timed.commit dashboard goOn).Settles poller := by
  refine .put dashboard unmarked ?_
  rw [← sameStore]
  unfold commit write
  cases written : KeyValueStore.write timed.store StoreKey.dashboard.name
      dashboard.encode with
  | mk outcome store =>
  cases outcome with
  | ok done =>
      obtain ⟨isStore, isOk⟩ := goesOn { timed with store, dashboard }
      refine ⟨isStore.trans (congrArg Prod.snd written).symm, ?_⟩
      intro error failed
      dsimp only at failed
      rw [failed] at isOk
      cases isOk
  | error cause =>
      refine ⟨(congrArg Prod.snd written).symm, ?_⟩
      rintro _ ⟨⟩
      exact ⟨cause, rfl, congrArg Prod.fst written⟩

theorem settles_after {reaction : Reaction σ α} {poller : Poller σ}
    (effects : List PollerEffect) (settles : reaction.Settles poller) :
    (reaction.after effects).Settles poller := by
  cases settles with
  | left same => exact .left same
  | put dashboard unmarked puts =>
      exact .put dashboard unmarked ⟨puts.store, puts.failure⟩

omit [KeyValueStore σ] in
theorem isUnmarked_become (dashboard : Dashboard) (run : EvaluatorRun)
    (status : EvaluatorStatus) (now : Timestamp) :
    Dashboard.IsUnmarked
      { dashboard with run := some (run.become status false now) } := by
  rintro _ ⟨⟩
  rfl

section Settling

variable [AgentService ς] (poller : Poller σ)

theorem start_settles (kind : String) (itemLimit : UInt32)
    (model : Option ModelConfig) (service : ς) :
    (poller.start kind itemLimit model service).1.Settles poller := by
  unfold start
  split
  · exact .left rfl
  split
  · exact .left rfl
  split
  · exact .left rfl
  next chosen _ =>
    dsimp only
    apply settles_after
    cases AgentService.call
        (.startEvaluator ⟨kind, itemLimit, some chosen⟩) service with
    | mk outcome service =>
    cases outcome with
    | error error => exact .left rfl
    | ok started =>
        obtain ⟨timed, isRead, -, sameStore, -⟩ := poller.readClock_eq
        rw [isRead]
        refine commit_settles sameStore ?_ fun _ => ?_
        · rintro _ ⟨⟩
          rfl
        · exact ⟨rfl, rfl⟩

variable {poller} in
/-- A start that fails starts no timer. -/
theorem timer_of_start_failed {kind : String} {itemLimit : UInt32}
    {model : Option ModelConfig} {service : ς} {error : EvaluatorError}
    (failed : (poller.start kind itemLimit model service).1.result =
      .error error) :
    (poller.start kind itemLimit model service).1.poller.timer =
      poller.timer := by
  cases isStorage : error.isStorage with
  | false =>
      rw [(poller.start_failsCleanly kind itemLimit model service error
        failed isStorage).1]
  | true =>
      cases error <;> cases isStorage
      exact (PollerCall.start_failsToWrite failed).timer

theorem suspend_settles (silent : Bool) (service : ς) :
    (poller.suspend silent service).1.Settles poller := by
  cases found : poller.running? with
  | none =>
      simp only [suspend, found]
      exact .left rfl
  | some run =>
      obtain ⟨timed, isRead, -, sameStore, -⟩ :=
        poller.stopTimer.readClock_eq
      have isStore := sameStore.trans poller.stopTimer_same.2
      rw [suspend_eq_commit found, isRead]
      refine commit_settles isStore ?_ fun _ => ?_
      · exact isUnmarked_become _ run _ _
      · exact ⟨rfl, rfl⟩

theorem stop_settles (service : ς) :
    (poller.stop service).1.Settles poller := by
  unfold stop
  split
  · exact .left rfl
  split
  · exact .left rfl
  next run _ _ =>
    dsimp only
    apply settles_after
    cases control run.id .stop service with
    | mk outcome service =>
    cases outcome with
    | error error => exact .left rfl
    | ok done =>
        obtain ⟨timed, isRead, -, sameStore, -⟩ :=
          poller.stopTimer.readClock_eq
        have isStore := sameStore.trans poller.stopTimer_same.2
        rw [isRead]
        refine commit_settles isStore ?_ fun _ => ?_
        · exact isUnmarked_become _ run _ _
        · exact ⟨rfl, rfl⟩

omit [KeyValueStore σ] in
/-- To look at a record changes nothing. -/
theorem viewRecord_poller (index : UInt32) (service : ς) :
    (poller.viewRecord index service).1.poller = poller := by
  unfold viewRecord
  split
  · rfl
  split
  · rfl
  next run _ _ =>
    dsimp only
    cases AgentService.call (.fetchRecord run.id index) service with
    | mk outcome service => cases outcome <;> rfl

omit [AgentService ς] in
theorem clear_settles : poller.clear.Settles poller := by
  unfold clear
  split
  · exact .left rfl
  · refine commit_settles poller.stopTimer_same.2 ?_ fun _ => ?_
    · rintro _ ⟨⟩
    · exact ⟨rfl, rfl⟩

end Settling

section Asking

variable [DelayedService ς] (poller : Poller σ) (service : OverheardService ς)

theorem start_asksWithin (kind : String) (itemLimit : UInt32)
    (model : Option ModelConfig) :
    AsksWithin [.startEvaluator ⟨kind, itemLimit, model⟩] service
      (poller.start kind itemLimit model service).2 := by
  unfold start
  split
  · exact asksWithin_refl _ service
  split
  · exact asksWithin_refl _ service
  split
  · exact asksWithin_refl _ service
  · exact asksWithin_call rfl

omit [KeyValueStore σ] in
/-- The request for a run is one for the run of the poller. -/
private theorem asksWithin_ofRun {run : EvaluatorRun}
    (isRun : poller.run? = some run) (request : EvaluatorRun → Request) :
    AsksWithin (poller.dashboard.run.toList.map request) service
      (AgentService.call (request run) service).2 := by
  rw [show poller.dashboard.run = some run from isRun]
  exact asksWithin_call rfl

theorem suspend_asksWithin (silent : Bool) :
    AsksWithin (poller.dashboard.run.toList.map fun run =>
        .control run.id .suspend) service
      (poller.suspend silent service).2 := by
  unfold suspend
  split
  · exact asksWithin_refl _ service
  next run found =>
    dsimp only
    split
    · exact asksWithin_refl _ service
    · exact poller.asksWithin_ofRun service (running?_eq_some found).1
        fun run => .control run.id .suspend

theorem stop_asksWithin :
    AsksWithin (poller.dashboard.run.toList.map fun run =>
      .control run.id .stop) service (poller.stop service).2 := by
  unfold stop
  split
  · exact asksWithin_refl _ service
  next run isRun =>
    split
    · exact asksWithin_refl _ service
    · exact poller.asksWithin_ofRun service isRun
        fun run => .control run.id .stop

omit [KeyValueStore σ] in
theorem viewRecord_asksWithin (index : UInt32) :
    AsksWithin (poller.dashboard.run.toList.map fun run =>
      .fetchRecord run.id index) service
      (poller.viewRecord index service).2 := by
  unfold viewRecord
  split
  · exact asksWithin_refl _ service
  next run isRun =>
    split
    · exact asksWithin_refl _ service
    · exact poller.asksWithin_ofRun service isRun
        fun run => .fetchRecord run.id index

end Asking

end Poller

end AgentPipeline
