import AgentPipeline.Proofs.Poller.Move
import AgentPipeline.Proofs.Timestamp.Print
import AgentPipeline.Service.Recording
import AgentPipeline.Store.Memory

/-!
# Desks

A desk is a store with the sessions over it, one at a time, and the polls that
were sent from it.  A session that was dropped while its dashboard was in use
lasts until its run has been suspended.  The answer to a poll may come at any
later moment, however often and in whichever order, and while it is on its way
anything else may happen.  What the service answers is left open: it is a state
of its own, and the outcome of a poll is part of the step that brings it.
-/

namespace AgentPipeline

structure Moment where
  now : Timestamp
  /-- The time has a name with which it is written. -/
  isNameable : now.IsNameable
  /-- The milliseconds that have passed. -/
  clock : Nat

/-- A poll on its way. -/
structure SentPoll where
  poll : Poll
  /-- The number of runs that had been started when it was sent. -/
  runs : Nat
deriving DecidableEq

inductive SessionStep where
  | openPassive
  | openActive
  | selectEvaluator (kind : String)
  | setItemLimit (kind : String) (limit : UInt32)
  | start (kind : String) (itemLimit : UInt32) (model : Option ModelConfig)
  | suspend (silent : Bool)
  | resume
  | stop
  | clear
  | viewRecord (index : UInt32)
  | takeResumed
  /-- Somebody asks for a poll. -/
  | ask
  | timerDue
  /-- The answer to a poll comes, for the timer or for whoever asked. -/
  | answer (sent : SentPoll) (forTimer : Bool)
      (outcome : Except ServiceError RunSnapshot)
  | close
  | detach
  | drop (inUse : Bool)
  /-- What a dropped session left to do is done. -/
  | finishTeardown (rest : Teardown)
  /-- The process goes away and leaves everything as it is. -/
  | vanish

namespace SessionStep

/-- What brings the run to move in a step, given the polls that were sent. -/
def cause (asked : List SentPoll) : SessionStep → RunCause
  | .openPassive | .selectEvaluator _ | .setItemLimit .. | .viewRecord _
  | .takeResumed | .ask | .timerDue | .detach | .vanish => .keep
  | .openActive | .resume => .resume
  | .start .. => .start
  | .suspend _ | .close | .drop _ | .finishTeardown _ => .suspend
  | .stop => .stop
  | .clear => .clear
  | .answer sent _ outcome =>
      if sent ∈ asked then Poller.answerCause sent.poll outcome else .keep

/-- Only the answer to a poll that was sent is taken over. -/
theorem cause_eq_poll
    {asked : List SentPoll} {step : SessionStep} {poll : Poll}
    {snapshot : RunSnapshot} (isPoll : step.cause asked = .poll poll snapshot) :
    ∃ sent ∈ asked, poll = sent.poll ∧
      ∃ forTimer, step = .answer sent forTimer (.ok snapshot) := by
  cases step with
  | answer sent forTimer outcome =>
      by_cases wasSent : sent ∈ asked
      · rw [cause, if_pos wasSent] at isPoll
        cases outcome with
        | error error => cases isPoll
        | ok answered =>
            cases isPoll
            exact ⟨sent, wasSent, rfl, forTimer, rfl⟩
      · rw [cause, if_neg wasSent] at isPoll
        cases isPoll
  | _ => cases isPoll

end SessionStep

structure Desk (σ ς : Type) where
  /-- The poller of the session, or of the last one. -/
  poller : Poller σ
  service : ς
  isOpen : Bool
  /-- What dropped sessions left to do. -/
  pending : List Teardown
  /-- The runs that were started, in order. -/
  started : List String
  asked : List SentPoll

namespace Desk

variable {σ ς : Type} [KeyValueStore σ]

/-- The desk over a store before its first session. -/
def new (store : σ) (service : ς) (supply : Supply) (interval : Nat) :
    Desk σ ς where
  poller :=
    { store, supply, interval
      clock := 0
      dashboard := .empty
      timer := .off
      resumed := false }
  service
  isOpen := false
  pending := []
  started := []
  asked := []

def atMoment (desk : Desk σ ς) (moment : Moment) : Desk σ ς :=
  { desk with
    poller :=
      { desk.poller with
        supply := { desk.poller.supply with now := moment.now }
        clock := moment.clock } }

/-- Opens a session, unless there is one, or the run of the last one has still
to be suspended. -/
def openBy (desk : Desk σ ς)
    (goOn : Poller σ → ς → Reaction σ Unit × ς) : Desk σ ς :=
  if desk.isOpen ∨ .whole ∈ desk.pending then desk
  else
    match Poller.openPassive desk.poller.store desk.poller.supply
        desk.poller.interval desk.poller.clock with
    | .error _ => desk
    | .ok poller =>
        let (reaction, service) := goOn poller desk.service
        { desk with
          poller := reaction.poller
          service
          isOpen := reaction.result.isOk }

/-- Carries out an operation of the session, if there is one. -/
def inSession (desk : Desk σ ς)
    (operation : Poller σ → ς → Poller σ × ς) : Desk σ ς :=
  if desk.isOpen then
    let (poller, service) := operation desk.poller desk.service
    { desk with poller, service }
  else desk

def endSession (desk : Desk σ ς)
    (operation : Poller σ → ς → Poller σ × ς) : Desk σ ς :=
  { desk.inSession operation with isOpen := false }

/-- Drops the session and leaves some of the work for later. -/
def dropSession (desk : Desk σ ς) (inUse : Bool) : Desk σ ς :=
  if desk.isOpen then
    let (poller, _, rest) := desk.poller.drop inUse
    { desk with poller, isOpen := false, pending := rest :: desk.pending }
  else desk

def finish [AgentService ς] (desk : Desk σ ς) (rest : Teardown) :
    Desk σ ς :=
  if rest ∈ desk.pending then
    let (poller, _, service) :=
      desk.poller.finishTeardown rest desk.service
    { desk with poller, service, pending := desk.pending.erase rest }
  else desk

def startRun [AgentService ς] (desk : Desk σ ς) (kind : String)
    (itemLimit : UInt32) (model : Option ModelConfig) : Desk σ ς :=
  if desk.isOpen then
    let (reaction, service) :=
      desk.poller.start kind itemLimit model desk.service
    { desk with
      poller := reaction.poller
      service
      started := desk.started ++ (Poller.startedRun? reaction).toList }
  else desk

/-- A poll is on its way from now on. -/
def send (desk : Desk σ ς) (poll : Poll) : Desk σ ς :=
  { desk with asked := ⟨poll, desk.started.length⟩ :: desk.asked }

def askPoll (desk : Desk σ ς) : Desk σ ς :=
  if desk.isOpen then
    match desk.poller.nextPoll with
    | .ok poll => desk.send poll
    | .error _ => desk
  else desk

/-- The timer of the session becomes due, if it sleeps. -/
def wakeTimer (desk : Desk σ ς) : Desk σ ς :=
  if desk.isOpen then
    match desk.poller.timer with
    | .sleeping _ =>
        match desk.poller.timerDue with
        | (poller, none) => { desk with poller }
        | (poller, some poll) => { desk with poller }.send poll
    | .off | .polling _ => desk
  else desk

/-- Handles the answer to a poll that was sent; for the timer only if it waits
for this one. -/
def takeAnswer (desk : Desk σ ς) (sent : SentPoll) (forTimer : Bool)
    (outcome : Except ServiceError RunSnapshot) : Desk σ ς :=
  if sent ∈ desk.asked then
    if forTimer then
      if desk.isOpen ∧ desk.poller.timer = .polling sent.poll then
        { desk with
          poller := (desk.poller.handleTimerAnswer sent.poll outcome).poller }
      else desk
    else
      { desk with
        poller := (desk.poller.handleAnswer sent.poll outcome).poller }
  else desk

def happen [AgentService ς] (desk : Desk σ ς) : SessionStep → Desk σ ς
  | .openPassive =>
      desk.openBy fun poller service => (poller.answer [] (), service)
  | .openActive => desk.openBy Poller.rehydrate
  | .selectEvaluator kind =>
      desk.inSession fun poller service =>
        ((poller.selectEvaluator kind).poller, service)
  | .setItemLimit kind limit =>
      desk.inSession fun poller service =>
        ((poller.setItemLimit kind limit).poller, service)
  | .start kind itemLimit model => desk.startRun kind itemLimit model
  | .suspend silent =>
      desk.inSession fun poller service =>
        let (reaction, service) := poller.suspend silent service
        (reaction.poller, service)
  | .resume =>
      desk.inSession fun poller service =>
        let (reaction, service) := poller.resume service
        (reaction.poller, service)
  | .stop =>
      desk.inSession fun poller service =>
        let (reaction, service) := poller.stop service
        (reaction.poller, service)
  | .clear =>
      desk.inSession fun poller service =>
        (poller.clear.poller, service)
  | .viewRecord index =>
      desk.inSession fun poller service =>
        let (reaction, service) := poller.viewRecord index service
        (reaction.poller, service)
  | .takeResumed =>
      desk.inSession fun poller service =>
        (poller.takeResumed.2, service)
  | .ask => desk.askPoll
  | .timerDue => desk.wakeTimer
  | .answer sent forTimer outcome => desk.takeAnswer sent forTimer outcome
  | .close =>
      desk.endSession fun poller service =>
        let (poller, _, service) := poller.close service
        (poller, service)
  | .detach =>
      desk.endSession fun poller service => (poller.detach, service)
  | .drop inUse => desk.dropSession inUse
  | .finishTeardown rest => desk.finish rest
  | .vanish => { desk with isOpen := false, pending := [] }

def step [AgentService ς] (desk : Desk σ ς) (moment : Moment)
    (step : SessionStep) : Desk σ ς :=
  (desk.atMoment moment).happen step

def after [AgentService ς] (desk : Desk σ ς)
    (steps : List (Moment × SessionStep)) : Desk σ ς :=
  steps.foldl (fun desk next => desk.step next.1 next.2) desk

/-! ## What can happen -/

/-- A dashboard is the one in memory or the one that a session would find. -/
def Knows (desk : Desk σ ς) (dashboard : Dashboard) : Prop :=
  dashboard = desk.poller.dashboard ∨
    ∃ found, KeyValueStore.read Dashboard.decoder desk.poller.store
        StoreKey.dashboard.name = .ok found ∧
      dashboard = found.getD .empty

/-- What a step can do to dashboard, store, runs and polls. -/
inductive Moved (now : Timestamp) (cause : RunCause) (desk after : Desk σ ς) :
    Prop where
  /-- At most a session was opened or ended. -/
  | unchanged {dashboard : Dashboard} (known : desk.Knows dashboard)
      (isDashboard : after.poller.dashboard = dashboard)
      (isStore : after.poller.store = desk.poller.store)
      (isStarted : after.started = desk.started)
      (isAsked : after.asked = desk.asked)
  | moved {dashboard : Dashboard} (known : desk.Knows dashboard)
      (isOld : cause ≠ .start)
      (move : RunMove now cause dashboard.run after.poller.dashboard.run)
      (isStore : after.poller.store = (KeyValueStore.write desk.poller.store
        StoreKey.dashboard.name after.poller.dashboard.encode).2)
      (isStarted : after.started = desk.started)
      (isAsked : after.asked = desk.asked)
  | started {run : EvaluatorRun} (isStart : cause = .start)
      (isRun : after.poller.dashboard.run = some run)
      (move : RunMove now .start desk.poller.dashboard.run (some run))
      (isStore : after.poller.store = (KeyValueStore.write desk.poller.store
        StoreKey.dashboard.name after.poller.dashboard.encode).2)
      (isStarted : after.started = desk.started ++ [run.id])
      (isAsked : after.asked = desk.asked)
  | asked {run : EvaluatorRun}
      (isRun : desk.poller.dashboard.run = some run)
      (isDashboard : after.poller.dashboard = desk.poller.dashboard)
      (isStore : after.poller.store = desk.poller.store)
      (isStarted : after.started = desk.started)
      (isAsked : after.asked =
        ⟨⟨run.id, run.cursor⟩, desk.started.length⟩ :: desk.asked)

/-- The dashboard with which a step opens a session. -/
def loaded? (desk : Desk σ ς) : SessionStep → Option Dashboard
  | .openPassive | .openActive =>
      if desk.isOpen ∨ .whole ∈ desk.pending then none
      else
        match KeyValueStore.read Dashboard.decoder desk.poller.store
            StoreKey.dashboard.name with
        | .error _ => none
        | .ok found => some (found.getD .empty)
  | _ => none

/-- The dashboard that a step begins with. -/
def base (desk : Desk σ ς) (step : SessionStep) : Dashboard :=
  (desk.loaded? step).getD desk.poller.dashboard

/-- What a step can do that begins with a dashboard. -/
inductive MovedFrom (base : Dashboard) (now : Timestamp) (cause : RunCause)
    (desk after : Desk σ ς) : Prop where
  | unchanged (isDashboard : after.poller.dashboard = base)
      (isStore : after.poller.store = desk.poller.store)
      (isStarted : after.started = desk.started)
      (isAsked : after.asked = desk.asked)
  | moved (isOld : cause ≠ .start)
      (move : RunMove now cause base.run after.poller.dashboard.run)
      (isStore : after.poller.store = (KeyValueStore.write desk.poller.store
        StoreKey.dashboard.name after.poller.dashboard.encode).2)
      (isStarted : after.started = desk.started)
      (isAsked : after.asked = desk.asked)
  | started {run : EvaluatorRun} (isStart : cause = .start)
      (isMemory : base = desk.poller.dashboard)
      (isRun : after.poller.dashboard.run = some run)
      (move : RunMove now .start base.run (some run))
      (isStore : after.poller.store = (KeyValueStore.write desk.poller.store
        StoreKey.dashboard.name after.poller.dashboard.encode).2)
      (isStarted : after.started = desk.started ++ [run.id])
      (isAsked : after.asked = desk.asked)
  | asked {run : EvaluatorRun} (isMemory : base = desk.poller.dashboard)
      (isRun : base.run = some run)
      (isDashboard : after.poller.dashboard = base)
      (isStore : after.poller.store = desk.poller.store)
      (isStarted : after.started = desk.started)
      (isAsked : after.asked =
        ⟨⟨run.id, run.cursor⟩, desk.started.length⟩ :: desk.asked)

theorem MovedFrom.refl (now : Timestamp) (cause : RunCause)
    (desk : Desk σ ς) :
    MovedFrom desk.poller.dashboard now cause desk desk :=
  .unchanged rfl rfl rfl rfl

theorem MovedFrom.of_leads
    {now : Timestamp} {cause : RunCause} {desk after : Desk σ ς}
    {base : Dashboard} (isOld : cause ≠ .start)
    (leads : Poller.Leads now cause base desk.poller.store after.poller)
    (isStarted : after.started = desk.started)
    (isAsked : after.asked = desk.asked) :
    MovedFrom base now cause desk after := by
  cases leads with
  | unchanged isDashboard isStore =>
      exact .unchanged isDashboard isStore isStarted isAsked
  | written move isStore =>
      exact .moved isOld move isStore isStarted isAsked

theorem MovedFrom.toMoved
    {now : Timestamp} {cause : RunCause} {desk after : Desk σ ς}
    {base : Dashboard} (moved : MovedFrom base now cause desk after)
    (known : desk.Knows base) : Moved now cause desk after := by
  cases moved with
  | unchanged isDashboard isStore isStarted isAsked =>
      exact .unchanged known isDashboard isStore isStarted isAsked
  | moved isOld move isStore isStarted isAsked =>
      exact .moved known isOld move isStore isStarted isAsked
  | started isStart isMemory isRun move isStore isStarted isAsked =>
      subst isMemory
      exact .started isStart isRun move isStore isStarted isAsked
  | asked isMemory isRun isDashboard isStore isStarted isAsked =>
      subst isMemory
      exact .asked isRun isDashboard isStore isStarted isAsked

/-- A step leaves the dashboard with which it begins and the store as they
are, or it writes the dashboard to which it leads. -/
theorem MovedFrom.untouched_or_written
    {now : Timestamp} {cause : RunCause} {desk after : Desk σ ς}
    {base : Dashboard} (moved : MovedFrom base now cause desk after) :
    (after.poller.dashboard = base ∧
        after.poller.store = desk.poller.store) ∨
      after.poller.store = (KeyValueStore.write desk.poller.store
        StoreKey.dashboard.name after.poller.dashboard.encode).2 := by
  cases moved with
  | unchanged isDashboard isStore _ _ | asked _ _ isDashboard isStore _ _ =>
      exact .inl ⟨isDashboard, isStore⟩
  | moved _ _ isStore _ _ | started _ _ _ _ isStore _ _ =>
      exact .inr isStore

theorem loaded?_eq_some {desk : Desk σ ς} {step : SessionStep}
    {dashboard : Dashboard} (loaded : desk.loaded? step = some dashboard) :
    ∃ found, KeyValueStore.read Dashboard.decoder desk.poller.store
        StoreKey.dashboard.name = .ok found ∧
      dashboard = found.getD .empty := by
  unfold loaded? at loaded
  split at loaded
  any_goals
    split at loaded
    · cases loaded
    split at loaded
    · cases loaded
    next found isFound =>
      cases loaded
      exact ⟨found, isFound, rfl⟩
  cases loaded

theorem knows_base (desk : Desk σ ς) (step : SessionStep) :
    desk.Knows (desk.base step) := by
  unfold base
  cases loaded : desk.loaded? step with
  | none => exact .inl rfl
  | some dashboard => exact .inr (loaded?_eq_some loaded)

theorem openBy_moved {desk : Desk σ ς} {step : SessionStep}
    (opens : step = .openPassive ∨ step = .openActive) {cause : RunCause}
    (isOld : cause ≠ .start) {goOn : Poller σ → ς → Reaction σ Unit × ς}
    (leads : ∀ (poller : Poller σ) (service : ς),
      poller.LeadsTo cause (goOn poller service).1.poller) :
    MovedFrom (desk.base step) desk.poller.supply.now cause desk
      (desk.openBy goOn) := by
  have isLoaded : desk.loaded? step = desk.loaded? .openPassive := by
    rcases opens with rfl | rfl <;> rfl
  unfold base openBy
  rw [isLoaded, loaded?]
  split
  · exact .refl _ _ desk
  unfold Poller.openPassive
  cases found : KeyValueStore.read Dashboard.decoder desk.poller.store
      StoreKey.dashboard.name with
  | error error => exact .refl _ _ desk
  | ok value =>
      let poller : Poller σ :=
        { desk.poller with
          dashboard := value.getD .empty
          timer := .off
          resumed := false }
      exact .of_leads isOld (leads poller desk.service) rfl rfl

theorem inSession_moved {desk : Desk σ ς} {cause : RunCause}
    (isOld : cause ≠ .start) {operation : Poller σ → ς → Poller σ × ς}
    (leads : ∀ (poller : Poller σ) (service : ς),
      poller.LeadsTo cause (operation poller service).1) :
    MovedFrom desk.poller.dashboard desk.poller.supply.now cause desk
      (desk.inSession operation) := by
  unfold inSession
  split
  · exact .of_leads isOld (leads _ _) rfl rfl
  · exact .refl _ _ desk

theorem endSession_moved {desk : Desk σ ς} {cause : RunCause}
    (isOld : cause ≠ .start) {operation : Poller σ → ς → Poller σ × ς}
    (leads : ∀ (poller : Poller σ) (service : ς),
      poller.LeadsTo cause (operation poller service).1) :
    MovedFrom desk.poller.dashboard desk.poller.supply.now cause desk
      (desk.endSession operation) := by
  unfold endSession inSession
  split
  · exact .of_leads isOld (leads _ _) rfl rfl
  · exact .unchanged rfl rfl rfl rfl

theorem dropSession_moved (desk : Desk σ ς) (inUse : Bool) :
    MovedFrom desk.poller.dashboard desk.poller.supply.now .suspend desk
      (desk.dropSession inUse) := by
  unfold dropSession
  split
  · exact .of_leads nofun (Poller.drop_leads _ inUse) rfl rfl
  · exact .refl _ _ desk

theorem finish_moved [AgentService ς] (desk : Desk σ ς)
    (rest : Teardown) :
    MovedFrom desk.poller.dashboard desk.poller.supply.now .suspend desk
      (desk.finish rest) := by
  unfold finish
  split
  · exact .of_leads nofun (Poller.finishTeardown_leads _ rest _) rfl rfl
  · exact .refl _ _ desk

theorem startRun_moved [AgentService ς] (desk : Desk σ ς)
    (kind : String) (itemLimit : UInt32) (model : Option ModelConfig) :
    MovedFrom desk.poller.dashboard desk.poller.supply.now .start desk
      (desk.startRun kind itemLimit model) := by
  unfold startRun
  split
  · rcases Poller.start_leads desk.poller kind itemLimit model desk.service
      with ⟨refused, same⟩ | ⟨run, isStarted, isRun, move, isStore⟩
    · refine .unchanged (congrArg Poller.dashboard same)
        (congrArg Poller.store same) ?_ rfl
      simp [refused]
    · exact .started rfl rfl isRun move isStore (by simp [isStarted]) rfl
  · exact .refl _ _ desk

theorem takeAnswer_moved (desk : Desk σ ς) (sent : SentPoll)
    (forTimer : Bool) (outcome : Except ServiceError RunSnapshot) :
    MovedFrom desk.poller.dashboard desk.poller.supply.now
      ((SessionStep.answer sent forTimer outcome).cause desk.asked) desk
      (desk.takeAnswer sent forTimer outcome) := by
  have isOld : Poller.answerCause sent.poll outcome ≠ .start := by
    cases outcome <;> nofun
  unfold takeAnswer
  dsimp only [SessionStep.cause]
  split
  · split
    · split
      · exact .of_leads isOld (Poller.handleTimerAnswer_leads _ _ _) rfl rfl
      · exact .refl _ _ desk
    · exact .of_leads isOld (Poller.handleAnswer_leads _ _ _) rfl rfl
  · exact .refl _ _ desk

theorem askPoll_moved (desk : Desk σ ς) :
    MovedFrom desk.poller.dashboard desk.poller.supply.now .keep desk
      desk.askPoll := by
  unfold askPoll
  split
  · cases asked : desk.poller.nextPoll with
    | error error => exact .refl _ _ desk
    | ok poll =>
        obtain ⟨run, isRun, -, rfl⟩ := Poller.nextPoll_eq_ok asked
        exact .asked rfl isRun rfl rfl rfl rfl
  · exact .refl _ _ desk

theorem wakeTimer_moved (desk : Desk σ ς) :
    MovedFrom desk.poller.dashboard desk.poller.supply.now .keep desk
      desk.wakeTimer := by
  unfold wakeTimer
  split
  · split
    · unfold Poller.timerDue
      cases asked : desk.poller.nextPoll with
      | error error => exact .unchanged rfl rfl rfl rfl
      | ok poll =>
          obtain ⟨run, isRun, -, rfl⟩ := Poller.nextPoll_eq_ok asked
          exact .asked rfl isRun rfl rfl rfl rfl
    · exact .refl _ _ desk
    · exact .refl _ _ desk
  · exact .refl _ _ desk

theorem happen_movedFrom [AgentService ς] (desk : Desk σ ς)
    (step : SessionStep) :
    MovedFrom (desk.base step) desk.poller.supply.now
      (step.cause desk.asked) desk (desk.happen step) := by
  unfold happen
  cases step with
  | openPassive =>
      exact openBy_moved (.inl rfl) (by nofun) fun poller _ =>
        poller.leadsTo_refl .keep
  | openActive =>
      exact openBy_moved (.inr rfl) (by nofun) Poller.rehydrate_leads
  | selectEvaluator kind =>
      exact inSession_moved (by nofun) fun poller _ =>
        poller.selectEvaluator_leads kind
  | setItemLimit kind limit =>
      exact inSession_moved (by nofun) fun poller _ =>
        poller.setItemLimit_leads kind limit
  | start kind itemLimit model =>
      exact startRun_moved desk kind itemLimit model
  | suspend silent =>
      exact inSession_moved (by nofun) fun poller service =>
        poller.suspend_leads silent service
  | resume => exact inSession_moved (by nofun) Poller.resume_leads
  | stop => exact inSession_moved (by nofun) Poller.stop_leads
  | clear => exact inSession_moved (by nofun) fun poller _ => poller.clear_leads
  | viewRecord index =>
      exact inSession_moved (by nofun) fun poller service =>
        poller.viewRecord_leads index service
  | takeResumed =>
      exact inSession_moved (by nofun) fun poller _ =>
        .unchanged rfl rfl
  | ask => exact askPoll_moved desk
  | timerDue => exact wakeTimer_moved desk
  | answer sent forTimer outcome =>
      exact takeAnswer_moved desk sent forTimer outcome
  | close => exact endSession_moved (by nofun) Poller.close_leads
  | detach =>
      exact endSession_moved (by nofun) fun poller _ => .unchanged rfl rfl
  | drop inUse => exact dropSession_moved desk inUse
  | finishTeardown rest => exact finish_moved desk rest
  | vanish => exact .unchanged rfl rfl rfl rfl

/-- What happens at a moment is a move at that time. -/
theorem step_movedFrom [AgentService ς] (desk : Desk σ ς) (moment : Moment)
    (step : SessionStep) :
    MovedFrom (desk.base step) moment.now (step.cause desk.asked) desk
      (desk.step moment step) := by
  have isBase : (desk.atMoment moment).base step = desk.base step := by
    cases step <;> rfl
  have moved := happen_movedFrom (desk.atMoment moment) step
  rw [isBase] at moved
  cases moved with
  | unchanged isDashboard isStore isStarted isAsked =>
      exact .unchanged isDashboard isStore isStarted isAsked
  | moved isOld move isStore isStarted isAsked =>
      exact .moved isOld move isStore isStarted isAsked
  | started isStart isMemory isRun move isStore isStarted isAsked =>
      exact .started isStart isMemory isRun move isStore isStarted isAsked
  | asked isMemory isRun isDashboard isStore isStarted isAsked =>
      exact .asked isMemory isRun isDashboard isStore isStarted isAsked

theorem step_moved [AgentService ς] (desk : Desk σ ς) (moment : Moment)
    (step : SessionStep) :
    Moved moment.now (step.cause desk.asked) desk
      (desk.step moment step) :=
  (desk.step_movedFrom moment step).toMoved (desk.knows_base step)

/-- What was started stays so. -/
theorem started_step [AgentService ς] (desk : Desk σ ς) (moment : Moment)
    (step : SessionStep) :
    desk.started <+: (desk.step moment step).started := by
  cases desk.step_moved moment step with
  | unchanged _ _ _ isStarted _ | moved _ _ _ _ isStarted _
  | asked _ _ _ isStarted _ =>
      exact isStarted ▸ List.prefix_refl desk.started
  | started _ _ _ _ isStarted _ =>
      rw [isStarted]
      exact List.prefix_append _ _

theorem started_after [AgentService ς] (desk : Desk σ ς)
    (steps : List (Moment × SessionStep)) :
    desk.started <+: (desk.after steps).started := by
  induction steps generalizing desk with
  | nil => exact List.prefix_refl desk.started
  | cons next rest ih =>
      exact (desk.started_step next.1 next.2).trans
        (ih (desk.step next.1 next.2))

/-! ## A desk to look at -/

def epoch : Moment := ⟨⟨0, 0⟩, ⟨by decide, by decide⟩, 0⟩

def oneRun : RecordedService :=
  .replaying [⟨.startEvaluator ⟨"workflow", 5, some ⟨"model-A", none⟩⟩,
    .ok (⟨"run-1"⟩ : StartedRun), 0⟩]

def ofOneRun : Desk MemoryStore RecordedService :=
  new .empty oneRun ⟨0, 0, ⟨0, 0⟩⟩ 600

/-- A session is opened, and the run is started in it. -/
def beginning : List (Moment × SessionStep) :=
  [(epoch, .openPassive),
    (epoch, .start "workflow" 5 (some ⟨"model-A", none⟩))]

end Desk

end AgentPipeline
