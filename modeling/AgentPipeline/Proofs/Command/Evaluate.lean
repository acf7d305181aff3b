import AgentPipeline.Command.Evaluate
import AgentPipeline.Proofs.Command.Leads
import AgentPipeline.Proofs.Poller.Requests

/-!
# Commands that do not poll

A command that follows no run opens a session, carries out one operation of
the poller, and leaves the session without a timer.
Main statement: `perform_passes`.
-/

namespace AgentPipeline

/-- A request that follows a run: a poll, or one to go on with it. -/
def Request.follows : Request → Bool
  | .poll .. | .control _ .resume => true
  | _ => false

namespace EvaluatorCommand

/-- The command leaves without having waited for a run. -/
def isBrief : EvaluatorCommand → Bool
  | start _ _ _ detach => detach
  | watch | resume => false
  | status | suspend | stop | record _ | clear => true

/-- The command only looks at what there is. -/
def onlyReads : EvaluatorCommand → Bool
  | status | record _ => true
  | _ => false

/-- The requests of a command, given the dashboard that is found and what a
start would ask for. -/
def ownRequests (dashboard : Dashboard) (started : StartRequest) :
    EvaluatorCommand → List Request
  | start .. => [.catalog, .listModels, .startEvaluator started]
  | suspend => dashboard.run.toList.map fun run => .control run.id .suspend
  | stop => dashboard.run.toList.map fun run => .control run.id .stop
  | record index =>
      dashboard.run.toList.map fun run => .fetchRecord run.id index
  | status | clear | watch | resume => []

section Operation

variable {σ ς : Type} [KeyValueStore σ] [AgentService ς]

/-- The start of a run with what the command gives, and else with what was
chosen before: refused if there is no evaluator, and failing if the registry
or the selected model cannot be read. -/
def startChosen (kind : Option String) (limit : Option UInt32)
    (model : Option String) (settings : Settings) (poller : Poller σ)
    (service : ς) : Reaction σ EvaluatorRun × ς :=
  match kind <|> poller.dashboard.selected with
  | none => (poller.fail .noEvaluatorSelected, service)
  | some chosen =>
      let itemLimit := (limit <|> poller.dashboard.itemLimits.find? chosen).getD
        settings.evaluator.defaultItemLimit
      match ModelRegistry.load poller.store service with
      | (.error error, service) => (poller.fail (.storage error), service)
      | (.ok registry, service) =>
          match model.elim (registry.selectedDefault poller.store)
            fun given => .ok (some given) with
          | .error error => (poller.fail (.storage error), service)
          | .ok selected =>
              poller.start chosen itemLimit (selected.map registry.config)
                service

/-- The operation of a command on the poller of its session, without what it
returns. -/
def operation (command : EvaluatorCommand) (settings : Settings)
    (poller : Poller σ) (service : ς) : Reaction σ Unit × ς :=
  match command with
  | start kind limit model _ =>
      (startChosen kind limit model settings poller service).map .forget id
  | suspend => (poller.suspend false service).map .forget id
  | stop => (poller.stop service).map .forget id
  | record index => (poller.viewRecord index service).map .forget id
  | clear => (poller.clear.forget, service)
  | status | watch | resume => (poller.answer [] (), service)

/-! ## What an operation does -/

section Effects

variable (command : EvaluatorCommand) (settings : Settings)
  (poller : Poller σ)

theorem startChosen_settles (kind : Option String) (limit : Option UInt32)
    (model : Option String) (service : ς) :
    (startChosen kind limit model settings poller service).1.Settles
      poller := by
  unfold startChosen
  split
  · exact .left rfl
  dsimp only
  split
  · exact .left rfl
  split
  · exact .left rfl
  · exact poller.start_settles _ _ _ _

theorem operation_settles (service : ς) :
    (command.operation settings poller service).1.Settles poller := by
  cases command with
  | start kind limit model detach =>
      exact (startChosen_settles settings poller kind limit model
        service).forget
  | suspend => exact (poller.suspend_settles false service).forget
  | stop => exact (poller.stop_settles service).forget
  | record index => exact .left (poller.viewRecord_poller index service)
  | clear => exact poller.clear_settles.forget
  | status | watch | resume => exact .left rfl

variable {command} in
theorem operation_of_onlyReads (onlyReads : command.onlyReads = true)
    (service : ς) :
    (command.operation settings poller service).1.poller = poller := by
  cases command with
  | status => rfl
  | record index => exact poller.viewRecord_poller index service
  | start | watch | suspend | resume | stop | clear => cases onlyReads

end Effects

end Operation

section Asking

variable {σ ς : Type} [KeyValueStore σ] [DelayedService ς]
  (settings : Settings) (poller : Poller σ) (service : OverheardService ς)

theorem startChosen_asksWithin (kind : Option String) (limit : Option UInt32)
    (model : Option String) :
    ∃ started : StartRequest, OverheardService.AsksWithin
      [.catalog, .listModels, .startEvaluator started] service
      (startChosen kind limit model settings poller service).2 := by
  have nothing : ∃ started : StartRequest, OverheardService.AsksWithin
      [.catalog, .listModels, .startEvaluator started] service service :=
    ⟨default, OverheardService.asksWithin_refl _ service⟩
  unfold startChosen
  split
  · exact nothing
  dsimp only
  have loaded := ModelRegistry.load_asks poller.store service
  split
  next isLoaded =>
    rw [isLoaded] at loaded
    exact ⟨default, loaded.mono (List.sublist_append_left _ _)⟩
  next isLoaded =>
    rw [isLoaded] at loaded
    split
    · exact ⟨default, loaded.mono (List.sublist_append_left _ _)⟩
    · exact ⟨_, loaded.append (poller.start_asksWithin _ _ _ _)⟩

theorem operation_asksWithin (command : EvaluatorCommand) :
    ∃ started, OverheardService.AsksWithin
      (command.ownRequests poller.dashboard started) service
      (command.operation settings poller service).2 := by
  cases command with
  | start kind limit model detach =>
      exact startChosen_asksWithin settings poller service kind limit model
  | suspend => exact ⟨default, poller.suspend_asksWithin service false⟩
  | stop => exact ⟨default, poller.stop_asksWithin service⟩
  | record index => exact ⟨default, poller.viewRecord_asksWithin service index⟩
  | clear | status | watch | resume =>
      exact ⟨default, OverheardService.asksWithin_refl _ service⟩

end Asking

end EvaluatorCommand

/-! ## In a session -/

namespace Act

variable {σ ς α : Type} [KeyValueStore σ] [DelayedService ς]
  {scene : Scene σ ς} {settings : Settings} {poller : Poller σ} {service : ς}
  {done : α → Scene σ ς → Prop} {failed : CommandError → Scene σ ς → Prop}
  {halted : Wanted → Scene σ ς → Prop}

/-- The session of the scene has a poller, and its service a state. -/
structure InSession (settings : Settings) (poller : Poller σ) (service : ς)
    (scene : Scene σ ς) : Prop where
  settings : scene.settings = settings
  session : scene.world.session = some poller
  store : scene.world.store = poller.store
  service : scene.world.service = service

omit [KeyValueStore σ] [DelayedService ς] in
theorem InSession.onConsole
    (inSession : InSession settings poller service scene) (console : Console) :
    InSession settings poller service { scene with console } :=
  ⟨inSession.settings, inSession.session, inSession.store, inSession.service⟩

omit [KeyValueStore σ] [DelayedService ς] in
theorem leads_poller {done : Poller σ → Scene σ ς → Prop}
    (inSession : InSession settings poller service scene)
    (isDone : done poller scene) :
    (Act.poller : Act σ ς (Poller σ)).Leads scene done failed halted := by
  refine leads_of_get ?_
  rw [inSession.session]
  exact leads_pure isDone

omit [KeyValueStore σ] in
theorem leads_request {operation : Poller σ → ς → Reaction σ α × ς}
    (inSession : InSession settings poller service scene)
    (isDone : ∀ value last, (operation poller service).1.result = .ok value →
      InSession settings (operation poller service).1.poller
        (operation poller service).2 last → done value last)
    (isFailed : ∀ error last,
      (operation poller service).1.result = .error error →
        InSession settings (operation poller service).1.poller
          (operation poller service).2 last → failed (.evaluator error) last)
    (isHalted : ∀ wanted last,
      last.world.service = (operation poller service).2 →
        halted wanted last) :
    (request operation).Leads scene done failed halted := by
  refine .bind (leads_poller inSession (.bind (leads_onWorld ?_ ?_)))
  · intro console _
    have after : InSession settings (operation poller service).1.poller
        (operation poller service).2
        { scene with
          world := { (scene.world.carryOut poller operation).1 with log := [] }
          console } := by
      rw [← inSession.service]
      exact ⟨inSession.settings, rfl, rfl, rfl⟩
    refine leads_expect (fun value isOk => isDone value _ ?_ after)
      fun error isError => isFailed error _ ?_ after
    · rw [← inSession.service]
      exact isOk
    · rw [← inSession.service]
      exact isError
  · intro moment console _ _
    refine isHalted _ _ ?_
    rw [← inSession.service]
    rfl

theorem leads_loadRegistry {done : ModelRegistry → Scene σ ς → Prop}
    (inSession : InSession settings poller service scene)
    (isDone : ∀ registry last,
      (ModelRegistry.load poller.store service).1 = .ok registry →
        InSession settings poller
          (ModelRegistry.load poller.store service).2 last →
            done registry last)
    (isFailed : ∀ error last,
      (ModelRegistry.load poller.store service).1 = .error error →
        InSession settings poller
          (ModelRegistry.load poller.store service).2 last →
            failed (.storage error) last)
    (isHalted : ∀ wanted last, last.world.service =
      (ModelRegistry.load poller.store service).2 → halted wanted last) :
    (loadRegistry : Act σ ς ModelRegistry).Leads scene done failed halted := by
  rw [← inSession.store, ← inSession.service] at isDone isFailed isHalted
  refine .bind (leads_onWorld ?_ ?_)
  · intro console _
    have after : InSession settings poller
        (ModelRegistry.load scene.world.store scene.world.service).2
        { scene with
          world := { scene.world with
            service :=
              (ModelRegistry.load scene.world.store scene.world.service).2
            log := [] }
          console } :=
      ⟨inSession.settings, inSession.session, inSession.store, rfl⟩
    exact leads_expect (fun registry isOk => isDone registry _ isOk after)
      fun error isError => isFailed error _ isError after
  · exact fun _ _ _ _ => isHalted _ _ rfl

end Act

namespace EvaluatorCommand

variable {σ ς : Type} [KeyValueStore σ] [DelayedService ς]

/-! ## What a command leaves behind -/

/-- The requests that have reached the service are some of the command's own,
in their order, and none of them follows a run. -/
def Asks (command : EvaluatorCommand) (dashboard : Dashboard)
    (service later : OverheardService ς) : Prop :=
  ∃ started asked, later.requests = service.requests ++ asked ∧
    asked.Sublist (command.ownRequests dashboard started) ∧
      ∀ request ∈ asked, request.follows = false

omit [DelayedService ς] in
theorem follows_of_ownRequests {command : EvaluatorCommand}
    {dashboard : Dashboard} {started : StartRequest} {request : Request}
    (isOwn : request ∈ command.ownRequests dashboard started) :
    request.follows = false := by
  cases command with
  | start =>
      simp only [ownRequests, List.mem_cons, List.not_mem_nil,
        or_false] at isOwn
      obtain rfl | rfl | rfl := isOwn <;> rfl
  | suspend | stop | record =>
      obtain ⟨_, -, rfl⟩ := List.mem_map.mp isOwn
      rfl
  | clear | status | watch | resume => cases isOwn

omit [DelayedService ς] in
theorem asks_of_asksWithin {command : EvaluatorCommand}
    {dashboard : Dashboard} {service later : OverheardService ς}
    (asks : ∃ started, OverheardService.AsksWithin
      (command.ownRequests dashboard started) service later) :
    command.Asks dashboard service later := by
  obtain ⟨started, asked, isAsked, within⟩ := asks
  exact ⟨started, asked, isAsked, within, fun request isRequest =>
    follows_of_ownRequests (within.subset isRequest)⟩

theorem asks_operation (settings : Settings) (poller : Poller σ)
    (service : OverheardService ς) (command : EvaluatorCommand) :
    command.Asks poller.dashboard service
      (command.operation settings poller service).2 :=
  asks_of_asksWithin (operation_asksWithin settings poller service command)

section Acting

variable {settings : Settings} {poller : Poller σ}
  {service : OverheardService ς} {scene : Scene σ (OverheardService ς)}
  {made : Reaction σ Unit × OverheardService ς}

/-- The operation of the session has succeeded, and there is no timer unless
the run is left to itself. -/
structure Succeeds (settings : Settings)
    (made : Reaction σ Unit × OverheardService ς) (leave : Leave)
    (last : Scene σ (OverheardService ς)) : Prop where
  inSession : Act.InSession settings made.1.poller made.2 last
  isOk : made.1.result = .ok ()
  timer : leave = .close → made.1.poller.timer = .off

/-- The operation of the session has failed, and there is no timer. -/
structure Fails (settings : Settings)
    (made : Reaction σ Unit × OverheardService ς)
    (last : Scene σ (OverheardService ς)) : Prop where
  inSession : Act.InSession settings made.1.poller made.2 last
  isError : ∃ error, made.1.result = .error error
  timer : made.1.poller.timer = .off

/-- Performed in a session, the act of a command carries out its operation. -/
def Carries (command : EvaluatorCommand) (settings : Settings)
    (poller : Poller σ) (service : OverheardService ς)
    (scene : Scene σ (OverheardService ς)) : Prop :=
  command.act.Leads scene
    (Succeeds settings (command.operation settings poller service))
    (fun _ => Fails settings (command.operation settings poller service))
    fun _ last => command.Asks poller.dashboard service last.world.service

/-- The act only says something, and leaves the session in some way. -/
def Says (leave : Leave) (act : Act σ (OverheardService ς) Leave) : Prop :=
  ∀ {settings : Settings} {poller : Poller σ} {service : OverheardService ς}
    {scene : Scene σ (OverheardService ς)},
    Act.InSession settings poller service scene →
      act.Leads scene
        (fun given last => given = leave ∧
          Act.InSession settings poller service last)
        (fun _ _ => False) fun _ _ => False

omit [KeyValueStore σ] in
theorem leads_of_request {α : Type} {command : EvaluatorCommand}
    {dashboard : Dashboard} {first : OverheardService ς}
    (operation : Poller σ → OverheardService ς →
      Reaction σ α × OverheardService ς)
    {say : α → Act σ (OverheardService ς) Leave} (leave : Leave)
    (inSession : Act.InSession settings poller service scene)
    (isMade : (operation poller service).map .forget id = made)
    (asks : command.Asks dashboard first made.2)
    (isSaid : ∀ value, Says leave (say value))
    (off : leave = .close ∨
        (∃ error, (operation poller service).1.result = .error error) →
      (operation poller service).1.poller.timer = .off) :
    (Act.request operation >>= say).Leads scene (Succeeds settings made)
      (fun _ => Fails settings made)
      fun _ last => command.Asks dashboard first last.world.service := by
  subst isMade
  refine .bind (Act.leads_request inSession ?_ ?_ ?_)
  · intro value middle isOk after
    refine (isSaid value after).mono ?_ (fun _ _ => False.elim)
      fun _ _ => False.elim
    rintro given last ⟨rfl, inSession⟩
    refine ⟨inSession, ?_, fun closes => off (.inl closes)⟩
    simp [Reaction.forget, isOk, Except.map]
  · intro error last isError after
    refine ⟨after, ⟨error, ?_⟩, off (.inr ⟨error, isError⟩)⟩
    simp [Reaction.forget, isError, Except.map]
  · intro wanted last isService
    rw [isService]
    exact asks

omit [KeyValueStore σ] [DelayedService ς] in
theorem says_print (line : String) (leave : Leave) :
    Says leave (do
      Act.print line
      return leave : Act σ (OverheardService ς) Leave) := by
  intro settings poller service scene inSession
  exact .bind (Act.leads_onConsole
    (Act.leads_pure ⟨rfl, inSession.onConsole _⟩))

variable (off : poller.timer = .off)
  (inSession : Act.InSession settings poller service scene)
include off inSession

theorem record_carries (index : UInt32) :
    (record index).Carries settings poller service scene :=
  leads_of_request (fun poller => poller.viewRecord index) .close inSession
    rfl (asks_operation settings poller service (record index))
    (fun _ => says_print _ _)
    fun _ => (poller.viewRecord_quiet index service).timer off

theorem suspend_carries :
    suspend.Carries settings poller service scene :=
  leads_of_request (fun poller => poller.suspend false) .close inSession rfl
    (asks_operation settings poller service suspend)
    (fun _ => says_print _ _)
    fun _ => (poller.suspend_quiet false service).timer off

theorem stop_carries : stop.Carries settings poller service scene :=
  leads_of_request Poller.stop .close inSession rfl
    (asks_operation settings poller service stop)
    (fun _ _ _ _ _ inSession => Act.leads_pure ⟨rfl, inSession⟩)
    fun _ => (poller.stop_quiet service).timer off

theorem clear_carries : clear.Carries settings poller service scene := by
  refine leads_of_request (fun poller service => (poller.clear, service))
    .close inSession rfl (asks_operation settings poller service clear)
    (fun cleared => ?_) fun _ => poller.clear_quiet.timer off
  cases cleared with
  | none => exact says_print _ _
  | some run => exact says_print _ _

theorem status_carries : status.Carries settings poller service scene := by
  refine .bind (Act.leads_poller inSession ?_)
  cases poller.run? with
  | none =>
      refine .bind (Act.leads_onConsole (Act.leads_pure ?_))
      exact ⟨inSession.onConsole _, rfl, fun _ => off⟩
  | some run =>
      refine .bind (Act.leads_colors (.bind (Act.leads_onConsole ?_)))
      exact Act.leads_pure ⟨inSession.onConsole _, rfl, fun _ => off⟩

theorem leads_of_start {command : EvaluatorCommand} {dashboard : Dashboard}
    {first : OverheardService ς} {kind : String} {itemLimit : UInt32}
    {model : Option ModelConfig}
    (isMade : (poller.start kind itemLimit model service).map .forget id =
      made)
    (asks : command.Asks dashboard first made.2)
    {say : EvaluatorRun → Act σ (OverheardService ς) Leave}
    (isSaid : ∀ run, Says .detach (say run)) :
    (Act.request (fun poller => poller.start kind itemLimit model) >>=
        say).Leads scene (Succeeds settings made)
      (fun _ => Fails settings made)
      fun _ last => command.Asks dashboard first last.world.service := by
  refine leads_of_request (fun poller => poller.start kind itemLimit model)
    .detach inSession isMade asks isSaid ?_
  rintro (closes | ⟨error, failed⟩)
  · cases closes
  · exact (Poller.timer_of_start_failed failed).trans off

theorem start_carries (kind : Option String) (limit : Option UInt32)
    (model : Option String) :
    (start kind limit model true).Carries settings poller service scene := by
  have asks := asks_operation settings poller service
    (start kind limit model true)
  have loadAsks : (start kind limit model true).Asks poller.dashboard service
      (ModelRegistry.load poller.store service).2 :=
    asks_of_asksWithin ⟨default,
      (ModelRegistry.load_asks poller.store service).mono
        (List.sublist_append_left _ _)⟩
  unfold Carries
  generalize isMade : (start kind limit model true).operation settings poller
    service = made at asks ⊢
  simp only [operation, startChosen] at isMade
  refine .bind (Act.leads_poller inSession ?_)
  dsimp only
  cases isKind : kind <|> poller.dashboard.selected with
  | none =>
      rw [isKind] at isMade
      subst isMade
      exact .bind (Act.leads_failed ⟨inSession, ⟨_, rfl⟩, off⟩)
  | some chosen =>
  rw [isKind] at isMade
  refine .bind (Act.leads_pure (Act.leads_of_get ?_))
  rw [inSession.settings]
  dsimp only at isMade ⊢
  generalize (limit <|> poller.dashboard.itemLimits.find? chosen).getD
    settings.evaluator.defaultItemLimit = itemLimit at isMade ⊢
  cases loaded : ModelRegistry.load poller.store service with
  | mk outcome later =>
  rw [loaded] at isMade loadAsks
  refine .bind (Act.leads_loadRegistry inSession ?_ ?_ ?_)
  · intro registry middle isLoaded inMiddle
    rw [loaded] at isLoaded inMiddle
    subst isLoaded
    dsimp only at isMade inMiddle ⊢
    have begins {say : EvaluatorRun → Act σ (OverheardService ς) Leave}
        (isSaid : ∀ run, Says .detach (say run)) {selected : Option String}
        (isSelected : model.elim (registry.selectedDefault poller.store)
          (fun given => .ok (some given)) = .ok selected) :
        (Act.request (fun poller => poller.start chosen itemLimit
            (selected.map registry.config)) >>= say).Leads middle
          (Succeeds settings made) (fun _ => Fails settings made)
          fun _ last => (start kind limit model true).Asks
            poller.dashboard service last.world.service := by
      rw [isSelected] at isMade
      exact leads_of_start off inMiddle isMade asks isSaid
    cases model with
    | some given =>
        exact .bind (Act.leads_pure (begins (fun _ => says_print _ _) rfl))
    | none =>
        refine .bind (Act.leads_store (.bind (Act.leads_expect ?_ ?_)))
        · intro selected isSelected
          rw [inMiddle.store] at isSelected
          exact begins (fun _ => says_print _ _) isSelected
        · intro error notSelected
          rw [inMiddle.store] at notSelected
          simp only [Option.elim_none, notSelected] at isMade
          subst isMade
          exact ⟨inMiddle, ⟨_, rfl⟩, off⟩
  · intro error last notLoaded inLast
    rw [loaded] at notLoaded inLast
    subst notLoaded
    subst isMade
    exact ⟨inLast, ⟨_, rfl⟩, off⟩
  · intro wanted last isService
    rw [isService, loaded]
    exact loadAsks

end Acting

section Session

variable {settings : Settings} {poller : Poller σ}
  {scene : Scene σ (OverheardService ς)}

theorem act_carries {command : EvaluatorCommand}
    (brief : command.isBrief = true) {service : OverheardService ς}
    (off : poller.timer = .off)
    (inSession : Act.InSession settings poller service scene) :
    command.Carries settings poller service scene := by
  cases command with
  | start kind limit model detach =>
      obtain rfl : detach = true := brief
      exact start_carries off inSession kind limit model
  | status => exact status_carries off inSession
  | suspend => exact suspend_carries off inSession
  | stop => exact stop_carries off inSession
  | record index => exact record_carries off inSession index
  | clear => exact clear_carries off inSession
  | watch | resume => cases brief

/-- How a session is left, as a change of the world. -/
def leaving {ς : Type} [DelayedService ς]
    (outcome : Except CommandError Leave) (world : EvaluatorRehearsal σ ς) :
    EvaluatorRehearsal σ ς :=
  match outcome with
  | .ok .detach => world.detachSession
  | .ok .close | .error _ => world.closeSession

/-- The session is over, and the store and the service are as it left them. -/
structure IsOver {ς : Type} (store : σ) (service : ς) (last : Scene σ ς) :
    Prop where
  session : last.world.session = none
  store : last.world.store = store
  service : last.world.service = service

/-- A session without a timer is closed like one that is detached. -/
theorem leaving_isOver {ς : Type} [DelayedService ς] {service : ς}
    {scene : Scene σ ς} {outcome : Except CommandError Leave}
    (inSession : Act.InSession settings poller service scene)
    (off : outcome = .ok .detach ∨ poller.timer = .off) :
    (leaving outcome scene.world).session = none ∧
      (leaving outcome scene.world).store = poller.store ∧
        (leaving outcome scene.world).service = service := by
  have closed (off : poller.timer = .off) : scene.world.closeSession =
      (scene.world.endSession poller).note [] := by
    have notPolling := poller.isPolling_eq_false_iff.mpr off
    simp only [EvaluatorRehearsal.closeSession, inSession.session,
      Poller.close, notPolling]
    rfl
  have detached : scene.world.detachSession =
      scene.world.endSession poller.detach := by
    simp only [EvaluatorRehearsal.detachSession, inSession.session]
  match outcome with
  | .ok .detach =>
      rw [leaving, detached]
      exact ⟨rfl, rfl, inSession.service⟩
  | .ok .close | .error _ =>
      obtain isDetach | off := off
      · cases isDetach
      · rw [leaving, closed off]
        exact ⟨rfl, rfl, inSession.service⟩

theorem leads_leaving {ς : Type} [DelayedService ς] {service : ς}
    {scene : Scene σ ς} {outcome : Except CommandError Leave}
    {done : Scene σ ς → Prop} {failed : CommandError → Scene σ ς → Prop}
    {halted : Wanted → Scene σ ς → Prop}
    (inSession : Act.InSession settings poller service scene)
    (off : outcome = .ok .detach ∨ poller.timer = .off)
    (isDone : ∀ last, IsOver poller.store service last → done last)
    (isHalted : ∀ wanted last,
      last.world.service = service → halted wanted last) :
    (do
      Act.onWorld fun world => (leaving outcome world, ())
      Act.drain : Act σ ς Unit).Leads scene (fun _ => done) failed
        halted := by
  obtain ⟨session, store, isService⟩ := leaving_isOver inSession off
  refine .bind (Act.leads_onWorld (fun console _ => ?_)
    fun moment console _ _ => ?_)
  · exact Act.leads_onConsole (isDone _ ⟨session, store, isService⟩)
  · exact isHalted _ _ isService

end Session

/-! ## The command -/

/-- The session that a command opens in a scene. -/
def opening {ς : Type} (scene : Scene σ ς) :
    Except StorageError (Poller σ) :=
  Poller.openPassive scene.world.store scene.world.supply
    scene.world.interval scene.world.clock

theorem opening_eq_ok {ς : Type} {scene : Scene σ ς} {poller : Poller σ}
    (isOpened : opening scene = .ok poller) :
    poller.store = scene.world.store ∧ poller.timer = .off := by
  unfold opening Poller.openPassive at isOpened
  cases found : KeyValueStore.read Dashboard.decoder scene.world.store
      StoreKey.dashboard.name with
  | error error =>
      rw [found] at isOpened
      cases isOpened
  | ok document =>
      rw [found] at isOpened
      cases isOpened
      exact ⟨rfl, rfl⟩

/-- The requests that a command has sent: none if there is no session. -/
def AsksFrom (command : EvaluatorCommand)
    (first last : Scene σ (OverheardService ς)) : Prop :=
  match opening first with
  | .error _ => last.world.service = first.world.service
  | .ok poller =>
      command.Asks poller.dashboard first.world.service last.world.service

/-- What a command leaves behind in whose session there was a poller. -/
structure Leaves (command : EvaluatorCommand) (poller : Poller σ)
    (succeeds : Bool) (first last : Scene σ (OverheardService ς)) :
    Prop where
  session : last.world.session = none
  result : (command.operation first.settings poller
    first.world.service).1.result.isOk = succeeds
  /-- The store is as the one operation of the command has left it. -/
  store : last.world.store = (command.operation first.settings poller
    first.world.service).1.poller.store
  reads : command.onlyReads = true → last.world.store = first.world.store
  idle : command = suspend → poller.running? = none →
    last.world.store = first.world.store
  refused : succeeds = false → last.world.store = first.world.store ∨
    ∃ (dashboard : Dashboard) (error : StorageError),
      KeyValueStore.write first.world.store StoreKey.dashboard.name
        dashboard.encode = (.error error, last.world.store)
  unmarked : last.world.store = first.world.store ∨
    ∃ dashboard : Dashboard, dashboard.IsUnmarked ∧
      last.world.store = (KeyValueStore.write first.world.store
        StoreKey.dashboard.name dashboard.encode).2

/-- What is left of a command: its requests, and in the store nothing but what
its operation has made of the dashboard. -/
structure Passes (command : EvaluatorCommand) (succeeds : Bool)
    (first last : Scene σ (OverheardService ς)) : Prop where
  asks : command.AsksFrom first last
  unopened : ∀ error, opening first = .error error →
    succeeds = false ∧ last.world.store = first.world.store
  opened : ∀ poller, opening first = .ok poller →
    command.Leaves poller succeeds first last

theorem leaves_of_isOver {command : EvaluatorCommand} {poller : Poller σ}
    {first last : Scene σ (OverheardService ς)} {succeeds : Bool}
    (sameStore : poller.store = first.world.store)
    (result : (command.operation first.settings poller
      first.world.service).1.result.isOk = succeeds)
    (isOver : IsOver (command.operation first.settings poller
        first.world.service).1.poller.store
      (command.operation first.settings poller first.world.service).2 last) :
    command.Leaves poller succeeds first last := by
  have settles := command.operation_settles first.settings poller
    first.world.service
  refine ⟨isOver.session, result, isOver.store, ?reads, ?idle, ?refused,
    ?unmarked⟩
  case reads =>
    intro onlyReads
    rw [isOver.store, operation_of_onlyReads first.settings poller onlyReads,
      sameStore]
  case idle =>
    rintro rfl notRunning
    rw [isOver.store, ← sameStore]
    simp [operation, Poller.suspend, notRunning, Poller.answer,
      Reaction.forget]
  case refused =>
    intro fails
    cases settles with
    | left same => exact .inl (by rw [isOver.store, same, sameStore])
    | put dashboard unmarked puts =>
        cases failed : (command.operation first.settings poller
            first.world.service).1.result with
        | ok done =>
            rw [failed, fails] at result
            cases result
        | error error =>
            obtain ⟨cause, -, notWritten⟩ := puts.failure error failed
            refine .inr ⟨dashboard, cause, ?_⟩
            rw [← sameStore, isOver.store, puts.store, ← notWritten]
  case unmarked =>
    cases settles with
    | left same => exact .inl (by rw [isOver.store, same, sameStore])
    | put dashboard unmarked puts =>
        refine .inr ⟨dashboard, unmarked, ?_⟩
        rw [isOver.store, puts.store, sameStore]

section Opened

variable {command : EvaluatorCommand} {poller : Poller σ}
  {first : Scene σ (OverheardService ς)} (opened : opening first = .ok poller)
include opened

omit [DelayedService ς] in
theorem asksFrom_of_opened {last : Scene σ (OverheardService ς)}
    (asks : command.Asks poller.dashboard first.world.service
      last.world.service) : command.AsksFrom first last := by
  unfold AsksFrom
  rw [opened]
  exact asks

theorem passes_of_isOver {last : Scene σ (OverheardService ς)}
    {succeeds : Bool}
    (result : (command.operation first.settings poller
      first.world.service).1.result.isOk = succeeds)
    (isOver : IsOver (command.operation first.settings poller
        first.world.service).1.poller.store
      (command.operation first.settings poller first.world.service).2 last) :
    command.Passes succeeds first last where
  asks := by
    refine asksFrom_of_opened opened ?_
    rw [isOver.service]
    exact asks_operation first.settings poller first.world.service command
  unopened error failed := by
    rw [opened] at failed
    cases failed
  opened other isOpened := by
    rw [opened] at isOpened
    cases isOpened
    exact leaves_of_isOver (opening_eq_ok opened).1 result isOver

/-- A session is left once the act of the command has ended. -/
theorem leads_session (brief : command.isBrief = true)
    {scene : Scene σ (OverheardService ς)}
    (inSession : Act.InSession first.settings poller first.world.service
      scene) :
    (command.act.andFinally fun outcome => do
      Act.onWorld fun world => (leaving outcome world, ())
      Act.drain).Leads scene (fun _ => command.Passes true first)
        (fun _ => command.Passes false first)
        fun _ => command.AsksFrom first := by
  have carries := act_carries brief (opening_eq_ok opened).2 inSession
  have halts {last : Scene σ (OverheardService ς)}
      (isService : last.world.service = (command.operation first.settings
        poller first.world.service).2) : command.AsksFrom first last := by
    refine asksFrom_of_opened opened ?_
    rw [isService]
    exact asks_operation first.settings poller first.world.service command
  refine Act.leads_andFinally (carries.mono ?_ ?_ ?_)
  · intro leave middle succeeds
    refine leads_leaving succeeds.inSession ?_ (fun last isOver => ?_)
      fun _ _ => halts
    · cases leave with
      | detach => exact .inl rfl
      | close => exact .inr (succeeds.timer rfl)
    · exact passes_of_isOver opened (by rw [succeeds.isOk]; rfl) isOver
  · intro error middle fails
    obtain ⟨cause, isError⟩ := fails.isError
    refine leads_leaving fails.inSession (.inr fails.timer)
      (fun last isOver => ?_) fun _ _ => halts
    exact passes_of_isOver opened (by rw [isError]; rfl) isOver
  · exact fun _ last asks => asksFrom_of_opened opened asks

end Opened

/-- Whatever is stored, whatever the service does and with whichever
arguments: a command that does not wait for a run carries out one operation and
leaves no more behind than this. -/
theorem perform_passes {command : EvaluatorCommand}
    (brief : command.isBrief = true)
    (first : Scene σ (OverheardService ς)) :
    command.perform.Leads first (fun _ => command.Passes true first)
      (fun _ => command.Passes false first)
      fun _ => command.AsksFrom first := by
  have passive : command.followsRun = false := by
    cases command <;> first | rfl | cases brief
  have isOpened : (if command.followsRun then first.world.openSession
      else first.world.openPassive) =
        match opening first with
        | .error error => (first.world, .error (.storage error))
        | .ok poller => (first.world.keep poller, .ok ()) := by
    rw [passive]
    rfl
  refine .bind (Act.leads_onWorld (fun console _ => ?_)
    fun moment console _ _ => ?_)
  all_goals
    dsimp only
    rw [isOpened]
    cases opened : opening first
  case refine_1.error error =>
    refine .bind (Act.leads_failed ⟨?_, ?_, ?_⟩)
    · unfold AsksFrom
      rw [opened]
    · exact fun _ _ => ⟨rfl, rfl⟩
    · intro poller isOpened
      rw [opened] at isOpened
      cases isOpened
  case refine_1.ok poller =>
    refine .bind (Act.leads_pure (.bind ?_))
    exact leads_session opened brief ⟨rfl, rfl, rfl, rfl⟩
  case refine_2.error error =>
    unfold AsksFrom
    rw [opened]
  case refine_2.ok poller =>
    exact asksFrom_of_opened opened (asks_of_asksWithin
      ⟨default, OverheardService.asksWithin_refl _ _⟩)

/-- A run is to be started and left to itself. -/
def startAside : EvaluatorCommand :=
  start (some "workflow") (some 5) (some "model-A") true

/-- Nothing is stored, and the service knows no models and starts the run. -/
def beforeStart : Scene MemoryStore (OverheardService RecordedService) :=
  .new .standard .empty
    ⟨.replaying [⟨.catalog, .ok Catalog.empty, 0⟩,
      ⟨.listModels, .ok ([] : List CustomModel), 0⟩,
      ⟨.startEvaluator ⟨"workflow", 5, some ⟨"model-A", none⟩⟩,
        .ok (⟨"run-1"⟩ : StartedRun), 0⟩], []⟩
    ⟨0, 0, ⟨0, 0⟩⟩ (.new false true none)

theorem perform_passes_startAside :
    startAside.isBrief = true ∧
      ∃ last, startAside.perform.run beforeStart = .ok () last ∧
        startAside.Passes true beforeStart last ∧
          last.world.service.requests = [.catalog, .listModels,
            .startEvaluator ⟨"workflow", 5, some ⟨"model-A", none⟩⟩] := by
  have brief : startAside.isBrief = true := rfl
  have leads := perform_passes brief beforeStart
  have asked : (match startAside.perform.run beforeStart with
      | .ok () last => some last.world.service.requests
      | .error _ _ => none) = some [.catalog, .listModels,
        .startEvaluator ⟨"workflow", 5, some ⟨"model-A", none⟩⟩] := by
    decide +kernel
  unfold Act.Leads at leads
  cases performed : startAside.perform.run beforeStart with
  | ok _ last =>
      rw [performed] at leads asked
      exact ⟨brief, last, rfl, leads, Option.some.inj asked⟩
  | error halt last =>
      rw [performed] at asked
      cases asked

end EvaluatorCommand

end AgentPipeline
