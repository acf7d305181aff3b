import AgentPipeline.Proofs.Command.Precedence
import AgentPipeline.Proofs.Command.Prepared
import AgentPipeline.Proofs.Command.Pursuit
import AgentPipeline.Proofs.Pipeline.PursuitModels
import AgentPipeline.Rehearsal.Service
import AgentPipeline.Store.Memory

/-!
# The models of a run that a command starts

Every stage of the run has the model that comes first for its agent, from the
start to the end of the run, and without one for the first stage the run is
refused.  Main statement: `goesWith_of_prepare`.
-/

namespace AgentPipeline

namespace Pipeline

variable {σ : Type} [KeyValueStore σ]

/-- A run is refused for want of a model when all else would be accepted. -/
theorem start_noModel_iff (pipeline : Pipeline σ) (request : RunRequest)
    (registry : ModelRegistry) :
    (pipeline.start request registry).result = some (.error .noModel) ↔
      Text.isBlankText request.inputText = false ∧
        pipeline.isBusy = false ∧ registry.connectivity = .online ∧
        registry.resolveFor Stage.parse.agent request.selections = none := by
  unfold start
  split
  next blank => simp [refuse, blank]
  next notBlank =>
  split
  next busy => simp [refuse, busy]
  next notBusy =>
  split
  next unreachable => simp [refuse, unreachable]
  next online =>
  dsimp only
  split
  next unresolved =>
    simp only [PerStage.ofFunction] at unresolved
    simp_all [refuse]
  next config resolved =>
    simp only [PerStage.ofFunction] at resolved
    rw [callStage_eq_dispatch _ (CancelGroup.reason?_issue _)
      (Run.new_isReady ..)]
    simp [resolved, dispatch]

/-- A run that is accepted has a model for its first stage. -/
theorem resolved_of_start {pipeline : Pipeline σ}
    (free : pipeline.awaited = none) {request : RunRequest}
    {registry : ModelRegistry}
    (goesOn : (pipeline.start request registry).result = none) :
    (registry.resolveFor Stage.parse.agent request.selections).isSome := by
  have takes := start_takes free request registry
  generalize pipeline.start request registry = turn at takes goesOn
  cases takes with
  | dispatch dispatches =>
      cases dispatches with
      | start _ _ _ _ resolved => exact resolved
  | pass passes =>
      cases passes with
      | busy waiting => simp [free] at waiting
  | refuse | conclude => cases goesOn

end Pipeline

namespace Pursuit

variable {σ : Type} [KeyValueStore σ] (history : History σ) (supply : Supply)
  (maxAttempts : UInt32) (assumesYes : Bool) (request : RunRequest)
  (registry : ModelRegistry)

/-- A pursuit has failed at the beginning if the start was refused, and
otherwise the start has not returned. -/
theorem failed_or_goesOn :
    let fresh : Pipeline σ := .new history supply maxAttempts
    (∃ error, (fresh.start request registry).result = some (.error error) ∧
      (begin fresh assumesYes request registry).phase =
        .ended (.failed error)) ∨
    (fresh.start request registry).result = none ∧
      ∀ error, (begin fresh assumesYes request registry).phase ≠
        .ended (.failed error) := by
  intro fresh
  rcases start_new history supply maxAttempts request registry with
    ⟨error, isTurn⟩ | isTurn
  · refine .inl ⟨error, ?_, ?_⟩
    · rw [isTurn]
      rfl
    · simp only [begin, fresh, isTurn]
      rfl
  · refine .inr ⟨?_, ?_⟩
    · rw [isTurn]
      rfl
    · intro error isOver
      simp only [begin, fresh, isTurn] at isOver
      cases isOver

/-- A pursuit fails for want of a model exactly if the start was refused for
it. -/
theorem failed_noModel_iff {events : List PursuitEvent}
    {error : PipelineError} :
    let fresh : Pipeline σ := .new history supply maxAttempts
    ((begin fresh assumesYes request registry).after events).phase =
        .ended (.failed error) →
      (error = .noModel ↔
        (fresh.start request registry).result = some (.error .noModel)) := by
  intro fresh isOver
  rcases failed_or_goesOn history supply maxAttempts assumesYes request
    registry with ⟨refusal, refused, isPhase⟩ | ⟨goesOn, notFailed⟩
  · have same := (after_of_over isPhase events).symm.trans isOver
    simp only [PursuitPhase.ended.injEq, PursuitEnd.failed.injEq] at same
    subst same
    rw [refused]
    simp
  · have ends := endsInTime_begin history supply maxAttempts assumesYes
      request registry events
    rw [goesOn]
    rcases ends.failed error isOver with atFirst | ⟨stage, message, rfl⟩
    · exact absurd atFirst (notFailed error)
    · simp

end Pursuit

namespace RunCommand

variable {σ ς : Type} [KeyValueStore σ] [DelayedService ς]

/-- The turn in which the run of a setting is started. -/
def Setting.started (setting : Setting σ ς) : Turn σ :=
  setting.rehearsal.pipeline.start setting.request setting.registry

/-- How the run of a setting goes where the agents have some models: whether
it is refused for want of one, which models it names, with which it makes its
calls, and what the command returns or fails with. -/
structure Setting.GoesWith (setting : Setting σ ς) (assumesYes : Bool)
    (chosen : String → Option String) : Prop where
  refused : setting.started.result = some (.error .noModel) ↔
    Text.isBlankText setting.request.inputText = false ∧
      setting.rehearsal.pipeline.isBusy = false ∧
      setting.registry.connectivity = .online ∧
      chosen Stage.parse.agent = none
  named : ∀ run, setting.started.pipeline.run = some run → ∀ stage,
    run.models.get stage = some (chosen stage.agent)
  called : ∀ request ∈ setting.started.requests,
    request.model =
      (chosen request.stage.agent).map setting.registry.config
  calledLater : ∀ events event, ∀ request ∈
    (((Pursuit.begin setting.rehearsal.pipeline assumesYes setting.request
      setting.registry).after events).step event).turn.requests,
    request.model =
      (chosen request.stage.agent).map setting.registry.config
  driven : (Act.drive assumesYes setting.rehearsal setting.request
    setting.registry).Yields
      (fun run => (chosen Stage.parse.agent).isSome ∧
        ∀ stage, run.models.get stage = some (chosen stage.agent))
      (fun failure => failure = .pipeline .noModel ↔
        setting.started.result = some (.error .noModel))

/-- A setting with a new pipeline goes with the models that its registry
resolves. -/
theorem Setting.goesWith {setting : Setting σ ς} {assumesYes : Bool}
    {chosen : String → Option String}
    (fresh : ∃ history supply maxAttempts service, setting.rehearsal =
      .new (.new history supply maxAttempts) service)
    (resolves : ∀ agent,
      setting.registry.resolveFor agent setting.request.selections =
        (chosen agent).map setting.registry.config) :
    setting.GoesWith assumesYes chosen := by
  obtain ⟨rehearsal, request, registry⟩ := setting
  obtain ⟨history, supply, maxAttempts, service, rfl⟩ := fresh
  dsimp only at resolves
  have resolved : (PerStage.ofFunction fun stage : Stage =>
      registry.resolveFor stage.agent request.selections) =
      PerStage.ofFunction fun stage =>
        (chosen stage.agent).map registry.config :=
    congrArg PerStage.ofFunction (funext fun stage => resolves stage.agent)
  have steady := Pursuit.begin_isSteady history supply maxAttempts assumesYes
    request registry
  obtain ⟨keeps, calls⟩ := Pursuit.begin_keeps history supply maxAttempts
    assumesYes request registry
  rw [resolved] at keeps calls
  have later := Pursuit.keeps_after steady keeps
  have names : ∀ run : Run, run.Names (PerStage.ofFunction fun stage =>
      (chosen stage.agent).map registry.config) →
      ∀ stage, run.models.get stage = some (chosen stage.agent) := by
    intro run names stage
    rw [names stage, PerStage.get_ofFunction, Option.map_map]
    exact congrArg some Option.map_id'
  refine ⟨?refused, ?named, ?called, ?calledLater, ?driven⟩
  case refused =>
    rw [← Option.map_eq_none_iff, ← resolves]
    exact Pipeline.start_noModel_iff ..
  case named => exact fun run current => names run (keeps.current run current)
  case called =>
    intro sent isSent
    rw [calls sent isSent, PerStage.get_ofFunction]
  case calledLater =>
    intro events event sent isSent
    rw [(later events).2 event sent isSent, PerStage.get_ofFunction]
  case driven =>
    intro scene
    refine Act.yieldsIn_iff_leads.mpr ((Act.leads_drive history supply
      maxAttempts service assumesYes request registry scene).mono ?_ ?_ ?_)
    · rintro run _ ⟨events, remark, -, isLeft⟩
      refine ⟨?_, names run ((later events).1.left run remark isLeft)⟩
      rcases Pursuit.failed_or_goesOn history supply maxAttempts assumesYes
        request registry with ⟨error, _, refused⟩ | ⟨goesOn, _⟩
      · cases (Pursuit.after_of_over refused events).symm.trans isLeft
      · have isResolved := Pipeline.resolved_of_start rfl goesOn
        rwa [resolves, Option.isSome_map] at isResolved
    · rintro failure _ ⟨events, error, rfl, -, isOver⟩
      rw [CommandError.pipeline.injEq]
      exact Pursuit.failed_noModel_iff history supply maxAttempts assumesYes
        request registry isOver
    · rintro wanted _ ⟨lacks, _⟩
      exact lacks

/-- Whatever a command line says, the run that it starts goes with the models
that come first: those of its values for single agents, its model for all, the
one that is stored as selected and the default of the catalog. -/
theorem goesWith_of_prepare {line : CommandLine}
    (modelGiven : line.value? "model" ≠ some "") {scene last : Scene σ ς}
    {setting : Setting σ ς}
    (prepared : (Command.runOf line).prepare.run scene = .ok setting last)
    {stored : Option String}
    (isStored : KeyValueStore.read Decoder.text scene.world.store
      StoreKey.selectedModel.name = .ok stored)
    (storedGiven : stored ≠ some "")
    (defaultGiven : setting.registry.catalog.defaultModel ≠ some "") :
    (Command.runOf line).Prepares scene setting ∧
      ∃ named : String → Option String,
        (∀ agent,
          LastNamed (line.values "agent-model") agent (named agent)) ∧
        setting.GoesWith (Command.runOf line).assumesYes fun agent =>
          named agent <|> line.value? "model" <|> stored <|>
            setting.registry.catalog.defaultModel := by
  have prepares := prepare_gives prepared
  refine ⟨prepares, fun agent => (SortedMap.ofList
    (Command.runOf line).agentModels).find? agent,
    fun agent => lastNamed_find? _ agent, Setting.goesWith prepares.fresh ?_⟩
  intro agent
  obtain ⟨selected, isSelected, selections⟩ := prepares.selections
  have isDefault : selected =
      (stored <|> setting.registry.catalog.defaultModel) := by
    rw [ModelRegistry.selectedDefault, isStored] at isSelected
    exact (Except.ok.inj isSelected).symm
  rw [selections, isDefault]
  exact resolveFor_selections (lastNamed_find? _ agent).ne_empty modelGiven
    storedGiven defaultGiven

/-- Two models are named for the first agent, and none for the others. -/
def namingTwice : CommandLine :=
  ⟨["run"], [("text", some "Users can read."),
    ("agent-model", some "parser=small"),
    ("agent-model", some "parser = large=2 ")]⟩

def withDefault : Scene MemoryStore ScriptedService :=
  .new .standard .empty
    { ScriptedService.new with catalog := ⟨[], some "basic"⟩ }
    ⟨0, 0, ⟨0, 0⟩⟩ (.new false true none)

theorem goesWith_of_prepare_namingTwice :
    ∃ setting last,
      (Command.runOf namingTwice).prepare.run withDefault =
          .ok setting last ∧
        (Command.runOf namingTwice).Prepares withDefault setting ∧
        ∃ named : String → Option String,
          (∀ agent, LastNamed (namingTwice.values "agent-model") agent
            (named agent)) ∧
          setting.GoesWith false fun agent =>
            named agent <|> none <|> none <|> some "basic" := by
  have stored : KeyValueStore.read Decoder.text withDefault.world.store
      StoreKey.selectedModel.name = .ok none := rfl
  refine ⟨_, _, rfl, ?_⟩
  exact goesWith_of_prepare (by decide) rfl stored (by decide) (by decide)

end RunCommand

end AgentPipeline
