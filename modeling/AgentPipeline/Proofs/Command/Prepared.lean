import AgentPipeline.Command.Run

/-!
# What a run command prepares

A run is started on a new pipeline, with the registry that the store and the
service give and with the selections that the command makes of its own models
and of the one that is stored as selected.  Main statement: `prepare_gives`.
-/

namespace AgentPipeline

namespace Act

variable {σ ς α β : Type} {scene last : Scene σ ς}

/-- What gives a value gave one in its first part. -/
theorem exists_of_bind_ok {act : Act σ ς α} {next : α → Act σ ς β}
    {value : β} (performed : (act >>= next).run scene = .ok value last) :
    ∃ result middle, act.run scene = .ok result middle ∧
      (next result).run middle = .ok value last := by
  simp only [EStateM.run, Bind.bind, EStateM.bind] at performed
  cases first : act scene with
  | ok result middle =>
      rw [first] at performed
      exact ⟨result, middle, first, performed⟩
  | error halt middle =>
      rw [first] at performed
      cases performed

theorem run_get_bind (next : Scene σ ς → Act σ ς β) :
    (get >>= next).run scene = (next scene).run scene := rfl

theorem run_store_bind (next : σ → Act σ ς β) :
    (store >>= next).run scene = (next scene.world.store).run scene := rfl

theorem eq_of_expect_ok {ε : Type} {failure : ε → CommandError}
    {outcome : Except ε α} {result : α}
    (performed : (expect failure outcome).run scene = .ok result last) :
    outcome = .ok result ∧ last = scene := by
  cases outcome with
  | ok value =>
      cases performed
      exact ⟨rfl, rfl⟩
  | error => cases performed

theorem exists_of_expect_ok {ε : Type} {failure : ε → CommandError}
    {outcome : Except ε α} {next : α → Act σ ς β} {value : β}
    (performed : (expect failure outcome >>= next).run scene =
      .ok value last) :
    ∃ result, outcome = .ok result ∧
      (next result).run scene = .ok value last := by
  obtain ⟨result, _, expected, goesOn⟩ := exists_of_bind_ok performed
  obtain ⟨isOutcome, rfl⟩ := eq_of_expect_ok expected
  exact ⟨result, isOutcome, goesOn⟩

theorem eq_of_pure_ok {value result : α}
    (performed : (pure value : Act σ ς α).run scene = .ok result last) :
    result = value ∧ last = scene := by
  cases performed
  exact ⟨rfl, rfl⟩

theorem not_throw_ok {halt : Halt} {result : α}
    (performed : (throw halt : Act σ ς α).run scene = .ok result last) :
    False := by
  cases performed

theorem world_of_onConsole_ok {change : Console → Console} {result : Unit}
    (performed : (onConsole change).run scene = .ok result last) :
    last.world = scene.world := by
  cases performed
  rfl

/-- Reading the input leaves the world alone. -/
theorem world_of_readInput_ok {text : String}
    (performed : (readInput : Act σ ς String).run scene = .ok text last) :
    last.world = scene.world := by
  rw [readInput, run_get_bind] at performed
  dsimp only at performed
  split at performed
  next lines _ =>
    have typed : ∀ middle : Scene σ ς,
        (do
          onConsole fun console => { console with typed := some [] }
          return String.join lines : Act σ ς String).run middle =
            .ok text last → last.world = middle.world := by
      intro middle read
      obtain ⟨_, _, changed, returned⟩ := exists_of_bind_ok read
      obtain ⟨-, rfl⟩ := eq_of_pure_ok returned
      exact world_of_onConsole_ok changed
    split at performed
    · obtain ⟨_, _, thrown, _⟩ := exists_of_bind_ok performed
      exact (not_throw_ok thrown).elim
    · exact typed _ performed
  · exact (not_throw_ok performed).elim
  · split at performed
    · obtain ⟨-, rfl⟩ := eq_of_pure_ok performed
      rfl
    · exact (not_throw_ok performed).elim

variable [DelayedService ς]

/-- What is done to the world is done if it gives a value. -/
theorem world_of_onWorld_ok
    {change : EvaluatorRehearsal σ ς → EvaluatorRehearsal σ ς × α}
    {value : α}
    (performed : (onWorld change).run scene = .ok value last) :
    value = (change scene.world).2 ∧
      last.world = { (change scene.world).1 with log := [] } := by
  rw [onWorld, run_get_bind] at performed
  dsimp only at performed
  split at performed
  · obtain ⟨_, _, _, halted⟩ := exists_of_bind_ok performed
    obtain ⟨_, _, _, thrown⟩ := exists_of_bind_ok halted
    exact (not_throw_ok thrown).elim
  · obtain ⟨_, _, modified, kept⟩ := exists_of_bind_ok performed
    obtain ⟨_, _, absorbed, returned⟩ := exists_of_bind_ok kept
    obtain ⟨rfl, rfl⟩ := eq_of_pure_ok returned
    refine ⟨rfl, (world_of_onConsole_ok absorbed).trans ?_⟩
    cases modified
    rfl

/-- The registry is loaded from the store and the service, and the store stays
as it is. -/
theorem registry_of_loadRegistry_ok [KeyValueStore σ]
    {registry : ModelRegistry}
    (performed : loadRegistry.run scene = .ok registry last) :
    (ModelRegistry.load scene.world.store scene.world.service).1 =
        .ok registry ∧
      last.world.store = scene.world.store := by
  obtain ⟨outcome, _, loaded, expected⟩ := exists_of_bind_ok performed
  obtain ⟨rfl, sameWorld⟩ := world_of_onWorld_ok loaded
  obtain ⟨isLoaded, rfl⟩ := eq_of_expect_ok expected
  refine ⟨isLoaded, ?_⟩
  rw [sameWorld]

end Act

namespace RunCommand

variable {σ ς : Type} [KeyValueStore σ] [DelayedService ς]

/-- What a command that is carried out in a scene has prepared. -/
structure Prepares (command : RunCommand) (scene : Scene σ ς)
    (setting : Setting σ ς) : Prop where
  fresh : ∃ history supply maxAttempts service,
    setting.rehearsal =
      .new (.new history supply maxAttempts) service
  registry : (ModelRegistry.load scene.world.store scene.world.service).1 =
    .ok setting.registry
  selections : ∃ selected,
    setting.registry.selectedDefault scene.world.store = .ok selected ∧
      setting.request.selections = command.selections selected
  text : ∀ text, command.text = some text → setting.request.inputText = text

omit [KeyValueStore σ] [DelayedService ς] in
theorem world_of_readText_ok {command : RunCommand} {scene last : Scene σ ς}
    {text : String} (performed : command.readText.run scene = .ok text last) :
    last.world = scene.world ∧
      ∀ given, command.text = some given → text = given := by
  unfold readText at performed
  split at performed
  next given isGiven =>
    obtain ⟨rfl, rfl⟩ := Act.eq_of_pure_ok performed
    exact ⟨rfl, fun other isOther =>
      Option.some.inj (isGiven.symm.trans isOther)⟩
  next notGiven =>
    exact ⟨Act.world_of_readInput_ok performed, by simp [notGiven]⟩

theorem prepare_gives {command : RunCommand} {scene last : Scene σ ς}
    {setting : Setting σ ς}
    (performed : command.prepare.run scene = .ok setting last) :
    command.Prepares scene setting := by
  obtain ⟨inputText, _, read, behindText⟩ := Act.exists_of_bind_ok performed
  obtain ⟨sameWorld, isText⟩ := world_of_readText_ok read
  obtain ⟨registry, _, loaded, behindRegistry⟩ :=
    Act.exists_of_bind_ok behindText
  obtain ⟨isRegistry, sameStore⟩ := Act.registry_of_loadRegistry_ok loaded
  rw [Act.run_store_bind] at behindRegistry
  obtain ⟨selected, isSelected, behindSelected⟩ :=
    Act.exists_of_expect_ok behindRegistry
  rw [Act.run_get_bind, Act.run_store_bind] at behindSelected
  obtain ⟨history, -, behindHistory⟩ :=
    Act.exists_of_expect_ok behindSelected
  rw [Act.run_get_bind] at behindHistory
  obtain ⟨rfl, -⟩ := Act.eq_of_pure_ok behindHistory
  rw [sameStore, sameWorld] at isSelected
  rw [sameWorld] at isRegistry
  exact ⟨⟨_, _, _, _, rfl⟩, isRegistry, ⟨selected, isSelected, rfl⟩, isText⟩

end RunCommand

end AgentPipeline
