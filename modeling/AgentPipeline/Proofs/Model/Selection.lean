import AgentPipeline.Model.Registry

/-!
# The model of an agent

The model of an agent is the first name that its sources give: what the user
has chosen for the agent, the default of the user and that of the catalog.  A
default of the user that is empty keeps the catalog from being asked.
Main statement: `resolveFor_resolves`.
-/

namespace AgentPipeline

/-- The first name that is given; an empty one counts as not given. -/
def firstName (sources : List (Option String)) : Option String :=
  sources.findSome? (·.filter (!·.isEmpty))

@[simp]
theorem firstName_nil : firstName [] = none := rfl

theorem firstName_cons (source : Option String)
    (later : List (Option String)) :
    firstName (source :: later) =
      (source.filter (!·.isEmpty) <|> firstName later) := by
  rw [firstName, List.findSome?_cons]
  cases source.filter (!·.isEmpty) <;> rfl

theorem firstName_singleton (source : Option String) :
    firstName [source] = source.filter (!·.isEmpty) := by
  rw [firstName_cons, firstName_nil]
  cases source.filter (!·.isEmpty) <;> rfl

theorem filter_isEmpty_eq_none_iff {source : Option String} :
    source.filter (!·.isEmpty) = none ↔ source = none ∨ source = some "" := by
  cases source <;> simp

/-- A name is given exactly by a source that is neither absent nor empty. -/
theorem firstName_eq_none_iff {sources : List (Option String)} :
    firstName sources = none ↔
      ∀ source ∈ sources, source = none ∨ source = some "" := by
  simp only [firstName, List.findSome?_eq_none_iff,
    filter_isEmpty_eq_none_iff]

namespace ModelSelections

/-- What the user has chosen for an agent; with one model for all agents no
choice for a single one counts. -/
def choice? (selections : ModelSelections) (agent : String) :
    Option String :=
  match selections.mode with
  | .perAgent => selections.perAgent.find? agent
  | .single => none

end ModelSelections

namespace ModelRegistry

/-- The sources of the model of an agent, in the order in which they count. -/
def sources (registry : ModelRegistry) (agent : String)
    (selections : ModelSelections) : List (Option String) :=
  [selections.choice? agent, selections.defaultModel,
    registry.catalog.defaultModel]

/-- The sources that are asked: the catalog only where the default of the user
is not empty. -/
def asked (registry : ModelRegistry) (agent : String)
    (selections : ModelSelections) : List (Option String) :=
  (registry.sources agent selections).take
    (if selections.defaultModel = some "" then 2 else 3)

/-- The model is the first name that the sources give, with the connection of
the first model of the user with this identifier. -/
structure Resolves (registry : ModelRegistry) (sources : List (Option String))
    (resolved : Option ModelConfig) : Prop where
  named : resolved.map (·.model) = firstName sources
  absent : resolved = none ↔
    ∀ source ∈ sources, source = none ∨ source = some ""
  connected : ∀ config, resolved = some config → ∀ connection,
    config.connection = some connection ↔
      ∃ before model after, registry.custom = before ++ model :: after ∧
        (∀ other ∈ before, other.id ≠ config.model) ∧
        model.id = config.model ∧ model.connection = connection
  unconnected : ∀ config, resolved = some config →
    (config.connection = none ↔
      ∀ model ∈ registry.custom, model.id ≠ config.model)

theorem connection_config_eq_some_iff {registry : ModelRegistry}
    {name : String} {connection : ModelConnection} :
    (registry.config name).connection = some connection ↔
      ∃ before model after, registry.custom = before ++ model :: after ∧
        (∀ other ∈ before, other.id ≠ name) ∧ model.id = name ∧
        model.connection = connection := by
  simp only [config, find?, Option.map_eq_some_iff,
    List.find?_eq_some_iff_append, beq_iff_eq, Bool.not_eq_true',
    beq_eq_false_iff_ne]
  constructor
  · rintro ⟨model, ⟨isNamed, before, after, parts, others⟩, isConnection⟩
    exact ⟨before, model, after, parts, others, isNamed, isConnection⟩
  · rintro ⟨before, model, after, parts, others, isNamed, isConnection⟩
    exact ⟨model, ⟨isNamed, before, after, parts, others⟩, isConnection⟩

theorem connection_config_eq_none_iff {registry : ModelRegistry}
    {name : String} :
    (registry.config name).connection = none ↔
      ∀ model ∈ registry.custom, model.id ≠ name := by
  simp [config, find?, List.find?_eq_none]

/-- A name that sources give is configured by the registry. -/
theorem resolves_map_config (registry : ModelRegistry)
    (sources : List (Option String)) :
    registry.Resolves sources ((firstName sources).map registry.config) := by
  refine ⟨?named, ?absent, ?connected, ?unconnected⟩
  case named =>
    rw [Option.map_map]
    exact Option.map_id'
  case absent => rw [Option.map_eq_none_iff, firstName_eq_none_iff]
  case connected =>
    intro config isResolved connection
    obtain ⟨name, -, rfl⟩ := Option.map_eq_some_iff.mp isResolved
    exact connection_config_eq_some_iff
  case unconnected =>
    intro config isResolved
    obtain ⟨name, -, rfl⟩ := Option.map_eq_some_iff.mp isResolved
    exact connection_config_eq_none_iff

theorem resolve_eq (registry : ModelRegistry) (agent : String)
    (selections : ModelSelections) (defaultModel : Option String) :
    registry.resolve agent selections.mode selections.perAgent defaultModel =
      (firstName [selections.choice? agent, defaultModel]).map
        registry.config := by
  unfold resolve ModelSelections.choice?
  rw [firstName_cons, firstName_singleton]
  cases selections.mode <;> rfl

theorem resolveFor_eq (registry : ModelRegistry) (agent : String)
    (selections : ModelSelections) :
    registry.resolveFor agent selections =
      (firstName (registry.asked agent selections)).map registry.config := by
  rw [resolveFor, resolve_eq, asked, sources]
  congr 1
  cases selections.defaultModel with
  | none => simp [firstName_cons]
  | some name =>
      by_cases isEmpty : name = ""
      · simp [isEmpty]
      · simp [firstName_cons, isEmpty, Option.filter]

/-- What the sources that are asked give differs from what all sources give
only where the catalog alone gives a name. -/
theorem firstName_asked_ne_iff {registry : ModelRegistry} {agent : String}
    {selections : ModelSelections} :
    firstName (registry.asked agent selections) ≠
        firstName (registry.sources agent selections) ↔
      selections.defaultModel = some "" ∧
        firstName [selections.choice? agent] = none ∧
        firstName [registry.catalog.defaultModel] ≠ none := by
  unfold asked sources
  by_cases isEmpty : selections.defaultModel = some ""
  · have silent : (some "").filter (fun name => !String.isEmpty name) = none :=
      rfl
    simp only [isEmpty, if_true, true_and, List.take_succ_cons,
      List.take_zero, firstName_cons, firstName_nil, silent]
    cases (selections.choice? agent).filter (!·.isEmpty) <;>
      cases registry.catalog.defaultModel.filter (!·.isEmpty) <;> simp
  · simp [isEmpty]

/-- For every agent the model is the first name that the sources which are
asked give, with its connection.  It is the first name of all sources unless
the default of the user is empty, nothing is chosen for the agent and the
catalog has a default. -/
theorem resolveFor_resolves (registry : ModelRegistry) (agent : String)
    (selections : ModelSelections) :
    let resolved := registry.resolveFor agent selections
    registry.Resolves (registry.asked agent selections) resolved ∧
      (¬registry.Resolves (registry.sources agent selections) resolved ↔
        selections.defaultModel = some "" ∧
          firstName [selections.choice? agent] = none ∧
          firstName [registry.catalog.defaultModel] ≠ none) := by
  intro resolved
  have resolves : registry.Resolves (registry.asked agent selections)
      resolved := by
    rw [show resolved = _ from registry.resolveFor_eq agent selections]
    exact registry.resolves_map_config _
  refine ⟨resolves, ?_⟩
  rw [← firstName_asked_ne_iff]
  refine not_congr ⟨fun all => resolves.named.symm.trans all.named, ?_⟩
  intro same
  rw [show resolved = _ from registry.resolveFor_eq agent selections, same]
  exact registry.resolves_map_config _

end ModelRegistry

end AgentPipeline
