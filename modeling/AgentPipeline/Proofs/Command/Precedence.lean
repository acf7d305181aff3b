import AgentPipeline.Command.Run
import AgentPipeline.Proofs.Model.Selection
import AgentPipeline.Proofs.SortedMap.Merge
import Mathlib.Data.List.TakeWhile

/-!
# Which model comes first

The command line may name a model for a single agent and one for all of them;
behind these come the model that was selected before and the default of the
catalog.  Main statement: `resolveFor_selections`.
-/

namespace AgentPipeline

/-- A value names a model for an agent: around its first equals sign, up to
blanks. -/
structure Names (value agent model : String) : Prop where
  parts : ∃ before after, value = before ++ "=" ++ after ∧
    '=' ∉ before.toList ∧ agent = Text.trim before ∧ model = Text.trim after
  agent_ne : agent ≠ ""
  model_ne : model ≠ ""

/-- What the last of the values that name a model for an agent names. -/
inductive LastNamed (values : List String) (agent : String) :
    Option String → Prop
  | some {earlier later : List String} {value model : String}
      (split : values = earlier ++ value :: later)
      (names : Names value agent model)
      (last : ∀ other ∈ later, ∀ model, ¬Names other agent model) :
      LastNamed values agent (some model)
  | none (unnamed : ∀ value ∈ values, ∀ model, ¬Names value agent model) :
      LastNamed values agent none

/-! ## Values -/

/-- A character list with a character in it, parted at the first one. -/
theorem takeWhile_ne_append {first : Char} {before after : List Char}
    (isFirst : first ∉ before) :
    (before ++ first :: after).takeWhile (· ≠ first) = before := by
  rw [List.takeWhile_append_of_pos]
  · simp
  · intro character member
    rw [decide_eq_true_eq]
    rintro rfl
    exact isFirst member

theorem agentModel?_append {before : String} (after : String)
    (isFirst : '=' ∉ before.toList) :
    Command.agentModel? (before ++ "=" ++ after) =
      if Text.trim before = "" ∨ Text.trim after = "" then none
      else some (Text.trim before, Text.trim after) := by
  have characters : (before ++ "=" ++ after).toList =
      before.toList ++ '=' :: after.toList := by
    simp
  unfold Command.agentModel?
  simp only [characters, takeWhile_ne_append isFirst, List.drop_left,
    String.ofList_toList]

theorem agentModel?_of_notMem {value : String}
    (noSign : '=' ∉ value.toList) : Command.agentModel? value = none := by
  have allTaken : value.toList.takeWhile (· ≠ '=') = value.toList := by
    rw [List.takeWhile_eq_self_iff]
    intro character member
    rw [decide_eq_true_eq]
    rintro rfl
    exact noSign member
  unfold Command.agentModel?
  simp only [allTaken, List.drop_length]

/-- A value is accepted as what it names. -/
theorem agentModel?_eq_some_iff {value agent model : String} :
    Command.agentModel? value = some (agent, model) ↔
      Names value agent model := by
  constructor
  · intro accepted
    by_cases sign : '=' ∈ value.toList
    · obtain ⟨before, after, characters, isFirst⟩ :=
        List.eq_append_cons_of_mem sign
      obtain rfl : value =
          String.ofList before ++ "=" ++ String.ofList after := by
        apply String.toList_inj.mp
        simp [characters]
      rw [agentModel?_append _ (by simpa using isFirst)] at accepted
      split at accepted
      · cases accepted
      next given =>
        cases accepted
        exact ⟨⟨_, _, rfl, by simpa using isFirst, rfl, rfl⟩,
          fun noAgent => given (.inl noAgent),
          fun noModel => given (.inr noModel)⟩
    · rw [agentModel?_of_notMem sign] at accepted
      cases accepted
  · rintro ⟨⟨before, after, rfl, isFirst, rfl, rfl⟩, agent_ne, model_ne⟩
    rw [agentModel?_append after isFirst, if_neg (by simp [*])]

example : Command.agentModel? " parser = large=2 " =
    some ("parser", "large=2") := by decide

/-! ## Several values -/

section LastNamed

variable {value agent model : String} {values : List String}

theorem LastNamed.of_later (isLast : LastNamed values agent (.some model))
    (value : String) : LastNamed (value :: values) agent (.some model) := by
  cases isLast with
  | @some earlier later last model split names isLast =>
      subst split
      exact .some (List.cons_append ..).symm names isLast

/-- A value counts where none behind it names a model for the agent. -/
theorem LastNamed.of_first (isNone : LastNamed values agent .none)
    (names : Names value agent model) :
    LastNamed (value :: values) agent (.some model) := by
  cases isNone with
  | none unnamed => exact .some (List.nil_append _).symm names unnamed

theorem LastNamed.of_neither (isNone : LastNamed values agent .none)
    (unnamed : ∀ model, ¬Names value agent model) :
    LastNamed (value :: values) agent .none := by
  cases isNone with
  | none others => exact .none (List.forall_mem_cons.mpr ⟨unnamed, others⟩)

end LastNamed

theorem find?_ofList_cons (pair : String × String)
    (pairs : List (String × String)) (agent : String) :
    (SortedMap.ofList (pair :: pairs)).find? agent =
      ((SortedMap.ofList pairs).find? agent <|>
        if pair.1 = agent then some pair.2 else none) := by
  have single : (SortedMap.ofList [pair]).find? agent =
      if pair.1 = agent then some pair.2 else none := by
    split
    next same =>
      subst same
      exact SortedMap.find?_insert_self ..
    next different => exact SortedMap.find?_insert_of_ne different ..
  rw [← List.singleton_append, SortedMap.find?_ofList_append, single]

/-- The map of the pairs holds for an agent what the last value names. -/
theorem lastNamed_find? (values : List String) (agent : String) :
    LastNamed values agent ((SortedMap.ofList
      (values.filterMap Command.agentModel?)).find? agent) := by
  induction values with
  | nil => exact .none (by simp)
  | cons value values ih =>
      cases accepted : Command.agentModel? value with
      | none =>
          rw [List.filterMap_cons_none accepted]
          cases named : (SortedMap.ofList
              (values.filterMap Command.agentModel?)).find? agent with
          | some model => exact (named ▸ ih).of_later value
          | none =>
              refine (named ▸ ih).of_neither fun model names => ?_
              rw [agentModel?_eq_some_iff.mpr names] at accepted
              cases accepted
      | some pair =>
          rw [List.filterMap_cons_some accepted, find?_ofList_cons]
          have names : Names value pair.1 pair.2 :=
            agentModel?_eq_some_iff.mp accepted
          cases named : (SortedMap.ofList
              (values.filterMap Command.agentModel?)).find? agent with
          | some model => exact (named ▸ ih).of_later value
          | none =>
              rw [named] at ih
              split
              next same =>
                subst same
                exact ih.of_first names
              next different =>
                refine ih.of_neither fun model others => ?_
                have same := agentModel?_eq_some_iff.mpr others
                rw [accepted] at same
                exact different (congrArg Prod.fst (Option.some.inj same))

theorem LastNamed.ne_empty {values : List String} {agent : String}
    {named : Option String} (isLast : LastNamed values agent named) :
    named ≠ .some "" := by
  cases isLast with
  | some _ names =>
      exact fun isEmpty => names.model_ne (Option.some.inj isEmpty)
  | none => exact nofun

/-! ## All sources -/

theorem orElse_ne_empty {first second : Option String}
    (firstGiven : first ≠ some "") (secondGiven : second ≠ some "") :
    (first <|> second) ≠ some "" := by
  cases first with
  | none => exact secondGiven
  | some => exact firstGiven

theorem filter_of_ne_empty {source : Option String}
    (given : source ≠ some "") : source.filter (!·.isEmpty) = source := by
  cases source with
  | none => rfl
  | some name =>
      have notEmpty : name ≠ "" := fun isEmpty => given (congrArg some isEmpty)
      simp [Option.filter, notEmpty]

/-- The selections of a command choose for an agent what its pairs hold. -/
theorem choice?_selections (command : RunCommand)
    (selected : Option String) (agent : String) :
    (command.selections selected).choice? agent =
      (SortedMap.ofList command.agentModels).find? agent := by
  unfold RunCommand.selections ModelSelections.choice?
  cases command.agentModels with
  | nil => rfl
  | cons pair pairs => rfl

/-- Where no source is empty the model of an agent is the first that is given:
by the pairs of the command, by its model, by what was selected before and by
the catalog. -/
theorem resolveFor_selections {command : RunCommand}
    {registry : ModelRegistry} {stored : Option String} {agent : String}
    (pairGiven :
      (SortedMap.ofList command.agentModels).find? agent ≠ some "")
    (modelGiven : command.model ≠ some "") (storedGiven : stored ≠ some "")
    (defaultGiven : registry.catalog.defaultModel ≠ some "") :
    registry.resolveFor agent
        (command.selections (stored <|> registry.catalog.defaultModel)) =
      ((SortedMap.ofList command.agentModels).find? agent <|> command.model
        <|> stored <|> registry.catalog.defaultModel).map registry.config := by
  have selectedGiven : (command.model <|> stored <|>
      registry.catalog.defaultModel) ≠ some "" :=
    orElse_ne_empty modelGiven (orElse_ne_empty storedGiven defaultGiven)
  rw [ModelRegistry.resolveFor_eq, ModelRegistry.asked, ModelRegistry.sources,
    choice?_selections, RunCommand.selections, if_neg selectedGiven]
  congr 1
  simp only [List.take_succ_cons, List.take_zero, firstName_cons,
    firstName_nil, filter_of_ne_empty pairGiven,
    filter_of_ne_empty selectedGiven, filter_of_ne_empty defaultGiven]
  cases (SortedMap.ofList command.agentModels).find? agent <;>
    cases command.model <;> cases stored <;>
      cases registry.catalog.defaultModel <;> rfl

end AgentPipeline
