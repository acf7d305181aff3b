import AgentPipeline.Proofs.Pipeline.PursuitEnd

/-!
# The models in the pursuit of a run

The models of a run are resolved when it is started.  Until it is left they
stay as they are: they are the models of every call and those that the run
names.  Main statement: `keeps_after`.
-/

namespace AgentPipeline

/-- The run names the models that were resolved for its stages. -/
def Run.Names (run : Run) (resolved : PerStage (Option ModelConfig)) : Prop :=
  ∀ stage, run.models.get stage =
    some ((resolved.get stage).map (·.model))

/-- Every call of the turn has the model that was resolved for its stage. -/
def Turn.CallsWith {σ : Type} (turn : Turn σ)
    (resolved : PerStage (Option ModelConfig)) : Prop :=
  ∀ request ∈ turn.requests, request.model = resolved.get request.stage

section Takes

variable {σ : Type} {pipeline : Pipeline σ} {happening : Happening σ}

/-- A run that goes on has the models that it had. -/
theorem Pipeline.Dispatches.models {base : Pipeline σ} {run : Run}
    {token : TokenId} {input : StageInput} {events : List Event}
    (dispatches : pipeline.Dispatches happening base run token input events)
    (notStart : ∀ request registry,
      happening ≠ .occurrence (.start request registry)) :
    base.stageModels = pipeline.stageModels ∧
      ∃ before, pipeline.run = some before ∧ run.models = before.models := by
  cases dispatches with
  | start => exact absurd rfl (notStart _ _)
  | continueRun _ current | regenerate _ current =>
      exact ⟨rfl, _, current, rfl⟩
  | reply _ current => exact ⟨rfl, _, current, rfl⟩

theorem Pipeline.Concludes.models {tokens : CancelGroup} {run : Run}
    {events : List Event} {result : Except PipelineError Run}
    (concludes : pipeline.Concludes happening tokens run events result) :
    ∃ before, pipeline.run = some before ∧ run.models = before.models := by
  cases concludes with
  | cancel current => exact ⟨_, current, rfl⟩
  | fail _ current => exact ⟨_, current, rfl⟩
  | pause _ current _ _ _ _ isPaused =>
      subst isPaused
      exact ⟨_, current, rfl⟩
  | complete _ current _ _ _ isCompleted =>
      subst isCompleted
      exact ⟨_, current, rfl⟩

theorem Turn.callsWith_dispatch {base : Pipeline σ}
    {resolved : PerStage (Option ModelConfig)}
    (isResolved : base.stageModels = resolved) (run : Run) (token : TokenId)
    (input : StageInput) (events : List Event) :
    ((base.dispatch run token input).afterEvents events).CallsWith
      resolved := by
  subst isResolved
  intro request isSent
  rw [requests_afterEvents, Pipeline.requests_dispatch,
    List.mem_singleton] at isSent
  subst isSent
  rfl

theorem Turn.callsWith_of_silent {turn : Turn σ}
    (silent : turn.requests = [])
    (resolved : PerStage (Option ModelConfig)) : turn.CallsWith resolved := by
  intro request isSent
  rw [silent] at isSent
  cases isSent

end Takes

namespace Pursuit

variable {σ : Type}

/-- The models of a pursuit are those that were resolved, wherever they occur;
as long as there is no run none need have been. -/
structure Keeps (pursuit : Pursuit σ)
    (resolved : PerStage (Option ModelConfig)) : Prop where
  stageModels : pursuit.pipeline.run.isSome →
    pursuit.pipeline.stageModels = resolved
  current : ∀ run, pursuit.pipeline.run = some run → run.Names resolved
  asked : ∀ question run, pursuit.phase = .asking question run →
    run.Names resolved
  left : ∀ run remark, pursuit.phase = .ended (.left run remark) →
    run.Names resolved

variable {pursuit : Pursuit σ} {resolved : PerStage (Option ModelConfig)}

theorem Keeps.of_same (keeps : pursuit.Keeps resolved) {run : Run}
    (same : ∃ before, pursuit.pipeline.run = some before ∧
      run.models = before.models) :
    pursuit.pipeline.stageModels = resolved ∧ run.Names resolved := by
  obtain ⟨before, current, models⟩ := same
  refine ⟨keeps.stageModels (Option.isSome_of_eq_some current), ?_⟩
  intro stage
  rw [models]
  exact keeps.current before current stage

theorem keeps_of_refused {error : PipelineError}
    (noRun : pursuit.pipeline.run = none)
    (refused : pursuit.phase = .ended (.failed error))
    (resolved : PerStage (Option ModelConfig)) : pursuit.Keeps resolved where
  stageModels isRun := by simp [noRun] at isRun
  current run current := by simp [noRun] at current
  asked question run isPhase := by simp [refused] at isPhase
  left run remark isPhase := by simp [refused] at isPhase

variable [KeyValueStore σ] {event : PursuitEvent} {step : PursuitStep σ}

/-- Whatever an event leads to, the models stay. -/
theorem Goes.keeps (goes : pursuit.Goes event step)
    (keeps : pursuit.Keeps resolved) :
    Keeps ⟨step.turn.pipeline, pursuit.assumesYes, step.phase⟩ resolved ∧
      step.turn.CallsWith resolved := by
  cases goes with
  | fire reason =>
      exact ⟨⟨keeps.stageModels, keeps.current, keeps.asked, keeps.left⟩,
        Turn.callsWith_of_silent rfl resolved⟩
  | stay =>
      exact ⟨keeps, Turn.callsWith_of_silent rfl resolved⟩
  | advance _ dispatches | continueRun _ dispatches
  | regenerate _ dispatches =>
      obtain ⟨sameModels, same⟩ := dispatches.models (by simp)
      obtain ⟨stageModels, names⟩ := keeps.of_same same
      have isResolved := sameModels.trans stageModels
      refine ⟨⟨fun _ => isResolved, ?_, by simp, by simp⟩,
        Turn.callsWith_dispatch isResolved _ _ _ _⟩
      rintro run current
      cases current
      exact names
  | conclude _ concludes leads =>
      obtain ⟨stageModels, names⟩ := keeps.of_same concludes.models
      refine ⟨⟨fun _ => stageModels, ?_, ?_, ?_⟩,
        Turn.callsWith_of_silent (by simp) resolved⟩
      · rintro run current
        cases current
        exact names
      · rintro question run isPhase
        cases leads with
        | fail | rest => cases isPhase
        | pause | invalid =>
            cases isPhase
            exact names
      · rintro run remark isPhase
        cases leads with
        | fail | pause | invalid => cases isPhase
        | rest =>
            cases isPhase
            exact names
  | settle _ concludes =>
      obtain ⟨stageModels, names⟩ := keeps.of_same concludes.models
      refine ⟨⟨fun _ => stageModels, ?_, by simp, ?_⟩,
        Turn.callsWith_of_silent (by simp) resolved⟩
      · rintro run current
        cases current
        exact names
      · rintro run remark isPhase
        cases isPhase
        exact names
  | @leave question run isPhase =>
      refine ⟨⟨keeps.stageModels, keeps.current, by simp, ?_⟩,
        Turn.callsWith_of_silent rfl resolved⟩
      rintro left remark isLeft
      cases isLeft
      exact keeps.asked question run isPhase

/-- The models stay whatever happens, and every call is made with them. -/
theorem keeps_after (steady : pursuit.IsSteady)
    (keeps : pursuit.Keeps resolved) (events : List PursuitEvent) :
    (pursuit.after events).Keeps resolved ∧
      ∀ event, ((pursuit.after events).step event).turn.CallsWith
        resolved := by
  induction events generalizing pursuit with
  | nil =>
      exact ⟨keeps, fun event => ((goes_step steady event).keeps keeps).2⟩
  | cons event later ih =>
      exact ih (steady.next event) ((goes_step steady event).keeps keeps).1

/-- The models are resolved when the run is started. -/
theorem begin_keeps (history : History σ) (supply : Supply)
    (maxAttempts : UInt32) (assumesYes : Bool) (request : RunRequest)
    (registry : ModelRegistry) :
    let fresh : Pipeline σ := .new history supply maxAttempts
    let resolved := PerStage.ofFunction fun stage =>
      registry.resolveFor stage.agent request.selections
    (begin fresh assumesYes request registry).Keeps resolved ∧
      (fresh.start request registry).CallsWith resolved := by
  intro fresh resolved
  rcases start_new history supply maxAttempts request registry with
    ⟨error, isTurn⟩ | isTurn
  · simp only [begin, fresh, isTurn]
    exact ⟨keeps_of_refused rfl rfl _, Turn.callsWith_of_silent rfl _⟩
  · have names : (fresh.runOf request registry).Names resolved := by
      intro stage
      simp [Pipeline.runOf, Run.new, resolved]
    simp only [begin, fresh, isTurn]
    refine ⟨⟨fun _ => rfl, ?_, ?_, ?_⟩, Turn.callsWith_dispatch rfl _ _ _ _⟩
    · rintro run current
      cases current
      exact names
    · rintro question run isPhase
      cases isPhase
    · rintro run remark isPhase
      cases isPhase

end Pursuit

end AgentPipeline
