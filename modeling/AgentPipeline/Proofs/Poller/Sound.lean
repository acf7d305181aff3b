import AgentPipeline.Proofs.Poller.Cursor
import AgentPipeline.Proofs.Poller.Lifecycle

/-!
# Sound dashboards

Writes may fail, and then the next session finds another dashboard than the
one that was last in memory.  Both are sound whatever has happened.
-/

namespace AgentPipeline

/-- What the run holds fits its status, and its times have names. -/
def Dashboard.IsSound (dashboard : Dashboard) : Prop :=
  ∀ run, dashboard.run = some run → run.IsConsistent ∧ run.HasTimes

/-- A dashboard that is sound when it is written is so when it is found. -/
theorem Dashboard.IsSound.parse? {dashboard : Dashboard}
    (sound : dashboard.IsSound) :
    ((decoder.parse? dashboard.encode.text).getD .empty).IsSound := by
  intro run isRun
  obtain ⟨kept, metrics, startedAt, updatedAt, isKept, isMetrics, isStarted,
    isUpdated, rfl⟩ := run_parse?_text isRun
  obtain ⟨consistent, times⟩ := sound kept isKept
  rw [Timestamp.parse?_print times.startedAt] at isStarted
  rw [Timestamp.parse?_print times.updatedAt] at isUpdated
  cases isStarted
  cases isUpdated
  have noMetrics : kept.metrics = none → metrics = none := by
    intro isNone
    rw [isNone] at isMetrics
    exact (Option.some.inj isMetrics).symm
  constructor
  · exact
      { consistent with
        metrics := fun present => consistent.metrics (mt noMetrics present) }
  · exact ⟨times.startedAt, times.updatedAt⟩

theorem RunMove.isSound
    {now : Timestamp} {cause : RunCause} {before after : Option EvaluatorRun}
    (move : RunMove now cause before after) (nameable : now.IsNameable)
    (sound : ∀ run, before = some run → run.IsConsistent ∧ run.HasTimes) :
    ∀ run, after = some run → run.IsConsistent ∧ run.HasTimes := by
  intro run isRun
  constructor
  · apply move.isConsistent _ run isRun
    intro earlier isEarlier
    exact (sound earlier isEarlier).1
  · apply move.hasTimes nameable _ run isRun
    intro earlier isEarlier
    exact (sound earlier isEarlier).2

namespace Desk

variable {σ ς : Type} [KeyValueStore σ] [AgentService ς]
  {holds : σ → String → Option String}

/-- The dashboards in memory and in the store are sound. -/
structure IsSound (holds : σ → String → Option String) (desk : Desk σ ς) :
    Prop where
  inMemory : desk.poller.dashboard.IsSound
  inStore : (desk.stored holds).IsSound

theorem IsSound.step (durable : KeyValueStore.Durable holds)
    {desk : Desk σ ς} (sound : desk.IsSound holds) (moment : Moment)
    (step : SessionStep) : (desk.step moment step).IsSound holds := by
  have moved := desk.step_movedFrom moment step
  have base : (desk.base step).IsSound := by
    unfold base
    cases loaded : desk.loaded? step with
    | none => exact sound.inMemory
    | some dashboard =>
        rw [eq_stored_of_loaded? durable loaded]
        exact sound.inStore
  have memory : (desk.step moment step).poller.dashboard.IsSound := by
    cases moved with
    | unchanged isDashboard _ _ _ =>
        rw [isDashboard]
        exact base
    | moved _ move _ _ _ => exact move.isSound moment.isNameable base
    | started _ _ isRun move _ _ _ =>
        intro run isStarted
        rw [isRun] at isStarted
        exact move.isSound moment.isNameable base run isStarted
    | asked _ _ isDashboard _ _ _ =>
        rw [isDashboard]
        exact base
  refine ⟨memory, ?_⟩
  rcases moved.isWritten_or_same durable with isWritten | isSame
  · rw [Desk.stored, isWritten]
    exact memory.parse?
  · rw [isSame]
    exact sound.inStore

theorem IsSound.after_steps (durable : KeyValueStore.Durable holds)
    {desk : Desk σ ς} (sound : desk.IsSound holds)
    (steps : List (Moment × SessionStep)) :
    (desk.after steps).IsSound holds := by
  induction steps generalizing desk with
  | nil => exact sound
  | cons next rest ih => exact ih (sound.step durable next.1 next.2)

end Desk

end AgentPipeline
