import AgentPipeline.Proofs.Codec.Evaluation
import AgentPipeline.Proofs.Evaluation.TakeOver
import AgentPipeline.Proofs.Poller.Desk
import AgentPipeline.Proofs.Store.Faultless

/-!
# Memory and store

On a store that does not fail the stored dashboard agrees with the one in
memory, whatever happens at the desk.  How closely they agree depends on the
tables of metrics, which may be too deep to be read back.
-/

namespace AgentPipeline

/-- A move gives a run no time but that of the move. -/
theorem RunMove.times {property : Timestamp → Prop}
    {now : Timestamp} {cause : RunCause} {before after : Option EvaluatorRun}
    (move : RunMove now cause before after) (present : property now)
    (times : ∀ run, before = some run →
      property run.startedAt ∧ property run.updatedAt) :
    ∀ run, after = some run →
      property run.startedAt ∧ property run.updatedAt := by
  intro run isRun
  cases move with
  | keep => exact times run isRun
  | start _ _ _ _ _ =>
      cases isRun
      exact ⟨present, present⟩
  | suspend _ _ | resume _ | stop _ =>
      cases isRun
      exact ⟨(times _ rfl).1, present⟩
  | clear _ => cases isRun
  | poll _ _ taken =>
      cases isRun
      have takesOver := EvaluatorRun.takeOver_eq_ok taken
      constructor
      · rw [takesOver.startedAt]
        exact (times _ rfl).1
      · rw [takesOver.updatedAt]
        exact present

theorem RunMove.hasTimes
    {now : Timestamp} {cause : RunCause} {before after : Option EvaluatorRun}
    (move : RunMove now cause before after) (nameable : now.IsNameable)
    (times : ∀ run, before = some run → run.HasTimes) :
    ∀ run, after = some run → run.HasTimes := by
  intro run isRun
  obtain ⟨startedAt, updatedAt⟩ :=
    move.times nameable (fun earlier isEarlier =>
      ⟨(times earlier isEarlier).startedAt,
        (times earlier isEarlier).updatedAt⟩) run isRun
  exact ⟨startedAt, updatedAt⟩

/-- A way in which a stored dashboard may agree with one in memory. -/
structure Dashboard.Agreement (agree : Dashboard → Dashboard → Prop) :
    Prop where
  refl (dashboard : Dashboard) : agree dashboard dashboard
  hasTimes {dashboard stored : Dashboard} (agrees : agree dashboard stored)
    (times : dashboard.HasTimes) : stored.HasTimes

/-- Whole, or without its run or with another table of metrics. -/
def Dashboard.Resembles (dashboard stored : Dashboard) : Prop :=
  ∀ run, stored.run = some run →
    ∃ kept, dashboard.run = some kept ∧
      run = { kept with metrics := run.metrics }

namespace Dashboard

theorem agreement_eq : Agreement fun dashboard stored => stored = dashboard where
  refl _ := rfl
  hasTimes agrees times := by rwa [agrees]

theorem agreement_resembles : Agreement Resembles where
  refl dashboard run isRun := ⟨run, isRun, rfl⟩
  hasTimes agrees times run isRun := by
    obtain ⟨kept, isKept, same⟩ := agrees run isRun
    rw [same]
    exact ⟨(times kept isKept).startedAt, (times kept isKept).updatedAt⟩

/-- A dashboard that was written resembles the one that is read. -/
theorem resembles_parse? {dashboard : Dashboard} (times : dashboard.HasTimes) :
    dashboard.Resembles
      ((decoder.parse? dashboard.encode.text).getD .empty) := by
  intro run isRun
  rw [parse?_text times] at isRun
  cases present : dashboard.run with
  | none => simp [present, rereadRun] at isRun
  | some kept =>
      refine ⟨kept, rfl, ?_⟩
      cases metrics : EvaluatorRun.rereadMetrics 125 kept.metrics with
      | none => simp [present, rereadRun, metrics, empty] at isRun
      | some reread =>
          simp only [present, rereadRun, metrics, Option.map_some,
            Option.getD_some, Option.some.injEq] at isRun
          rw [← isRun]

end Dashboard

namespace Desk

variable {σ ς : Type} [KeyValueStore σ] {works : σ → Prop}
  {agree : Dashboard → Dashboard → Prop} {desk after : Desk σ ς}
  {now : Timestamp} {cause : RunCause}

/-- The store works and holds a dashboard that agrees with memory. -/
structure IsKept (works : σ → Prop) (agree : Dashboard → Dashboard → Prop)
    (desk : Desk σ ς) : Prop where
  working : works desk.poller.store
  hasTimes : desk.poller.dashboard.HasTimes
  stored : ∃ found, KeyValueStore.read Dashboard.decoder desk.poller.store
      StoreKey.dashboard.name = .ok found ∧
    agree desk.poller.dashboard (found.getD .empty)

/-- Whatever a session finds agrees with memory. -/
theorem IsKept.known (kept : desk.IsKept works agree)
    (agreement : Dashboard.Agreement agree) {dashboard : Dashboard}
    (known : desk.Knows dashboard) :
    agree desk.poller.dashboard dashboard := by
  rcases known with isMemory | ⟨found, isFound, isStored⟩
  · rw [isMemory]
    exact agreement.refl _
  · obtain ⟨other, isOther, agrees⟩ := kept.stored
    rw [isOther] at isFound
    cases isFound
    rwa [isStored]

/-- The times in memory have names after every step. -/
theorem IsKept.hasTimes_moved (kept : desk.IsKept works agree)
    (agreement : Dashboard.Agreement agree) (nameable : now.IsNameable)
    (moved : Moved now cause desk after) :
    after.poller.dashboard.HasTimes := by
  cases moved with
  | unchanged known isDashboard isStore isStarted isAsked =>
      rw [isDashboard]
      exact agreement.hasTimes (kept.known agreement known) kept.hasTimes
  | moved known isOld move isStore isStarted isAsked =>
      exact move.hasTimes nameable
        (agreement.hasTimes (kept.known agreement known) kept.hasTimes)
  | started isStart isRun move isStore isStarted isAsked =>
      intro run present
      rw [isRun] at present
      exact move.hasTimes nameable kept.hasTimes run present
  | asked isRun isDashboard isStore isStarted isAsked =>
      rw [isDashboard]
      exact kept.hasTimes

/-- Memory and store agree after a step, if what was written agrees with what
is read of it. -/
theorem IsKept.moved (kept : desk.IsKept works agree)
    (faultless : KeyValueStore.Faultless works)
    (agreement : Dashboard.Agreement agree) (nameable : now.IsNameable)
    (moved : Moved now cause desk after)
    (written : agree after.poller.dashboard
      ((Dashboard.decoder.parse?
        after.poller.dashboard.encode.text).getD .empty)) :
    after.IsKept works agree := by
  have hasTimes := kept.hasTimes_moved agreement nameable moved
  cases moved with
  | unchanged known isDashboard isStore isStarted isAsked =>
      refine ⟨by rw [isStore]; exact kept.working, hasTimes, ?_⟩
      rw [isStore, isDashboard]
      obtain ⟨found, isFound, agrees⟩ := kept.stored
      refine ⟨found, isFound, ?_⟩
      rcases known with isMemory | ⟨other, isOther, isStored⟩
      · rwa [isMemory]
      · rw [isFound] at isOther
        cases isOther
        rw [isStored]
        exact agreement.refl _
  | moved known isOld move isStore isStarted isAsked =>
      refine ⟨?_, hasTimes, ?_⟩
      · rw [isStore]
        exact faultless.works_write kept.working _ _
      · rw [isStore]
        exact ⟨_, faultless.read_write kept.working _ _ _, written⟩
  | started isStart isRun move isStore isStarted isAsked =>
      refine ⟨?_, hasTimes, ?_⟩
      · rw [isStore]
        exact faultless.works_write kept.working _ _
      · rw [isStore]
        exact ⟨_, faultless.read_write kept.working _ _ _, written⟩
  | asked isRun isDashboard isStore isStarted isAsked =>
      refine ⟨by rw [isStore]; exact kept.working, hasTimes, ?_⟩
      rw [isStore, isDashboard]
      exact kept.stored

end Desk

end AgentPipeline
