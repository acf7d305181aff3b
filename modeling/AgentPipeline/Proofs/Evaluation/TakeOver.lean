import AgentPipeline.Evaluation.Snapshot

/-!
# What a snapshot does to a run
-/

namespace AgentPipeline.EvaluatorRun

/-- The run as far as a snapshot has brought it, apart from its status. -/
def reached (run : EvaluatorRun) (snapshot : RunSnapshot) (now : Timestamp) :
    EvaluatorRun :=
  { (if run.cursor < snapshot.cursor then run.advance snapshot else run) with
    updatedAt := now }

section Reached

variable (run : EvaluatorRun) (snapshot : RunSnapshot) (now : Timestamp)

@[simp]
theorem reached_id : (run.reached snapshot now).id = run.id := by
  unfold reached
  split <;> rfl

@[simp]
theorem reached_startedAt :
    (run.reached snapshot now).startedAt = run.startedAt := by
  unfold reached
  split <;> rfl

@[simp]
theorem reached_status :
    (run.reached snapshot now).status = run.status := by
  unfold reached
  split <;> rfl

@[simp]
theorem reached_metrics :
    (run.reached snapshot now).metrics = run.metrics := by
  unfold reached
  split <;> rfl

@[simp]
theorem reached_error : (run.reached snapshot now).error = run.error := by
  unfold reached
  split <;> rfl

@[simp]
theorem reached_autoSuspended :
    (run.reached snapshot now).autoSuspended = run.autoSuspended := by
  unfold reached
  split <;> rfl

/-- The cursor never goes back. -/
theorem cursor_le_reached :
    run.cursor ≤ (run.reached snapshot now).cursor := by
  unfold reached
  split
  next advances => exact UInt64.le_of_lt advances
  · exact UInt64.le_refl run.cursor

end Reached

/-- The ways in which a snapshot that was not rejected leaves the run. -/
inductive TakesOver (run : EvaluatorRun) (snapshot : RunSnapshot)
    (now : Timestamp) (after : EvaluatorRun) : Prop where
  | settled (isTerminal : snapshot.status.isTerminal = true)
      (isAfter : after = (run.reached snapshot now).settle snapshot)
  | suspended (isSuspended : snapshot.status = .suspended)
      (isAfter : after =
        { run.reached snapshot now with status := .suspended })
  | goesOn (isAfter : after = run.reached snapshot now)

theorem takeOver_eq_ok
    {run after : EvaluatorRun} {snapshot : RunSnapshot} {now : Timestamp}
    {outcome : PollOutcome}
    (taken : run.takeOver snapshot now = .ok (outcome, after)) :
    TakesOver run snapshot now after := by
  unfold takeOver at taken
  split at taken
  · cases taken
  simp only [decide_eq_true_eq] at taken
  split at taken
  next isTerminal =>
    cases taken
    exact .settled isTerminal rfl
  split at taken
  next isSuspended =>
    cases taken
    exact .suspended isSuspended rfl
  split at taken
  next advances =>
    cases taken
    exact .goesOn (by simp [reached, advances])
  next staysBehind =>
    cases taken
    exact .goesOn (by simp [reached, staysBehind])

/-- A snapshot is rejected for its cursor only. -/
theorem takeOver_eq_error
    {run : EvaluatorRun} {snapshot : RunSnapshot} {now : Timestamp}
    {error : EvaluatorError}
    (rejected : run.takeOver snapshot now = .error error) :
    error = .cursorRegression run.cursor snapshot.cursor ∧
      snapshot.cursor < run.cursor := by
  unfold takeOver at rejected
  split at rejected
  next behind =>
    cases rejected
    exact ⟨rfl, behind⟩
  · dsimp only at rejected
    split at rejected
    · cases rejected
    split at rejected
    · cases rejected
    split at rejected <;> cases rejected

/-- A snapshot that was not rejected is read to its end, and its status counts
only if it ends the polling. -/
theorem takeOver_standing
    {run after : EvaluatorRun} {snapshot : RunSnapshot} {now : Timestamp}
    {outcome : PollOutcome}
    (taken : run.takeOver snapshot now = .ok (outcome, after)) :
    after.cursor = snapshot.cursor ∧
      after.status =
        if snapshot.status.isTerminal ∨ snapshot.status = .suspended then
          snapshot.status
        else run.status := by
  unfold takeOver at taken
  split at taken
  · cases taken
  next notBehind =>
    have readToEnd : (if run.cursor < snapshot.cursor then
        run.advance snapshot else run).cursor = snapshot.cursor := by
      split
      · rfl
      next notBefore =>
        exact UInt64.le_antisymm (UInt64.not_lt.mp notBehind)
          (UInt64.not_lt.mp notBefore)
    have sameStatus : (if run.cursor < snapshot.cursor then
        run.advance snapshot else run).status = run.status := by
      split <;> rfl
    simp only [decide_eq_true_eq] at taken
    split at taken
    next isTerminal =>
      cases taken
      exact ⟨readToEnd, by simp [settle, isTerminal]⟩
    next isOpen =>
      split at taken
      next isSuspended =>
        cases taken
        exact ⟨readToEnd, by simp [isSuspended]⟩
      next notSuspended =>
        have goesOn : ¬(snapshot.status.isTerminal ∨
            snapshot.status = .suspended) := by
          simp [isOpen, notSuspended]
        rw [if_neg goesOn]
        split at taken
        next advances =>
          rw [if_pos advances] at readToEnd sameStatus
          cases taken
          exact ⟨readToEnd, sameStatus⟩
        next staysBehind =>
          rw [if_neg staysBehind] at readToEnd sameStatus
          cases taken
          exact ⟨readToEnd, sameStatus⟩

namespace TakesOver

variable {run after : EvaluatorRun} {snapshot : RunSnapshot}
  {now : Timestamp}

theorem id (taken : TakesOver run snapshot now after) :
    after.id = run.id := by
  cases taken with
  | settled _ isAfter | suspended _ isAfter | goesOn isAfter =>
      rw [isAfter]
      exact reached_id run snapshot now

theorem startedAt (taken : TakesOver run snapshot now after) :
    after.startedAt = run.startedAt := by
  cases taken with
  | settled _ isAfter | suspended _ isAfter | goesOn isAfter =>
      rw [isAfter]
      exact reached_startedAt run snapshot now

theorem updatedAt (taken : TakesOver run snapshot now after) :
    after.updatedAt = now := by
  cases taken with
  | settled _ isAfter | suspended _ isAfter | goesOn isAfter =>
      rw [isAfter]
      rfl

/-- A status is given without progress. -/
theorem progress (taken : TakesOver run snapshot now after) :
    after.cursor = (run.reached snapshot now).cursor ∧
      after.progress = (run.reached snapshot now).progress := by
  cases taken with
  | settled _ isAfter | suspended _ isAfter | goesOn isAfter =>
      rw [isAfter]
      exact ⟨rfl, rfl⟩

end TakesOver

end AgentPipeline.EvaluatorRun
