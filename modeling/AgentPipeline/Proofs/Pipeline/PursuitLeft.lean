import AgentPipeline.Proofs.Pipeline.Attempts
import AgentPipeline.Proofs.Pipeline.Pursuit

/-!
# What is left of a pursuit

The attempts that a run may make, the one checkpoint and the moves that these
allow.  Every event takes at least what it uses.  Main statement:
`Goes.spends`.
-/

namespace AgentPipeline

namespace Pursuit

variable {σ : Type}

/-! ## What is left -/

section Left

variable (pursuit : Pursuit σ)

/-- The number of attempts that can follow the current one. -/
def attemptsLeft : Nat :=
  pursuit.pipeline.maxAttempts.toNat -
    (pursuit.pipeline.run.map (·.attempt.toNat)).getD 1

/-- Whether the checkpoint can lie ahead. -/
def checkpointsLeft : Nat :=
  match pursuit.phase with
  | .working _ =>
      if pursuit.pipeline.awaited.any (·.stage.index < 2) then 1 else 0
  | .asking .proceed _ => 1
  | .asking .regenerate _ | .ended _ => 0

/-- The number of answers that the operation can still wait for. -/
def callsLeft : Nat :=
  (pursuit.pipeline.awaited.map (4 - ·.stage.index)).getD 0

/-- The number of answers that can still lead to a call. -/
def questionsLeft : Nat :=
  match pursuit.phase with
  | .working _ | .asking .. => pursuit.checkpointsLeft + pursuit.attemptsLeft
  | .ended _ => 0

theorem questionsLeft_le :
    pursuit.questionsLeft ≤ pursuit.checkpointsLeft + pursuit.attemptsLeft := by
  unfold questionsLeft
  split
  · exact Nat.le_refl _
  · exact Nat.le_refl _
  · exact Nat.zero_le _

/-- Behind the checkpoint there are two calls; a further attempt takes an
answer and two calls. -/
def movesLeft : Nat :=
  match pursuit.phase with
  | .working _ =>
      pursuit.callsLeft + pursuit.checkpointsLeft + 3 * pursuit.attemptsLeft
  | .asking .proceed _ => 3 + 3 * pursuit.attemptsLeft
  | .asking .regenerate _ => 3 * pursuit.attemptsLeft
  | .ended _ => 0

theorem checkpointsLeft_le : pursuit.checkpointsLeft ≤ 1 := by
  unfold checkpointsLeft
  repeat' split
  all_goals simp

theorem movesLeft_le :
    pursuit.movesLeft ≤ 5 + 3 * pursuit.attemptsLeft := by
  have calls : pursuit.callsLeft ≤ 4 := by
    unfold callsLeft
    cases pursuit.pipeline.awaited <;> simp
  have checkpoints := pursuit.checkpointsLeft_le
  unfold movesLeft
  split <;> omega

end Left

/-- A step takes from what is left what it uses. -/
structure Spends (pursuit : Pursuit σ) (step : PursuitStep σ)
    (next : Pursuit σ) : Prop where
  attempts : step.called.toList.count .regenerate + next.attemptsLeft ≤
    pursuit.attemptsLeft
  checkpoints : step.called.toList.count .continueRun +
    next.checkpointsLeft ≤ pursuit.checkpointsLeft
  moves : next.movesLeft ≤ pursuit.movesLeft
  movesOn : next.phase ≠ pursuit.phase ∨
    next.pipeline.awaited ≠ pursuit.pipeline.awaited →
      next.movesLeft < pursuit.movesLeft

variable {pursuit : Pursuit σ}

theorem attemptsLeft_of_current {run : Run}
    (current : pursuit.pipeline.run = some run) :
    pursuit.attemptsLeft =
      pursuit.pipeline.maxAttempts.toNat - run.attempt.toNat := by
  simp [attemptsLeft, current]

/-- The attempt of a run stays, whatever ends the operation. -/
theorem attemptsLeft_conclude {happening : Happening σ}
    {tokens : CancelGroup} {run : Run} {events : List Event}
    {result : Except PipelineError Run}
    (concludes : pursuit.pipeline.Concludes happening tokens run events
      result) :
    pursuit.pipeline.maxAttempts.toNat - run.attempt.toNat =
      pursuit.attemptsLeft := by
  obtain ⟨before, current, _, sameAttempt⟩ := concludes.same
  rw [attemptsLeft_of_current current, sameAttempt]

theorem checkpointsLeft_of_waiting {operation : RunOperation}
    (isPhase : pursuit.phase = .working operation) {call : AwaitedCall}
    (waiting : pursuit.pipeline.awaited = some call) :
    pursuit.checkpointsLeft = if call.stage.index < 2 then 1 else 0 := by
  simp [checkpointsLeft, isPhase, waiting]

theorem movesLeft_of_waiting {operation : RunOperation}
    (isPhase : pursuit.phase = .working operation) {call : AwaitedCall}
    (waiting : pursuit.pipeline.awaited = some call) :
    pursuit.movesLeft = (4 - call.stage.index) +
      (if call.stage.index < 2 then 1 else 0) + 3 * pursuit.attemptsLeft := by
  simp [movesLeft, callsLeft, isPhase, waiting,
    checkpointsLeft_of_waiting isPhase waiting]

theorem spends_of_lt {step : PursuitStep σ} {next : Pursuit σ}
    (attempts : step.called.toList.count .regenerate + next.attemptsLeft ≤
      pursuit.attemptsLeft)
    (checkpoints : step.called.toList.count .continueRun +
      next.checkpointsLeft ≤ pursuit.checkpointsLeft)
    (moves : next.movesLeft < pursuit.movesLeft) :
    pursuit.Spends step next :=
  ⟨attempts, checkpoints, Nat.le_of_lt moves, fun _ => moves⟩

section Dispatch

variable {base : Pipeline σ} {operation : RunOperation} {run : Run}
  {token : TokenId} {input : StageInput} {events : List Event}

/-- What a step uses and leaves that dispatches a call. -/
theorem spends_dispatch {called : Option RunOperation}
    (attempts : called.toList.count .regenerate +
      (base.maxAttempts.toNat - run.attempt.toNat) ≤ pursuit.attemptsLeft)
    (checkpoints : called.toList.count .continueRun +
      (if input.stage.index < 2 then 1 else 0) ≤ pursuit.checkpointsLeft)
    (moves : (4 - input.stage.index) +
      (if input.stage.index < 2 then 1 else 0) +
        3 * (base.maxAttempts.toNat - run.attempt.toNat) <
          pursuit.movesLeft) :
    pursuit.Spends
      ⟨called, (base.dispatch run token input).afterEvents events,
        .working operation⟩
      ⟨((base.dispatch run token input).afterEvents events).pipeline,
        pursuit.assumesYes, .working operation⟩ := by
  refine spends_of_lt attempts ?_ ?_
  · rw [checkpointsLeft_of_waiting rfl rfl]
    exact checkpoints
  · rw [movesLeft_of_waiting rfl rfl]
    exact moves

theorem spends_advance {outcome : Except ServiceError Json}
    {milliseconds : UInt64} (isPhase : pursuit.phase = .working operation)
    (dispatches : pursuit.pipeline.Dispatches
      (.occurrence (.reply outcome milliseconds)) base run token input
      events) :
    pursuit.Spends
      ⟨none, (base.dispatch run token input).afterEvents events,
        .working operation⟩
      ⟨((base.dispatch run token input).afterEvents events).pipeline,
        pursuit.assumesYes, .working operation⟩ := by
  cases dispatches with
  | @reply call before output _ input waiting current _ _ follows =>
      have stage := follows.stage
      have inside := input.stage.index_lt
      have sameAttempt : (before.finished call.stage output
        milliseconds).attempt = before.attempt := rfl
      apply spends_dispatch
      · simp [attemptsLeft_of_current current, sameAttempt]
      · rw [checkpointsLeft_of_waiting isPhase waiting]
        simp only [Option.toList_none, List.count_nil, Nat.zero_add]
        split <;> split <;> omega
      · rw [movesLeft_of_waiting isPhase waiting,
          attemptsLeft_of_current current, sameAttempt]
        split <;> split <;> omega

theorem spends_continueRun {paused : Run}
    (isPhase : pursuit.phase = .asking .proceed paused)
    (dispatches : pursuit.pipeline.Dispatches (.occurrence .continueRun) base
      run token input events) :
    pursuit.Spends
      ⟨some .continueRun, (base.dispatch run token input).afterEvents events,
        .working operation⟩
      ⟨((base.dispatch run token input).afterEvents events).pipeline,
        pursuit.assumesYes, .working operation⟩ := by
  cases dispatches with
  | continueRun _ current =>
      apply spends_dispatch
      · simp [attemptsLeft_of_current current]
      · simp [checkpointsLeft, isPhase, StageInput.stage, Stage.index]
      · simp only [movesLeft, isPhase, attemptsLeft_of_current current,
          StageInput.stage, Stage.index, Nat.lt_irrefl, if_false]
        omega

theorem spends_regenerate {invalid : Run}
    (isPhase : pursuit.phase = .asking .regenerate invalid)
    (dispatches : pursuit.pipeline.Dispatches (.occurrence .regenerate) base
      run token input events) :
    pursuit.Spends
      ⟨some .regenerate, (base.dispatch run token input).afterEvents events,
        .working operation⟩
      ⟨((base.dispatch run token input).afterEvents events).pipeline,
        pursuit.assumesYes, .working operation⟩ := by
  cases dispatches with
  | @regenerate before _ _ _ _ _ current _ _ _ _ _ _ _ left =>
      have next := Pipeline.toNat_next_attempt left
      have isNext : before.startAttempt.1.attempt = before.attempt + 1 := rfl
      have within := UInt32.lt_iff_toNat_lt.mp left
      apply spends_dispatch
      · rw [attemptsLeft_of_current current, isNext, next]
        simp only [Option.toList_some, List.count_singleton_self,
          Pipeline.withTokens]
        omega
      · simp [checkpointsLeft, isPhase, StageInput.stage, Stage.index]
      · simp only [movesLeft, isPhase, attemptsLeft_of_current current,
          StageInput.stage, Stage.index, Nat.lt_irrefl, if_false,
          Pipeline.withTokens, isNext, next]
        omega

end Dispatch

/-- A pursuit without moves is over. -/
theorem isOver_of_movesLeft (fits : pursuit.Fits)
    (noneLeft : pursuit.movesLeft = 0) :
    ∃ ending, pursuit.phase = .ended ending := by
  cases fits with
  | @working _ call isPhase _ waiting =>
      have inside := call.stage.index_lt
      rw [movesLeft_of_waiting isPhase waiting] at noneLeft
      omega
  | paused isPhase =>
      simp only [movesLeft, isPhase] at noneLeft
      omega
  | invalid isPhase _ current _ _ left =>
      have within := UInt32.lt_iff_toNat_lt.mp left
      simp only [movesLeft, isPhase, attemptsLeft_of_current current]
        at noneLeft
      omega
  | ended isPhase => exact ⟨_, isPhase⟩

theorem questionsLeft_eq
    (notOver : ∀ ending, pursuit.phase ≠ .ended ending) :
    pursuit.questionsLeft =
      pursuit.checkpointsLeft + pursuit.attemptsLeft := by
  unfold questionsLeft
  split
  · rfl
  · rfl
  next ending isOver => exact absurd isOver (notOver ending)

/-- A question is one of those that are left. -/
theorem questionsLeft_pos (fits : pursuit.Fits) {question : RunQuestion}
    {run : Run} (isPhase : pursuit.phase = .asking question run) :
    0 < pursuit.questionsLeft := by
  simp only [questionsLeft, isPhase]
  cases fits with
  | working isOther | ended isOther => cases isPhase.symm.trans isOther
  | paused isAsking =>
      simp only [checkpointsLeft, isAsking]
      omega
  | invalid isAsking _ current _ _ left =>
      have within := UInt32.lt_iff_toNat_lt.mp left
      rw [attemptsLeft_of_current current]
      omega

/-! ## Every event -/

variable [KeyValueStore σ]

theorem spends_conclude {operation : RunOperation}
    (isPhase : pursuit.phase = .working operation) {call : AwaitedCall}
    (waiting : pursuit.pipeline.awaited = some call)
    {happening : Happening σ} {tokens : CancelGroup} {run : Run}
    {events : List Event} {result : Except PipelineError Run}
    {phase : PursuitPhase}
    (concludes : pursuit.pipeline.Concludes happening tokens run events
      result) (leads : pursuit.LeadsTo run result phase) :
    pursuit.Spends
      ⟨none, ((pursuit.pipeline.withTokens tokens).conclude run
        result).afterEvents events, phase⟩
      ⟨(((pursuit.pipeline.withTokens tokens).conclude run
        result).afterEvents events).pipeline, pursuit.assumesYes, phase⟩ := by
  have sameAttempt := attemptsLeft_conclude concludes
  have inside := call.stage.index_lt
  have moves := movesLeft_of_waiting isPhase waiting
  have attempts : attemptsLeft ⟨(((pursuit.pipeline.withTokens
      tokens).conclude run result).afterEvents events).pipeline,
      pursuit.assumesYes, phase⟩ = pursuit.attemptsLeft := sameAttempt
  refine spends_of_lt ?_ ?_ ?_
  · rw [attempts]
    exact Nat.le_of_eq (Nat.zero_add _)
  · cases leads with
    | fail | rest | invalid => simp [checkpointsLeft]
    | pause waits isReason =>
        obtain rfl := Option.some.inj (waits.symm.trans waiting)
        simp [checkpointsLeft, isPhase, waiting, isReason, Stage.index]
  · cases leads with
    | fail | rest =>
        rw [moves]
        simp only [movesLeft]
        omega
    | pause waits isReason =>
        obtain rfl := Option.some.inj (waits.symm.trans waiting)
        rw [moves]
        simp only [movesLeft, attempts, isReason, Stage.index,
          Nat.one_lt_two, if_true]
        omega
    | invalid =>
        rw [moves]
        simp only [movesLeft, attempts]
        omega

/-- Whatever happens, a step takes what it uses from what is left. -/
theorem Goes.spends {event : PursuitEvent} {step : PursuitStep σ}
    (goes : pursuit.Goes event step) (steady : pursuit.IsSteady) :
    pursuit.Spends step
      ⟨step.turn.pipeline, pursuit.assumesYes, step.phase⟩ := by
  obtain ⟨_, fits⟩ := steady
  cases goes with
  | fire | stay =>
      refine ⟨?_, ?_, Nat.le_refl _, ?_⟩
      · exact Nat.le_of_eq (Nat.zero_add _)
      · exact Nat.le_of_eq (Nat.zero_add _)
      · rintro (moved | moved)
        · exact absurd rfl moved
        · exact absurd rfl moved
  | advance isPhase dispatches => exact spends_advance isPhase dispatches
  | conclude isPhase concludes leads =>
      cases fits with
      | paused isAsking | invalid isAsking | ended isAsking =>
          cases isPhase.symm.trans isAsking
      | working _ _ waiting =>
          exact spends_conclude isPhase waiting concludes leads
  | settle isPhase concludes =>
      refine spends_of_lt ?_ ?_ ?_
      · rw [← attemptsLeft_conclude concludes]
        exact Nat.le_of_eq (Nat.zero_add _)
      · simp [checkpointsLeft]
      · simp only [movesLeft, isPhase]
        omega
  | continueRun isPhase dispatches =>
      exact spends_continueRun isPhase dispatches
  | regenerate isPhase dispatches =>
      exact spends_regenerate isPhase dispatches
  | leave isPhase =>
      refine spends_of_lt ?_ ?_ ?_
      · exact Nat.le_of_eq (Nat.zero_add _)
      · simp [checkpointsLeft]
      · cases fits with
        | working isAsking | ended isAsking =>
            cases isPhase.symm.trans isAsking
        | paused isAsking =>
            simp only [movesLeft, isAsking]
            omega
        | invalid isAsking _ current _ _ left =>
            have within := UInt32.lt_iff_toNat_lt.mp left
            simp only [movesLeft, isAsking, attemptsLeft_of_current current]
            omega

theorem spends_step (steady : pursuit.IsSteady) (event : PursuitEvent) :
    pursuit.Spends (pursuit.step event) (pursuit.next event) :=
  (goes_step steady event).spends steady

/-- Whatever happens, an answer that leads to a call takes one of the
questions that are left. -/
theorem questionsLeft_next (steady : pursuit.IsSteady)
    (event : PursuitEvent) :
    (pursuit.step event).called.toList.length +
      (pursuit.next event).questionsLeft ≤ pursuit.questionsLeft := by
  have goes := goes_step steady event
  have attempts := (spends_step steady event).attempts
  have checkpoints := (spends_step steady event).checkpoints
  have atMost := (pursuit.next event).questionsLeft_le
  have total : (∀ ending, pursuit.phase ≠ .ended ending) →
      pursuit.questionsLeft = _ := questionsLeft_eq
  simp only [next] at attempts checkpoints atMost ⊢
  generalize pursuit.step event = step at goes attempts checkpoints atMost ⊢
  cases goes with
  | fire | stay => exact Nat.le_of_eq (Nat.zero_add _)
  | leave => exact Nat.zero_le _
  | advance isPhase | conclude isPhase =>
      have sum := total (by simp [isPhase])
      dsimp only at attempts checkpoints atMost ⊢
      change 0 + _ ≤ _ at attempts checkpoints ⊢
      omega
  | settle isPhase =>
      exact questionsLeft_pos steady.fits isPhase
  | continueRun isPhase =>
      have sum := total (by simp [isPhase])
      dsimp only at attempts checkpoints atMost ⊢
      change 0 + _ ≤ _ at attempts
      change 1 + _ ≤ _ at checkpoints ⊢
      omega
  | regenerate isPhase =>
      have sum := total (by simp [isPhase])
      dsimp only at attempts checkpoints atMost ⊢
      change 1 + _ ≤ _ at attempts ⊢
      change 0 + _ ≤ _ at checkpoints
      omega

theorem questionsLeft_after (steady : pursuit.IsSteady)
    (events : List PursuitEvent) :
    (pursuit.after events).questionsLeft ≤ pursuit.questionsLeft := by
  induction events generalizing pursuit with
  | nil => exact Nat.le_refl _
  | cons event later ih =>
      have first := questionsLeft_next steady event
      have rest := ih (steady.next event)
      rw [after_cons]
      omega

end Pursuit

end AgentPipeline
