import AgentPipeline.Proofs.Pipeline.Alike

/-!
# Operations that are answered

A service answers by what it has been asked.  When nobody cancels it drives an
operation from answer to answer, each in a later stage, until the operation
returns.  Main statements: `Goes.answered`, `Agrees.answered`.
-/

namespace AgentPipeline

/-- How a service answers the last of the requests that it has received, and
how many milliseconds that takes. -/
structure StageService where
  outcome : List StageRequest → Except ServiceError Json
  duration : List StageRequest → UInt64

namespace Turn

variable {σ : Type} [KeyValueStore σ]

/-- The turn with those that follow on a number of answers, for a service that
has received some requests before. -/
def answered (service : StageService) (asked : List StageRequest) :
    Nat → Turn σ → Turn σ
  | 0, turn => turn
  | answers + 1, turn =>
      if turn.pipeline.awaited.isSome then
        let asked := asked ++ turn.requests
        ((turn.pipeline.reply (service.outcome asked)
          (service.duration asked)).answered service asked answers).after
            turn.effects
      else turn

/-- The whole operation that begins with a turn. -/
def completed (service : StageService) (asked : List StageRequest)
    (turn : Turn σ) : Turn σ :=
  turn.answered service asked Stage.all.length

/-! ## Effects -/

omit [KeyValueStore σ]

theorem requests_after (first turn : Turn σ) :
    (turn.after first.effects).requests = first.requests ++ turn.requests :=
  List.filterMap_append ..

theorem after_after (first second turn : Turn σ) :
    (turn.after second.effects).after first.effects =
      turn.after (second.after first.effects).effects := by
  simp [after]

/-- Effects that are alike dispatch the same requests. -/
theorem requests_eq_of_alike {l r : Uuid} {left right : Turn σ}
    (alike : List.Forall₂ (Effect.Alike l r) left.effects right.effects) :
    right.requests = left.requests := by
  obtain ⟨_, effects, _⟩ := left
  obtain ⟨_, others, _⟩ := right
  unfold requests
  dsimp only at alike ⊢
  induction alike with
  | nil => rfl
  | cons same _ ih =>
      cases same with
      | announce => exact ih
      | dispatch request => exact congrArg (request :: ·) ih

/-! ## An operation returns -/

/-- The operation has returned, or waits for the stage at a position or for a
later one. -/
structure Goes (turn : Turn σ) (position : Nat) : Prop where
  waits : turn.pipeline.WaitsFrom position
  hasRun : turn.pipeline.awaited.isSome → turn.pipeline.run.isSome
  returns : turn.pipeline.awaited = none → turn.result.isSome

theorem goes_of_free {turn : Turn σ} (free : turn.pipeline.awaited = none)
    (returns : turn.result.isSome) (position : Nat) : turn.Goes position :=
  ⟨Pipeline.waitsFrom_of_free free position, by simp [free], fun _ => returns⟩

theorem Goes.of_le {turn : Turn σ} {position later : Nat}
    (goes : turn.Goes later) (isLater : position ≤ later) :
    turn.Goes position :=
  ⟨fun call waiting => Nat.le_trans isLater (goes.waits call waiting),
    goes.hasRun, goes.returns⟩

theorem Goes.after {turn : Turn σ} {position : Nat}
    (goes : turn.Goes position) (effects : List Effect) :
    (turn.after effects).Goes position :=
  ⟨goes.waits, goes.hasRun, goes.returns⟩

/-- Nobody waits behind the last stage. -/
theorem Goes.free {turn : Turn σ} {position : Nat} (goes : turn.Goes position)
    (isLast : Stage.all.length ≤ position) : turn.pipeline.awaited = none := by
  cases waiting : turn.pipeline.awaited with
  | none => rfl
  | some call =>
      have fromLast := Nat.le_trans isLast (goes.waits call waiting)
      exact absurd call.stage.index_lt (Nat.not_lt.mpr fromLast)

end Turn

namespace Pipeline

variable {σ : Type} [KeyValueStore σ]

theorem callStage_goes (pipeline : Pipeline σ) (run : Run) (token : TokenId)
    (input : StageInput) :
    (pipeline.callStage run token input).Goes input.stage.index := by
  unfold callStage
  split
  · exact Turn.goes_of_free rfl rfl _
  split
  · exact Turn.goes_of_free rfl rfl _
  · refine ⟨?_, fun _ => rfl, nofun⟩
    rintro _ ⟨⟩
    exact Nat.le_refl _

theorem generate_goes (pipeline : Pipeline σ) (run : Run) (token : TokenId)
    (feedback : Option Feedback) :
    (pipeline.generate run token feedback).Goes Stage.generate.index := by
  unfold generate
  split
  · exact Turn.goes_of_free rfl rfl _
  · exact Turn.goes_of_free rfl rfl _
  · exact callStage_goes ..

theorem proceed_goes (pipeline : Pipeline σ) (run : Run) (token : TokenId)
    (stage : Stage) (output : Json) :
    (pipeline.proceed run token stage output).Goes (stage.index + 1) := by
  cases stage with
  | parse => exact callStage_goes ..
  | reason =>
      simp only [proceed]
      split
      · exact Turn.goes_of_free rfl rfl _
      · exact generate_goes ..
  | generate => exact callStage_goes ..
  | validate => exact Turn.goes_of_free rfl rfl _

theorem settleCall_goes (pipeline : Pipeline σ) (run : Run)
    (call : AwaitedCall) (outcome : Except ServiceError Json)
    (milliseconds : UInt64) :
    (pipeline.settleCall run call outcome milliseconds).Goes
      (call.stage.index + 1) := by
  unfold settleCall
  repeat' split
  · exact Turn.goes_of_free rfl rfl _
  · exact (proceed_goes ..).after _
  · exact Turn.goes_of_free rfl rfl _
  · exact Turn.goes_of_free rfl rfl _

end Pipeline

namespace Turn

variable {σ : Type} [KeyValueStore σ]

/-- Each answer takes an operation to a later stage. -/
theorem Goes.reply {turn : Turn σ} {position : Nat}
    (goes : turn.Goes position) (waiting : turn.pipeline.awaited.isSome)
    (outcome : Except ServiceError Json) (milliseconds : UInt64) :
    (turn.pipeline.reply outcome milliseconds).Goes (position + 1) := by
  obtain ⟨run, current⟩ := Option.isSome_iff_exists.mp (goes.hasRun waiting)
  obtain ⟨call, isCall⟩ := Option.isSome_iff_exists.mp waiting
  simp only [Pipeline.reply, isCall, current]
  split
  · exact goes_of_free rfl rfl _
  · exact (Pipeline.settleCall_goes ..).of_le
      (Nat.succ_le_succ (goes.waits call isCall))

theorem answered_of_free (service : StageService) (asked : List StageRequest)
    (answers : Nat) {turn : Turn σ} (free : turn.pipeline.awaited = none) :
    turn.answered service asked answers = turn := by
  cases answers with
  | zero => rfl
  | succ answers => simp [answered, free]

theorem answered_of_waiting (service : StageService)
    (asked : List StageRequest) (answers : Nat) {turn : Turn σ}
    (waiting : turn.pipeline.awaited.isSome) :
    turn.answered service asked (answers + 1) =
      ((turn.pipeline.reply (service.outcome (asked ++ turn.requests))
        (service.duration (asked ++ turn.requests))).answered service
          (asked ++ turn.requests) answers).after turn.effects := by
  rw [answered, if_pos waiting]

theorem Goes.answered {turn : Turn σ} {position : Nat}
    (goes : turn.Goes position) (service : StageService)
    (asked : List StageRequest) (answers : Nat) :
    (turn.answered service asked answers).Goes (position + answers) := by
  induction answers generalizing turn position asked with
  | zero => exact goes
  | succ answers ih =>
      cases waiting : turn.pipeline.awaited with
      | none =>
          rw [answered_of_free service asked _ waiting]
          exact goes_of_free waiting (goes.returns waiting) _
      | some call =>
          have isWaiting := Option.isSome_of_eq_some waiting
          rw [answered_of_waiting service asked answers isWaiting,
            Nat.add_comm answers, ← Nat.add_assoc]
          exact (ih (goes.reply isWaiting _ _) _).after _

/-- More answers than there are stages left change nothing. -/
private theorem Goes.answered_add {turn : Turn σ} {position answers : Nat}
    (goes : turn.Goes position) (service : StageService)
    (asked : List StageRequest)
    (enough : Stage.all.length ≤ position + answers) (more : Nat) :
    turn.answered service asked (answers + more) =
      turn.answered service asked answers := by
  induction answers generalizing turn position asked with
  | zero => exact answered_of_free service asked _ (goes.free enough)
  | succ answers ih =>
      cases waiting : turn.pipeline.awaited with
      | none =>
          rw [answered_of_free _ _ _ waiting, answered_of_free _ _ _ waiting]
      | some call =>
          have isWaiting := Option.isSome_of_eq_some waiting
          rw [Nat.succ_add, answered_of_waiting _ _ _ isWaiting,
            answered_of_waiting _ _ _ isWaiting,
            ih (goes.reply isWaiting _ _) _ (by omega)]

theorem Goes.answered_eq {turn : Turn σ} {position answers others : Nat}
    (goes : turn.Goes position) (service : StageService)
    (asked : List StageRequest)
    (enough : Stage.all.length ≤ position + answers)
    (enoughOthers : Stage.all.length ≤ position + others) :
    turn.answered service asked answers =
      turn.answered service asked others := by
  rcases Nat.le_total answers others with fewer | more
  · obtain ⟨more, rfl⟩ := Nat.exists_eq_add_of_le fewer
    exact (goes.answered_add service asked enough more).symm
  · obtain ⟨added, rfl⟩ := Nat.exists_eq_add_of_le more
    exact goes.answered_add service asked enoughOthers added

theorem answered_afterEvents (service : StageService)
    (asked : List StageRequest) (answers : Nat) (events : List Event)
    (turn : Turn σ) :
    (turn.afterEvents events).answered service asked answers =
      (turn.answered service asked answers).afterEvents events := by
  cases answers with
  | zero => rfl
  | succ answers =>
      cases waiting : turn.pipeline.awaited with
      | none =>
          rw [answered_of_free _ _ _ waiting]
          exact answered_of_free _ _ _ waiting
      | some call =>
          have isWaiting := Option.isSome_of_eq_some waiting
          have unfolded := answered_of_waiting service asked answers isWaiting
          have after := answered_of_waiting service asked answers
            (show (turn.afterEvents events).pipeline.awaited.isSome from
              isWaiting)
          rw [unfolded, after, requests_afterEvents]
          simp [afterEvents, Turn.after]

/-! ## Operations that agree -/

variable {l r : Uuid} {before other : History σ} {left right : Turn σ}
  {service others : StageService}

/-- Behind the reason stage operations that agree are answered alike. -/
theorem Agrees.answered (agrees : left.Agrees l r before other right)
    (goes : left.Goes Stage.generate.index)
    (same : others.outcome = service.outcome) (asked : List StageRequest)
    (answers : Nat) :
    (left.answered service asked answers).Agrees l r before other
      (right.answered others asked answers) := by
  induction answers generalizing left right before other asked with
  | zero => exact agrees
  | succ answers ih =>
      have isSame := agrees.pipeline.awaited
      cases waiting : left.pipeline.awaited with
      | none =>
          rw [answered_of_free _ _ _ waiting,
            answered_of_free _ _ _ (isSame.trans waiting)]
          exact agrees
      | some call =>
          have isWaiting := Option.isSome_of_eq_some waiting
          have areWaiting := Option.isSome_of_eq_some (isSame.trans waiting)
          rw [answered_of_waiting _ _ _ isWaiting,
            answered_of_waiting _ _ _ areWaiting, same,
            requests_eq_of_alike agrees.effects]
          refine agrees.after (ih (agrees.pipeline.reply ?_ _ _) ?_ _)
          · intro called isCalled
            refine .inl fun isReason => ?_
            have later := goes.waits called isCalled
            rw [isReason] at later
            exact absurd later (by decide)
          · exact (goes.reply isWaiting _ _).of_le (Nat.le_succ _)

end Turn

end AgentPipeline
