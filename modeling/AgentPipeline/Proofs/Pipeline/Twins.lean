import AgentPipeline.Proofs.Pipeline.Turn
import Mathlib.Data.List.Forall2

/-!
# Pipelines with other supplies

Identifiers and times come from the supply of a pipeline, and no operation
looks at them.  Two pipelines are twins if they are the same up to what their
supplies gave and will give; when the same happens to both they take turns
that are the same, and are twins again.
Main statements: `Twins.happen`, `Twins.turnsThrough`.
-/

namespace AgentPipeline

/-- The identifiers that a supply will give, by the number of those before. -/
def Supply.upcoming (supply : Supply) (number : Nat) : Uuid :=
  Uuid.ofRandomBits (supply.seed + (supply.made + number) + 1)

theorem Supply.upcoming_nextId (supply : Supply) (number : Nat) :
    supply.nextId.2.upcoming number = supply.upcoming (number + 1) := by
  simp only [upcoming, nextId]
  congr 2
  omega

theorem Supply.upcoming_tick (supply : Supply) (number : Nat) :
    supply.tick.2.upcoming number = supply.upcoming number := by
  simp only [upcoming, tick]

/-- The identifiers are the same, or two supplies give them with the same
number. -/
def Supply.Corresponds (supply other : Supply) (left right : Uuid) : Prop :=
  left = right ∨
    ∃ number, left = supply.upcoming number ∧ right = other.upcoming number

section Twins

variable (ids : Uuid → Uuid → Prop)

/-! ## What is the same

The relation `ids` says which identifiers stand for each other. -/

def Run.Twins (run other : Run) : Prop :=
  ids run.id other.id ∧ ∃ id, other = { run with id }

inductive Event.Twins : Event → Event → Prop
  | runStarted {l r : Uuid} (same : ids l r) (attempt : UInt32) :
      Twins (.runStarted l attempt) (.runStarted r attempt)
  | stageStarted {l r : Uuid} (same : ids l r) (stage : Stage) :
      Twins (.stageStarted l stage) (.stageStarted r stage)
  | stageCompleted {l r : Uuid} (same : ids l r) (stage : Stage)
      (milliseconds : UInt64) :
      Twins (.stageCompleted l stage milliseconds)
        (.stageCompleted r stage milliseconds)
  | stageFailed {l r : Uuid} (same : ids l r) (stage : Stage)
      (error : String) :
      Twins (.stageFailed l stage error) (.stageFailed r stage error)
  | stageCancelled {l r : Uuid} (same : ids l r) (stage : Stage) :
      Twins (.stageCancelled l stage) (.stageCancelled r stage)
  | checkpointReached {l r : Uuid} (same : ids l r) :
      Twins (.checkpointReached l) (.checkpointReached r)
  | runCompleted {l r : Uuid} (same : ids l r) (attempt : UInt32)
      (valid : Option Bool) :
      Twins (.runCompleted l attempt valid) (.runCompleted r attempt valid)
  | runFailed {l r : Uuid} (same : ids l r) (error : String) :
      Twins (.runFailed l error) (.runFailed r error)
  | runCancelled {l r : Uuid} (same : ids l r) (reason : String) :
      Twins (.runCancelled l reason) (.runCancelled r reason)
  | historyRecorded {l r : Uuid} (same : ids l r) (status : RunStatus) :
      Twins (.historyRecorded l status) (.historyRecorded r status)

inductive Effect.Twins : Effect → Effect → Prop
  | announce {event other : Event} (twins : event.Twins ids other) :
      Twins (.announce event) (.announce other)
  | dispatch (request : StageRequest) :
      Twins (.dispatch request) (.dispatch request)

/-- Operations return the same error or runs that are the same. -/
inductive ResultsTwins :
    Except PipelineError Run → Except PipelineError Run → Prop
  | ok {run other : Run} (twins : run.Twins ids other) :
      ResultsTwins (.ok run) (.ok other)
  | error (error : PipelineError) : ResultsTwins (.error error) (.error error)

/-- Moves of two runs are refused for the same reason, or the runs and what is
announced of them are the same. -/
inductive MovesTwins :
    Except PipelineError (Run × List Event) →
      Except PipelineError (Run × List Event) → Prop
  | ok {run other : Run} {events others : List Event}
      (runs : run.Twins ids other)
      (twins : List.Forall₂ (Event.Twins ids) events others) :
      MovesTwins (.ok (run, events)) (.ok (other, others))
  | error (error : PipelineError) : MovesTwins (.error error) (.error error)

/-- The snapshots are the same, whenever they were taken. -/
structure History.Twins {σ : Type} (left right : History σ) : Prop where
  capacity : right.capacity = left.capacity
  items : List.Forall₂
    (fun item other => ids item.id other.id ∧ item.run.Twins ids other.run)
    left.items right.items

structure Pipeline.Twins {σ : Type} (left right : Pipeline σ) : Prop where
  run : Option.Rel (Run.Twins ids) left.run right.run
  history : left.history.Twins ids right.history
  supply : ∀ number,
    ids (left.supply.upcoming number) (right.supply.upcoming number)
  cancellation : right.cancellation = left.cancellation
  maxAttempts : right.maxAttempts = left.maxAttempts
  stageModels : right.stageModels = left.stageModels
  awaited : right.awaited = left.awaited

structure Turn.Twins {σ : Type} (left right : Turn σ) : Prop where
  pipeline : left.pipeline.Twins ids right.pipeline
  effects : List.Forall₂ (Effect.Twins ids) left.effects right.effects
  result : Option.Rel (ResultsTwins ids) left.result right.result

/-- The same happens, or histories that are the same are put in place. -/
inductive Happening.Twins {σ : Type} : Happening σ → Happening σ → Prop
  | occurrence (occurrence : Occurrence) :
      Twins (.occurrence occurrence) (.occurrence occurrence)
  | issue : Twins .issue .issue
  | abandon : Twins .abandon .abandon
  | exchangeHistory {history other : History σ}
      (twins : history.Twins ids other) :
      Twins (.exchangeHistory history) (.exchangeHistory other)

end Twins

variable {ids : Uuid → Uuid → Prop}

/-! ## Runs -/

namespace Run

variable {run other : Run}

theorem Twins.status (twins : run.Twins ids other) :
    other.status = run.status := by
  obtain ⟨-, id, rfl⟩ := twins
  rfl

theorem Twins.isLive (twins : run.Twins ids other) :
    other.isLive = run.isLive := by
  rw [Run.isLive, Run.isLive, twins.status]

theorem Twins.move (twins : run.Twins ids other) (stage : Stage)
    (target : StageState) :
    (∃ error, run.move stage target = .error error ∧
      other.move stage target = .error error) ∨
    ∃ moved others, run.move stage target = .ok moved ∧
      other.move stage target = .ok others ∧ moved.Twins ids others := by
  obtain ⟨same, id, rfl⟩ := twins
  unfold Run.move
  dsimp only
  split
  · exact .inr ⟨_, _, rfl, rfl, same, id, rfl⟩
  · exact .inl ⟨_, rfl, rfl⟩

theorem Twins.beginStage (twins : run.Twins ids other) (stage : Stage) :
    MovesTwins ids (run.beginStage stage) (other.beginStage stage) := by
  unfold Run.beginStage
  rcases twins.move stage .processing with
    ⟨error, failed, otherFailed⟩ | ⟨moved, others, isMoved, areMoved, same⟩
  · rw [failed, otherFailed]
    exact .error error
  · rw [isMoved, areMoved]
    exact .ok same (.cons (.stageStarted twins.1 stage) .nil)

theorem Twins.completeStage (twins : run.Twins ids other) (stage : Stage)
    (output : Json) (milliseconds : UInt64) :
    MovesTwins ids (run.completeStage stage output milliseconds)
      (other.completeStage stage output milliseconds) := by
  unfold Run.completeStage
  rcases twins.move stage .completed with
    ⟨error, failed, otherFailed⟩ | ⟨moved, _, isMoved, areMoved, moves⟩
  · rw [failed, otherFailed]
    exact .error error
  · rw [isMoved, areMoved]
    obtain ⟨same, id, rfl⟩ := moves
    exact .ok ⟨same, id, rfl⟩
      (.cons (.stageCompleted twins.1 stage milliseconds) .nil)

theorem Twins.failStage (twins : run.Twins ids other) (stage : Stage)
    (error : String) (milliseconds : UInt64) :
    MovesTwins ids (run.failStage stage error milliseconds)
      (other.failStage stage error milliseconds) := by
  unfold Run.failStage
  rcases twins.move stage .error with
    ⟨error, failed, otherFailed⟩ | ⟨moved, _, isMoved, areMoved, moves⟩
  · rw [failed, otherFailed]
    exact .error error
  · rw [isMoved, areMoved]
    obtain ⟨same, id, rfl⟩ := moves
    exact .ok ⟨same, id, rfl⟩ (.cons (.stageFailed twins.1 stage error) .nil)

theorem Twins.cancel (twins : run.Twins ids other) (reason : String) :
    MovesTwins ids (.ok (run.cancel reason)) (.ok (other.cancel reason)) := by
  obtain ⟨same, id, rfl⟩ := twins
  refine .ok ⟨same, id, rfl⟩ ?_
  refine List.rel_append ?_ (.cons (.runCancelled same reason) .nil)
  rw [List.forall₂_map_left_iff, List.forall₂_map_right_iff,
    List.forall₂_same]
  intro stage _
  exact .stageCancelled same stage

theorem Twins.fail (twins : run.Twins ids other) (error : String) :
    MovesTwins ids (.ok (run.fail error)) (.ok (other.fail error)) := by
  obtain ⟨same, id, rfl⟩ := twins
  exact .ok ⟨same, id, rfl⟩ (.cons (.runFailed same error) .nil)

theorem Twins.pauseAtCheckpoint (twins : run.Twins ids other) :
    MovesTwins ids (.ok run.pauseAtCheckpoint)
      (.ok other.pauseAtCheckpoint) := by
  obtain ⟨same, id, rfl⟩ := twins
  exact .ok ⟨same, id, rfl⟩ (.cons (.checkpointReached same) .nil)

theorem Twins.complete (twins : run.Twins ids other) :
    MovesTwins ids (.ok run.complete) (.ok other.complete) := by
  obtain ⟨same, id, rfl⟩ := twins
  exact .ok ⟨same, id, rfl⟩ (.cons (.runCompleted same run.attempt _) .nil)

theorem Twins.startAttempt (twins : run.Twins ids other) :
    MovesTwins ids (.ok run.startAttempt) (.ok other.startAttempt) := by
  obtain ⟨same, id, rfl⟩ := twins
  exact .ok ⟨same, id, rfl⟩ (.cons (.runStarted same (run.attempt + 1)) .nil)

end Run

/-! ## Turns -/

namespace Turn

variable {σ : Type} {left right : Turn σ}

theorem effectsTwins_announce {events others : List Event}
    (twins : List.Forall₂ (Event.Twins ids) events others) :
    List.Forall₂ (Effect.Twins ids) (events.map .announce)
      (others.map .announce) := by
  rw [List.forall₂_map_left_iff, List.forall₂_map_right_iff]
  exact twins.imp fun _ _ same => .announce same

theorem Twins.afterEvents (twins : left.Twins ids right)
    {events others : List Event}
    (same : List.Forall₂ (Event.Twins ids) events others) :
    (left.afterEvents events).Twins ids (right.afterEvents others) where
  pipeline := twins.pipeline
  effects := List.rel_append (effectsTwins_announce same) twins.effects
  result := twins.result

end Turn

namespace Pipeline

variable {σ : Type} [KeyValueStore σ] {left right : Pipeline σ}
  {run other : Run}

omit [KeyValueStore σ] in
theorem Twins.idle (twins : left.Twins ids right) :
    left.idle.Twins ids right.idle :=
  ⟨twins, .nil, .none⟩

omit [KeyValueStore σ] in
theorem Twins.refuse (twins : left.Twins ids right) (error : PipelineError) :
    (left.refuse error).Twins ids (right.refuse error) :=
  ⟨twins, .nil, .some (.error error)⟩

omit [KeyValueStore σ] in
theorem Twins.supply_nextId (twins : left.Twins ids right) (number : Nat) :
    ids (left.supply.nextId.2.upcoming number)
      (right.supply.nextId.2.upcoming number) := by
  rw [Supply.upcoming_nextId, Supply.upcoming_nextId]
  exact twins.supply (number + 1)

omit [KeyValueStore σ] in
theorem Twins.withTokens (twins : left.Twins ids right)
    (tokens : CancelGroup) :
    (left.withTokens tokens).Twins ids (right.withTokens tokens) :=
  ⟨twins.run, twins.history, twins.supply, rfl, twins.maxAttempts,
    twins.stageModels, twins.awaited⟩

omit [KeyValueStore σ] in
theorem Twins.withRun (twins : left.Twins ids right)
    (runs : run.Twins ids other) :
    Pipeline.Twins ids { left with run := some run }
      { right with run := some other } :=
  ⟨.some runs, twins.history, twins.supply, twins.cancellation,
    twins.maxAttempts, twins.stageModels, twins.awaited⟩

theorem Twins.conclude (twins : left.Twins ids right)
    (runs : run.Twins ids other) {result others : Except PipelineError Run}
    (results : ResultsTwins ids result others) :
    (left.conclude run result).Twins ids (right.conclude other others) := by
  have isNext : ids left.supply.nextId.1 right.supply.nextId.1 :=
    twins.supply 0
  refine ⟨⟨.some runs, ⟨twins.history.capacity, ?_⟩, ?_, twins.cancellation,
    twins.maxAttempts, twins.stageModels, rfl⟩, .cons (.announce ?_) .nil,
    .some results⟩
  · show List.Forall₂ _ (List.take left.history.capacity (_ :: _))
      (List.take right.history.capacity (_ :: _))
    rw [twins.history.capacity]
    exact List.forall₂_take _ (.cons ⟨isNext, runs⟩ twins.history.items)
  · intro number
    show ids (left.supply.nextId.2.tick.2.upcoming number)
      (right.supply.nextId.2.tick.2.upcoming number)
    rw [Supply.upcoming_tick, Supply.upcoming_tick]
    exact twins.supply_nextId number
  · rw [runs.status]
    exact .historyRecorded isNext run.status

theorem Twins.concludeCancelled (twins : left.Twins ids right)
    (runs : run.Twins ids other) (reason : String) :
    (left.concludeCancelled run reason).Twins ids
      (right.concludeCancelled other reason) := by
  cases runs.cancel reason with
  | ok cancelled events =>
      exact (twins.conclude cancelled (.ok cancelled)).afterEvents events

theorem Twins.concludeFailed (twins : left.Twins ids right)
    (runs : run.Twins ids other) (error : PipelineError) :
    (left.concludeFailed run error).Twins ids
      (right.concludeFailed other error) := by
  cases runs.fail error.message with
  | ok failed events =>
      exact (twins.conclude failed (.error error)).afterEvents events

theorem Twins.concludePaused (twins : left.Twins ids right)
    (runs : run.Twins ids other) :
    (left.concludePaused run).Twins ids (right.concludePaused other) := by
  cases runs.pauseAtCheckpoint with
  | ok paused events =>
      exact (twins.conclude paused (.ok paused)).afterEvents events

theorem Twins.concludeCompleted (twins : left.Twins ids right)
    (runs : run.Twins ids other) :
    (left.concludeCompleted run).Twins ids
      (right.concludeCompleted other) := by
  cases runs.complete with
  | ok completed events =>
      exact (twins.conclude completed (.ok completed)).afterEvents events

/-! ## Drives -/

theorem Twins.callStage (twins : left.Twins ids right)
    (runs : run.Twins ids other) (token : TokenId) (input : StageInput) :
    (left.callStage run token input).Twins ids
      (right.callStage other token input) := by
  unfold Pipeline.callStage
  rw [twins.cancellation]
  cases left.cancellation.reason? token with
  | some reason => exact twins.concludeCancelled runs reason
  | none =>
      dsimp only
      generalize isBegun : run.beginStage input.stage = moves
      generalize othersBegun : other.beginStage input.stage = otherMoves
      have same := runs.beginStage input.stage
      rw [isBegun, othersBegun] at same
      cases same with
      | error error => exact twins.concludeFailed runs error
      | @ok begun others _ _ runs events =>
          dsimp only
          have temperature : others.temperature = begun.temperature := by
            obtain ⟨-, id, rfl⟩ := runs
            rfl
          rw [twins.stageModels, temperature]
          let request : StageRequest :=
            { input
              model := left.stageModels.get input.stage
              temperature := begun.temperature }
          have dispatched : Turn.Twins ids
              ⟨{ left with
                  run := some begun, awaited := some ⟨input.stage, token⟩ },
                [.dispatch request], none⟩
              ⟨{ right with
                  run := some others
                  stageModels := left.stageModels
                  cancellation := left.cancellation
                  awaited := some ⟨input.stage, token⟩ },
                [.dispatch request], none⟩ :=
            { pipeline := ⟨.some runs, twins.history, twins.supply, rfl,
                twins.maxAttempts, rfl, rfl⟩
              effects := .cons (.dispatch request) .nil
              result := .none }
          exact dispatched.afterEvents events

theorem Twins.generate (twins : left.Twins ids right)
    (runs : run.Twins ids other) (token : TokenId)
    (feedback : Option Feedback) :
    (left.generate run token feedback).Twins ids
      (right.generate other token feedback) := by
  have same : other.outputs = run.outputs ∧
      other.inputText = run.inputText ∧ other.attempt = run.attempt := by
    obtain ⟨-, id, rfl⟩ := runs
    exact ⟨rfl, rfl, rfl⟩
  unfold Pipeline.generate
  rw [same.1, same.2.1, same.2.2]
  split
  · exact twins.concludeFailed runs _
  · exact twins.concludeFailed runs _
  · exact twins.callStage runs token _

theorem Twins.proceed (twins : left.Twins ids right)
    (runs : run.Twins ids other) (token : TokenId) (stage : Stage)
    (output : Json) :
    (left.proceed run token stage output).Twins ids
      (right.proceed other token stage output) := by
  have same : other.inputText = run.inputText ∧ other.mode = run.mode := by
    obtain ⟨-, id, rfl⟩ := runs
    exact ⟨rfl, rfl⟩
  cases stage with
  | parse =>
      simp only [Pipeline.proceed, same.1]
      exact twins.callStage runs token _
  | reason =>
      simp only [Pipeline.proceed, same.2]
      cases run.mode with
      | manual => exact twins.concludePaused runs
      | auto => exact twins.generate runs token none
  | generate => exact twins.callStage runs token _
  | validate => exact twins.concludeCompleted runs

theorem Twins.settleCall (twins : left.Twins ids right)
    (runs : run.Twins ids other) (call : AwaitedCall)
    (outcome : Except ServiceError Json) (milliseconds : UInt64) :
    (left.settleCall run call outcome milliseconds).Twins ids
      (right.settleCall other call outcome milliseconds) := by
  unfold Pipeline.settleCall
  cases outcome with
  | ok output =>
      dsimp only
      generalize moved : run.completeStage call.stage output milliseconds =
        moves
      generalize othersMoved :
        other.completeStage call.stage output milliseconds = otherMoves
      have same := runs.completeStage call.stage output milliseconds
      rw [moved, othersMoved] at same
      cases same with
      | error error => exact twins.concludeFailed runs error
      | ok completed events =>
          exact (twins.proceed completed call.token call.stage
            output).afterEvents events
  | error error =>
      dsimp only
      generalize moved :
        run.failStage call.stage error.message milliseconds = moves
      generalize othersMoved :
        other.failStage call.stage error.message milliseconds = otherMoves
      have same := runs.failStage call.stage error.message milliseconds
      rw [moved, othersMoved] at same
      cases same with
      | error error => exact twins.concludeFailed runs error
      | ok failed events =>
          exact (twins.concludeFailed failed _).afterEvents events

theorem Twins.reply (twins : left.Twins ids right)
    (outcome : Except ServiceError Json) (milliseconds : UInt64) :
    (left.reply outcome milliseconds).Twins ids
      (right.reply outcome milliseconds) := by
  unfold Pipeline.reply
  have isIdle := twins.idle
  rw [twins.awaited, twins.cancellation]
  generalize leftRun : left.run = current
  generalize rightRun : right.run = other
  have same := twins.run
  rw [leftRun, rightRun] at same
  cases left.awaited with
  | none => exact isIdle
  | some call =>
      cases same with
      | none => exact isIdle
      | some runs =>
          dsimp only
          cases left.cancellation.reason? call.token with
          | some reason => exact twins.concludeCancelled runs reason
          | none => exact twins.settleCall runs call outcome milliseconds

theorem Twins.notice (twins : left.Twins ids right) :
    left.notice.Twins ids right.notice := by
  unfold Pipeline.notice
  have isIdle := twins.idle
  rw [twins.awaited, twins.cancellation]
  generalize leftRun : left.run = current
  generalize rightRun : right.run = other
  have same := twins.run
  rw [leftRun, rightRun] at same
  cases left.awaited with
  | none => exact isIdle
  | some call =>
      cases same with
      | none => exact isIdle
      | some runs =>
          dsimp only
          cases left.cancellation.reason? call.token with
          | some reason => exact twins.concludeCancelled runs reason
          | none => exact isIdle

omit [KeyValueStore σ] in
theorem Twins.isBusy (twins : left.Twins ids right) :
    right.isBusy = left.isBusy := by
  have same := twins.run
  unfold Pipeline.isBusy
  generalize left.run = current at same
  generalize right.run = other at same
  cases same with
  | none => rfl
  | some runs => exact runs.isLive

/-! ## Operations -/

theorem Twins.start (twins : left.Twins ids right) (request : RunRequest)
    (registry : ModelRegistry) :
    (left.start request registry).Twins ids
      (right.start request registry) := by
  unfold Pipeline.start
  rw [twins.isBusy, twins.cancellation]
  split
  · exact twins.refuse .emptyInput
  split
  · exact twins.refuse .runInProgress
  split
  · exact twins.refuse _
  dsimp only
  split
  · exact twins.refuse .noModel
  · have runs : (left.runOf request registry).Twins ids
        (right.runOf request registry) := ⟨twins.supply 0, _, rfl⟩
    have isPrepared : Pipeline.Twins ids (left.prepared request registry)
        { right.prepared request registry with
          cancellation := left.cancellation.issue.1 } :=
      ⟨twins.run, twins.history, twins.supply_nextId, rfl,
        twins.maxAttempts, rfl, twins.awaited⟩
    exact ((isPrepared.withRun runs).callStage runs _ _).afterEvents
      (.cons (.runStarted (twins.supply 0) 1) .nil)

theorem Twins.continueRun (twins : left.Twins ids right) :
    left.continueRun.Twins ids right.continueRun := by
  unfold Pipeline.continueRun
  have refused := twins.refuse
  have same := twins.run
  rw [twins.cancellation]
  generalize leftRun : left.run = current at same
  generalize rightRun : right.run = others at same
  cases same with
  | none => exact refused _
  | @some paused others runs =>
      dsimp only
      rw [runs.status]
      split
      · have goesOn : Run.Twins ids { paused with status := .running }
            { others with status := .running } := by
          obtain ⟨isSame, id, rfl⟩ := runs
          exact ⟨isSame, id, rfl⟩
        have going (tokens : CancelGroup) :=
          ((twins.withTokens tokens).withRun goesOn).generate goesOn
        split
        · exact going left.cancellation _ none
        · exact going left.cancellation.issue.1 _ none
      · exact refused _

theorem Twins.regenerate (twins : left.Twins ids right) :
    left.regenerate.Twins ids right.regenerate := by
  unfold Pipeline.regenerate
  have refused := twins.refuse
  have same := twins.run
  rw [twins.maxAttempts, twins.cancellation]
  generalize leftRun : left.run = current at same
  generalize rightRun : right.run = others at same
  cases same with
  | none => exact refused _
  | @some run others runs =>
      have context :
          regenerationContext others = regenerationContext run ∧
            others.attempt = run.attempt := by
        obtain ⟨-, id, rfl⟩ := runs
        exact ⟨rfl, rfl⟩
      dsimp only
      rw [context.1, context.2, runs.isLive]
      split
      · exact refused _
      split
      · exact refused _
      split
      · exact refused _
      · cases runs.startAttempt with
        | ok reopened events =>
            have opened : Pipeline.Twins ids
                { left with
                  cancellation := left.cancellation.issue.1
                  run := some run.startAttempt.1 }
                { right with
                  cancellation := left.cancellation.issue.1
                  maxAttempts := left.maxAttempts
                  run := some others.startAttempt.1 } :=
              ⟨.some reopened, twins.history, twins.supply, rfl, rfl,
                twins.stageModels, twins.awaited⟩
            exact (opened.generate reopened _ _).afterEvents events

theorem Twins.cancelWith (twins : left.Twins ids right) (reason : String) :
    (left.cancelWith reason).Twins ids (right.cancelWith reason) := by
  unfold Pipeline.cancelWith
  have refused := twins.refuse .noActiveRun
  have same := twins.run
  rw [twins.cancellation]
  generalize leftRun : left.run = current at same
  generalize rightRun : right.run = others at same
  cases same with
  | none => exact refused
  | some runs =>
      dsimp only
      rw [runs.isLive]
      split
      · exact ((twins.withTokens (left.cancellation.cancel reason)).withRun
          runs).concludeCancelled runs reason
      · exact refused

theorem Twins.settlePendingCancel (twins : left.Twins ids right) :
    (left.settlePendingCancel.getD left.idle).Twins ids
      (right.settlePendingCancel.getD right.idle) := by
  unfold Pipeline.settlePendingCancel
  have isIdle := twins.idle
  have same := twins.run
  rw [twins.cancellation]
  generalize leftRun : left.run = current at same
  generalize rightRun : right.run = others at same
  cases left.cancellation.pending? with
  | none => exact isIdle
  | some reason =>
      cases same with
      | none => exact isIdle
      | some runs =>
          dsimp only
          rw [runs.isLive]
          split
          · exact twins.concludeCancelled runs reason
          · exact isIdle

/-! ## Everything that happens -/

omit [KeyValueStore σ] in
theorem Twins.whenFree (twins : left.Twins ids right) {turn others : Turn σ}
    (turns : turn.Twins ids others) :
    (left.whenFree turn).Twins ids (right.whenFree others) := by
  unfold Pipeline.whenFree
  rw [twins.awaited]
  split
  · exact twins.idle
  · exact turns

theorem Twins.occur (twins : left.Twins ids right) (occurrence : Occurrence) :
    (left.occur occurrence).Twins ids (right.occur occurrence) := by
  cases occurrence with
  | start request registry =>
      exact twins.whenFree (twins.start request registry)
  | continueRun => exact twins.whenFree twins.continueRun
  | regenerate => exact twins.whenFree twins.regenerate
  | cancelWith reason => exact twins.whenFree (twins.cancelWith reason)
  | settlePendingCancel => exact twins.whenFree twins.settlePendingCancel
  | discard =>
      exact twins.whenFree (Twins.idle ⟨.none, twins.history, twins.supply,
        congrArg (CancelGroup.cancel inputEdited) twins.cancellation,
        twins.maxAttempts, rfl, twins.awaited⟩)
  | fire reason =>
      rw [Pipeline.occur, Pipeline.occur, twins.cancellation]
      exact (twins.withTokens (left.cancellation.cancel reason)).idle
  | notice => exact twins.notice
  | reply outcome milliseconds => exact twins.reply outcome milliseconds

/-- When the same happens to twins, they take the same turn. -/
theorem Twins.happen (twins : left.Twins ids right)
    {happening other : Happening σ} (same : happening.Twins ids other) :
    (left.happen happening).Twins ids (right.happen other) := by
  cases same with
  | occurrence occurrence => exact twins.occur occurrence
  | issue =>
      rw [Pipeline.happen, Pipeline.happen, twins.cancellation]
      exact (twins.withTokens left.cancellation.issue.1).idle
  | abandon =>
      exact Twins.idle ⟨twins.run, twins.history, twins.supply,
        twins.cancellation, twins.maxAttempts, twins.stageModels, rfl⟩
  | exchangeHistory histories =>
      exact Twins.idle ⟨twins.run, histories, twins.supply,
        twins.cancellation, twins.maxAttempts, twins.stageModels,
        twins.awaited⟩

/-- Whatever happens to twins, all the turns that they take are the same. -/
theorem Twins.turnsThrough (twins : left.Twins ids right)
    {later others : List (Happening σ)}
    (same : List.Forall₂ (Happening.Twins ids) later others) :
    List.Forall₂ (Turn.Twins ids) (left.turnsThrough later)
      (right.turnsThrough others) := by
  induction same generalizing left right with
  | nil => exact .nil
  | cons happenings _ ih =>
      have turns := twins.happen happenings
      exact .cons turns (ih turns.pipeline)

omit [KeyValueStore σ] in
/-- Pipelines with all but their supplies in common are twins. -/
theorem twins_withSupply (pipeline : Pipeline σ) (supply other : Supply) :
    Pipeline.Twins (supply.Corresponds other) { pipeline with supply }
      { pipeline with supply := other } where
  run := by
    show Option.Rel _ pipeline.run pipeline.run
    cases pipeline.run with
    | none => exact .none
    | some run => exact .some ⟨.inl rfl, run.id, rfl⟩
  history := ⟨rfl, List.forall₂_same.mpr fun item _ =>
    ⟨.inl rfl, .inl rfl, item.run.id, rfl⟩⟩
  supply number := .inr ⟨number, rfl, rfl⟩
  cancellation := rfl
  maxAttempts := rfl
  stageModels := rfl
  awaited := rfl

end Pipeline

end AgentPipeline
