import AgentPipeline.Proofs.Pipeline.Snapshot
import Mathlib.Data.List.Forall2

/-!
# Pipelines that agree

Two pipelines agree if their runs are the same up to identifier, mode and
durations.  Given the same answers they take turns that agree: they dispatch
the same requests, announce the same events and return the same results, and
what they add to their histories is the same.  Only behind the reason stage
does the mode decide how a run goes on.
-/

namespace AgentPipeline

/-! ## What is alike -/

/-- The runs are the same up to identifier, mode and durations. -/
def Run.Alike (l r : Uuid) (left right : Run) : Prop :=
  left.id = l ∧
    ∃ mode durations, right = { left with id := r, mode, durations }

/-- The same is announced of two runs, up to durations and the identifiers of
snapshots. -/
inductive Event.Alike (l r : Uuid) : Event → Event → Prop
  | runStarted (attempt : UInt32) :
      Alike l r (.runStarted l attempt) (.runStarted r attempt)
  | stageStarted (stage : Stage) :
      Alike l r (.stageStarted l stage) (.stageStarted r stage)
  | stageCompleted (stage : Stage) (milliseconds other : UInt64) :
      Alike l r (.stageCompleted l stage milliseconds)
        (.stageCompleted r stage other)
  | stageFailed (stage : Stage) (error : String) :
      Alike l r (.stageFailed l stage error) (.stageFailed r stage error)
  | stageCancelled (stage : Stage) :
      Alike l r (.stageCancelled l stage) (.stageCancelled r stage)
  | checkpointReached :
      Alike l r (.checkpointReached l) (.checkpointReached r)
  | runCompleted (attempt : UInt32) (valid : Option Bool) :
      Alike l r (.runCompleted l attempt valid) (.runCompleted r attempt valid)
  | runFailed (error : String) :
      Alike l r (.runFailed l error) (.runFailed r error)
  | runCancelled (reason : String) :
      Alike l r (.runCancelled l reason) (.runCancelled r reason)
  | historyRecorded (item other : Uuid) (status : RunStatus) :
      Alike l r (.historyRecorded item status) (.historyRecorded other status)

inductive Effect.Alike (l r : Uuid) : Effect → Effect → Prop
  | announce {event other : Event} (alike : event.Alike l r other) :
      Alike l r (.announce event) (.announce other)
  | dispatch (request : StageRequest) :
      Alike l r (.dispatch request) (.dispatch request)

/-- Operations return the same error or runs that are alike. -/
inductive ResultsAlike (l r : Uuid) :
    Except PipelineError Run → Except PipelineError Run → Prop
  | ok {run other : Run} (alike : run.Alike l r other) :
      ResultsAlike l r (.ok run) (.ok other)
  | error (error : PipelineError) :
      ResultsAlike l r (.error error) (.error error)

/-- Moves of two runs are refused for the same reason, or the runs and what is
announced of them are alike.  No move tells of a snapshot. -/
inductive MovesAlike (l r : Uuid) :
    Except PipelineError (Run × List Event) →
      Except PipelineError (Run × List Event) → Prop
  | ok {run other : Run} {events others : List Event}
      (runs : run.Alike l r other)
      (alike : List.Forall₂ (Event.Alike l r) events others)
      (silent : events.filterMap Event.snapshot? = [])
      (otherSilent : others.filterMap Event.snapshot? = []) :
      MovesAlike l r (.ok (run, events)) (.ok (other, others))
  | error (error : PipelineError) :
      MovesAlike l r (.error error) (.error error)

/-- What a turn adds to a history: snapshots, newest first, of which it tells
in the order in which they are taken. -/
structure Turn.Adds {σ : Type} (turn : Turn σ) (before : History σ)
    (snapshots : List HistoryItem) : Prop where
  capacity : turn.pipeline.history.capacity = before.capacity
  items : turn.pipeline.history.items =
    if snapshots.isEmpty then before.items
    else (snapshots ++ before.items).take before.capacity
  recorded : turn.recorded =
    snapshots.reverse.map fun item => (item.id, item.run.status)

/-- The same models and tokens, and runs that are alike. -/
structure Pipeline.Alike {σ : Type} (l r : Uuid) (left right : Pipeline σ) :
    Prop where
  run : Option.Rel (Run.Alike l r) left.run right.run
  cancellation : right.cancellation = left.cancellation
  maxAttempts : right.maxAttempts = left.maxAttempts
  stageModels : right.stageModels = left.stageModels
  awaited : right.awaited = left.awaited

/-- Two turns, of pipelines with some histories, have the same effects and
results and lead to pipelines that are alike. -/
structure Turn.Agrees {σ : Type} (l r : Uuid) (before other : History σ)
    (left right : Turn σ) : Prop where
  pipeline : left.pipeline.Alike l r right.pipeline
  effects : List.Forall₂ (Effect.Alike l r) left.effects right.effects
  result : Option.Rel (ResultsAlike l r) left.result right.result
  snapshots : ∃ added others,
    List.Forall₂ (fun item other => item.run.Alike l r other.run)
      added others ∧
    left.Adds before added ∧ right.Adds other others

/-! ## Runs -/

namespace Run

variable {l r : Uuid} {run other : Run}

/-- A move of a stage succeeds in both runs or in none. -/
theorem Alike.move (alike : run.Alike l r other) (stage : Stage)
    (target : StageState) :
    (∃ error, run.move stage target = .error error ∧
      other.move stage target = .error error) ∨
    ∃ moved others, run.move stage target = .ok moved ∧
      other.move stage target = .ok others ∧ moved.Alike l r others := by
  obtain ⟨isLeft, mode, durations, rfl⟩ := alike
  unfold Run.move
  dsimp only
  split
  · exact .inr ⟨_, _, rfl, rfl, isLeft, mode, durations, rfl⟩
  · exact .inl ⟨_, rfl, rfl⟩

theorem Alike.id_left (alike : run.Alike l r other) : run.id = l := alike.1

theorem Alike.id_right (alike : run.Alike l r other) : other.id = r := by
  obtain ⟨-, mode, durations, rfl⟩ := alike
  rfl

theorem Alike.temperature (alike : run.Alike l r other) :
    other.temperature = run.temperature := by
  obtain ⟨-, mode, durations, rfl⟩ := alike
  rfl

theorem Alike.status (alike : run.Alike l r other) :
    other.status = run.status := by
  obtain ⟨-, mode, durations, rfl⟩ := alike
  rfl

theorem Alike.isLive (alike : run.Alike l r other) :
    other.isLive = run.isLive := by
  rw [Run.isLive, Run.isLive, alike.status]

theorem Alike.beginStage (alike : run.Alike l r other) (stage : Stage) :
    MovesAlike l r (run.beginStage stage) (other.beginStage stage) := by
  unfold Run.beginStage
  rw [alike.id_left, alike.id_right]
  rcases alike.move stage .processing with
    ⟨error, failed, otherFailed⟩ | ⟨moved, others, isMoved, areMoved, same⟩
  · rw [failed, otherFailed]
    exact .error error
  · rw [isMoved, areMoved]
    exact .ok same (.cons (.stageStarted stage) .nil) rfl rfl

theorem Alike.completeStage (alike : run.Alike l r other) (stage : Stage)
    (output : Json) (milliseconds others : UInt64) :
    MovesAlike l r (run.completeStage stage output milliseconds)
      (other.completeStage stage output others) := by
  unfold Run.completeStage
  rw [alike.id_left, alike.id_right]
  rcases alike.move stage .completed with
    ⟨error, failed, otherFailed⟩ | ⟨moved, _, isMoved, areMoved, same⟩
  · rw [failed, otherFailed]
    exact .error error
  · rw [isMoved, areMoved]
    obtain ⟨isLeft, mode, durations, rfl⟩ := same
    exact .ok ⟨isLeft, mode, _, rfl⟩
      (.cons (.stageCompleted stage milliseconds others) .nil) rfl rfl

theorem Alike.failStage (alike : run.Alike l r other) (stage : Stage)
    (error : String) (milliseconds others : UInt64) :
    MovesAlike l r (run.failStage stage error milliseconds)
      (other.failStage stage error others) := by
  unfold Run.failStage
  rw [alike.id_left, alike.id_right]
  rcases alike.move stage .error with
    ⟨error, failed, otherFailed⟩ | ⟨moved, _, isMoved, areMoved, same⟩
  · rw [failed, otherFailed]
    exact .error error
  · rw [isMoved, areMoved]
    obtain ⟨isLeft, mode, durations, rfl⟩ := same
    exact .ok ⟨isLeft, mode, _, rfl⟩
      (.cons (.stageFailed stage error) .nil) rfl rfl

theorem Alike.cancel (alike : run.Alike l r other) (reason : String) :
    MovesAlike l r (.ok (run.cancel reason)) (.ok (other.cancel reason)) := by
  obtain ⟨rfl, mode, durations, rfl⟩ := alike
  refine .ok ⟨rfl, mode, durations, rfl⟩ ?_ ?_ ?_
  · refine List.rel_append ?_ (.cons (.runCancelled reason) .nil)
    rw [List.forall₂_map_left_iff, List.forall₂_map_right_iff,
      List.forall₂_same]
    intro stage _
    exact .stageCancelled stage
  · simp [Event.snapshot?]
  · simp [Event.snapshot?]

theorem Alike.fail (alike : run.Alike l r other) (error : String) :
    MovesAlike l r (.ok (run.fail error)) (.ok (other.fail error)) := by
  obtain ⟨rfl, mode, durations, rfl⟩ := alike
  exact .ok ⟨rfl, mode, durations, rfl⟩ (.cons (.runFailed error) .nil) rfl rfl

theorem Alike.complete (alike : run.Alike l r other) :
    MovesAlike l r (.ok run.complete) (.ok other.complete) := by
  obtain ⟨rfl, mode, durations, rfl⟩ := alike
  exact .ok ⟨rfl, mode, durations, rfl⟩
    (.cons (.runCompleted run.attempt _) .nil) rfl rfl

theorem Alike.startAttempt (alike : run.Alike l r other) :
    MovesAlike l r (.ok run.startAttempt) (.ok other.startAttempt) := by
  obtain ⟨rfl, mode, durations, rfl⟩ := alike
  exact .ok ⟨rfl, mode, _, rfl⟩ (.cons (.runStarted (run.attempt + 1)) .nil)
    rfl rfl

end Run

/-! ## Turns -/

namespace Turn

variable {σ : Type} {l r : Uuid} {before other : History σ}
  {left right : Turn σ}

theorem Adds.of_sameHistory
    (isHistory : left.pipeline.history = before)
    (silent : left.recorded = []) : left.Adds before [] :=
  ⟨congrArg History.capacity isHistory, congrArg History.items isHistory,
    silent⟩

theorem Adds.afterEvents {snapshots : List HistoryItem}
    (adds : left.Adds before snapshots) {events : List Event}
    (silent : events.filterMap Event.snapshot? = []) :
    (left.afterEvents events).Adds before snapshots :=
  ⟨adds.capacity, adds.items,
    (recorded_afterEvents silent left).trans adds.recorded⟩

theorem recorded_after (effects : List Effect) (turn : Turn σ) :
    (turn.after effects).recorded =
      ({ turn with effects } : Turn σ).recorded ++ turn.recorded := by
  simp [recorded, Turn.events, after, List.filterMap_append]

/-- Snapshots that are added later come first. -/
theorem Adds.after {snapshots later : List HistoryItem}
    (adds : left.Adds before snapshots)
    (next : right.Adds left.pipeline.history later) :
    (right.after left.effects).Adds before (later ++ snapshots) := by
  refine ⟨next.capacity.trans adds.capacity, ?_, ?_⟩
  · have items := next.items
    rw [adds.items, adds.capacity] at items
    show right.pipeline.history.items = _
    rw [items]
    cases later with
    | nil => rfl
    | cons newest later =>
        cases snapshots with
        | nil => simp
        | cons item older =>
            simp only [List.isEmpty_cons, Bool.false_eq_true, if_false,
              List.cons_append, List.append_assoc]
            exact Pipeline.take_append_take (newest :: later) _ _
  · rw [recorded_after, next.recorded]
    have isFirst : ({ right with effects := left.effects } :
        Turn σ).recorded = left.recorded := rfl
    rw [isFirst, adds.recorded]
    simp

theorem effectsAlike_announce {events others : List Event}
    (alike : List.Forall₂ (Event.Alike l r) events others) :
    List.Forall₂ (Effect.Alike l r) (events.map .announce)
      (others.map .announce) := by
  rw [List.forall₂_map_left_iff, List.forall₂_map_right_iff]
  exact alike.imp fun _ _ same => .announce same

theorem Agrees.afterEvents (agrees : left.Agrees l r before other right)
    {events others : List Event}
    (alike : List.Forall₂ (Event.Alike l r) events others)
    (silent : events.filterMap Event.snapshot? = [])
    (otherSilent : others.filterMap Event.snapshot? = []) :
    (left.afterEvents events).Agrees l r before other
      (right.afterEvents others) := by
  obtain ⟨added, addedOthers, same, adds, addsOthers⟩ := agrees.snapshots
  exact {
    pipeline := agrees.pipeline
    effects := List.rel_append (effectsAlike_announce alike) agrees.effects
    result := agrees.result
    snapshots := ⟨added, addedOthers, same, adds.afterEvents silent,
      addsOthers.afterEvents otherSilent⟩ }

/-- Turns that follow on turns that agree. -/
theorem Agrees.after {next others : Turn σ}
    (agrees : left.Agrees l r before other right)
    (later : next.Agrees l r left.pipeline.history right.pipeline.history
      others) :
    (next.after left.effects).Agrees l r before other
      (others.after right.effects) := by
  obtain ⟨added, addedOthers, same, adds, addsOthers⟩ := agrees.snapshots
  obtain ⟨newer, newerOthers, newerSame, newerAdds, newerAddsOthers⟩ :=
    later.snapshots
  exact {
    pipeline := later.pipeline
    effects := List.rel_append agrees.effects later.effects
    result := later.result
    snapshots := ⟨newer ++ added, newerOthers ++ addedOthers,
      List.rel_append newerSame same, adds.after newerAdds,
      addsOthers.after newerAddsOthers⟩ }

end Turn

namespace Pipeline

variable {σ : Type} [KeyValueStore σ] {l r : Uuid} {left right : Pipeline σ}
  {run other : Run}

omit [KeyValueStore σ] in
theorem Alike.refuse (alike : left.Alike l r right) (error : PipelineError) :
    (left.refuse error).Agrees l r left.history right.history
      (right.refuse error) where
  pipeline := alike
  effects := .nil
  result := .some (.error error)
  snapshots := ⟨[], [], .nil, .of_sameHistory rfl rfl,
    .of_sameHistory rfl rfl⟩

theorem Alike.conclude (alike : left.Alike l r right)
    (runs : run.Alike l r other) {result others : Except PipelineError Run}
    (results : ResultsAlike l r result others) :
    (left.conclude run result).Agrees l r left.history right.history
      (right.conclude other others) := by
  refine {
    pipeline := ⟨.some runs, alike.cancellation, alike.maxAttempts,
      alike.stageModels, rfl⟩
    effects := .cons (.announce ?_) .nil
    result := .some results
    snapshots := ⟨[⟨_, _, run⟩], [⟨_, _, other⟩], .cons runs .nil,
      ⟨rfl, rfl, rfl⟩, ⟨rfl, rfl, rfl⟩⟩ }
  rw [runs.status]
  exact .historyRecorded _ _ run.status

theorem Alike.concludeCancelled (alike : left.Alike l r right)
    (runs : run.Alike l r other) (reason : String) :
    (left.concludeCancelled run reason).Agrees l r left.history right.history
      (right.concludeCancelled other reason) := by
  cases runs.cancel reason with
  | ok cancelled events silent otherSilent =>
      exact (alike.conclude cancelled (.ok cancelled)).afterEvents events
        silent otherSilent

theorem Alike.concludeFailed (alike : left.Alike l r right)
    (runs : run.Alike l r other) (error : PipelineError) :
    (left.concludeFailed run error).Agrees l r left.history right.history
      (right.concludeFailed other error) := by
  cases runs.fail error.message with
  | ok failed events silent otherSilent =>
      exact (alike.conclude failed (.error error)).afterEvents events silent
        otherSilent

theorem Alike.concludeCompleted (alike : left.Alike l r right)
    (runs : run.Alike l r other) :
    (left.concludeCompleted run).Agrees l r left.history right.history
      (right.concludeCompleted other) := by
  cases runs.complete with
  | ok completed events silent otherSilent =>
      exact (alike.conclude completed (.ok completed)).afterEvents events
        silent otherSilent

theorem Alike.callStage (alike : left.Alike l r right)
    (runs : run.Alike l r other) (token : TokenId) (input : StageInput) :
    (left.callStage run token input).Agrees l r left.history right.history
      (right.callStage other token input) := by
  unfold Pipeline.callStage
  rw [alike.cancellation]
  cases left.cancellation.reason? token with
  | some reason => exact alike.concludeCancelled runs reason
  | none =>
      dsimp only
      generalize began : run.beginStage input.stage = moves
      generalize otherBegan : other.beginStage input.stage = others
      have moved := runs.beginStage input.stage
      rw [began, otherBegan] at moved
      cases moved with
      | error error => exact alike.concludeFailed runs error
      | @ok begun others _ _ begunAlike events silent otherSilent =>
          dsimp only
          rw [alike.stageModels, begunAlike.temperature]
          let request : StageRequest :=
            { input
              model := left.stageModels.get input.stage
              temperature := begun.temperature }
          have dispatched : Turn.Agrees l r left.history right.history
              ⟨{ left with
                  run := some begun, awaited := some ⟨input.stage, token⟩ },
                [.dispatch request], none⟩
              ⟨{ right with
                  run := some others
                  stageModels := left.stageModels
                  cancellation := left.cancellation
                  awaited := some ⟨input.stage, token⟩ },
                [.dispatch request], none⟩ :=
            { pipeline := ⟨.some begunAlike, rfl, alike.maxAttempts, rfl, rfl⟩
              effects := .cons (.dispatch request) .nil
              result := .none
              snapshots := ⟨[], [], .nil, .of_sameHistory rfl rfl,
                .of_sameHistory rfl rfl⟩ }
          exact dispatched.afterEvents events silent otherSilent

theorem Alike.generate (alike : left.Alike l r right)
    (runs : run.Alike l r other) (token : TokenId)
    (feedback : Option Feedback) :
    (left.generate run token feedback).Agrees l r left.history right.history
      (right.generate other token feedback) := by
  have same : other.outputs = run.outputs ∧ other.inputText = run.inputText ∧
      other.attempt = run.attempt := by
    obtain ⟨-, mode, durations, rfl⟩ := runs
    exact ⟨rfl, rfl, rfl⟩
  unfold Pipeline.generate
  rw [same.1, same.2.1, same.2.2]
  split
  · exact alike.concludeFailed runs _
  · exact alike.concludeFailed runs _
  · exact alike.callStage runs token _

/-- Behind every stage but the reason stage the mode does not matter. -/
theorem Alike.proceed (alike : left.Alike l r right)
    (runs : run.Alike l r other) (token : TokenId) {stage : Stage}
    (notReason : stage ≠ .reason) (output : Json) :
    (left.proceed run token stage output).Agrees l r left.history
      right.history (right.proceed other token stage output) := by
  have inputText : other.inputText = run.inputText := by
    obtain ⟨-, mode, durations, rfl⟩ := runs
    rfl
  cases stage with
  | parse =>
      simp only [Pipeline.proceed, inputText]
      exact alike.callStage runs token _
  | reason => exact absurd rfl notReason
  | generate => exact alike.callStage runs token _
  | validate => exact alike.concludeCompleted runs

theorem Alike.settleCall (alike : left.Alike l r right)
    (runs : run.Alike l r other) (call : AwaitedCall)
    {outcome : Except ServiceError Json}
    (goesOn : call.stage ≠ .reason ∨ outcome.isOk = false)
    (milliseconds others : UInt64) :
    (left.settleCall run call outcome milliseconds).Agrees l r left.history
      right.history (right.settleCall other call outcome others) := by
  unfold Pipeline.settleCall
  cases outcome with
  | ok output =>
      have notReason : call.stage ≠ .reason :=
        goesOn.resolve_right fun isError => by cases isError
      dsimp only
      generalize moved : run.completeStage call.stage output milliseconds =
        moves
      generalize otherMoved : other.completeStage call.stage output others =
        otherMoves
      have same := runs.completeStage call.stage output milliseconds others
      rw [moved, otherMoved] at same
      cases same with
      | error error => exact alike.concludeFailed runs error
      | ok completed events silent otherSilent =>
          exact (alike.proceed completed call.token notReason
            output).afterEvents events silent otherSilent
  | error error =>
      dsimp only
      generalize moved : run.failStage call.stage error.message milliseconds =
        moves
      generalize otherMoved :
        other.failStage call.stage error.message others = otherMoves
      have same := runs.failStage call.stage error.message milliseconds others
      rw [moved, otherMoved] at same
      cases same with
      | error error => exact alike.concludeFailed runs error
      | ok failed events silent otherSilent =>
          exact (alike.concludeFailed failed _).afterEvents events silent
            otherSilent

omit [KeyValueStore σ] in
theorem Alike.idle (alike : left.Alike l r right) :
    left.idle.Agrees l r left.history right.history right.idle where
  pipeline := alike
  effects := .nil
  result := .none
  snapshots := ⟨[], [], .nil, .of_sameHistory rfl rfl,
    .of_sameHistory rfl rfl⟩

/-- The same answer is taken alike, unless the mode decides what comes of
it. -/
theorem Alike.reply (alike : left.Alike l r right)
    {outcome : Except ServiceError Json}
    (goesOn : ∀ call, left.awaited = some call →
      call.stage ≠ .reason ∨ outcome.isOk = false)
    (milliseconds others : UInt64) :
    (left.reply outcome milliseconds).Agrees l r left.history right.history
      (right.reply outcome others) := by
  unfold Pipeline.reply
  have isIdle := alike.idle
  rw [alike.awaited, alike.cancellation]
  generalize leftRun : left.run = current
  generalize rightRun : right.run = other
  have same := alike.run
  rw [leftRun, rightRun] at same
  cases waiting : left.awaited with
  | none => exact isIdle
  | some call =>
      cases same with
      | none => exact isIdle
      | some runs =>
          dsimp only
          cases left.cancellation.reason? call.token with
          | some reason => exact alike.concludeCancelled runs reason
          | none =>
              exact alike.settleCall runs call (goesOn call waiting)
                milliseconds others

/-- A further attempt does not look at the mode. -/
theorem Alike.regenerate (alike : left.Alike l r right) :
    left.regenerate.Agrees l r left.history right.history
      right.regenerate := by
  unfold Pipeline.regenerate
  have refused := alike.refuse
  generalize leftRun : left.run = current
  generalize rightRun : right.run = other
  have same := alike.run
  rw [leftRun, rightRun] at same
  rw [alike.maxAttempts, alike.cancellation]
  cases same with
  | none => exact refused _
  | @some run other runs =>
      have context : regenerationContext other = regenerationContext run := by
        obtain ⟨-, mode, durations, rfl⟩ := runs
        rfl
      have attempt : other.attempt = run.attempt := by
        obtain ⟨-, mode, durations, rfl⟩ := runs
        rfl
      dsimp only
      rw [context, runs.isLive, attempt]
      split
      · exact refused _
      split
      · exact refused _
      split
      · exact refused _
      · cases runs.startAttempt with
        | ok reopened events silent otherSilent =>
            have opened : Pipeline.Alike l r
                { left with
                  cancellation := left.cancellation.issue.1
                  run := some run.startAttempt.1 }
                { right with
                  cancellation := left.cancellation.issue.1
                  maxAttempts := left.maxAttempts
                  run := some other.startAttempt.1 } :=
              ⟨.some reopened, rfl, rfl, alike.stageModels, alike.awaited⟩
            exact (opened.generate reopened _ _).afterEvents events silent
              otherSilent

end Pipeline

end AgentPipeline
