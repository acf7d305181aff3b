import AgentPipeline.Proofs.Pipeline.Labels
import AgentPipeline.Proofs.Pipeline.Snapshot
import AgentPipeline.Proofs.Store.Durable
import Mathlib.Data.List.Forall2

/-!
# Pipelines over stores that fail

Two pipelines over stores of any kinds work on the same runs.  Whatever writes
fail in either of them, they take the same turns: they dispatch the same
requests, announce the same events, return the same results and hold the same
histories, up to the identifiers and times of the sessions.  A write that
succeeds stores the whole history.

Main statement: `turns_over_faults`.
-/

namespace AgentPipeline

/-! ## What is seen -/

/-- The history, wherever it is stored. -/
def History.seen {σ : Type} (labels : Labels) (history : History σ) :
    History Unit :=
  ⟨(), history.capacity, history.items.map (HistoryItem.relabel labels)⟩

/-- The pipeline, wherever its history is stored and whatever it is supplied
with. -/
def Pipeline.seen {σ : Type} (labels : Labels) (pipeline : Pipeline σ) :
    Pipeline Unit where
  history := pipeline.history.seen labels
  supply := default
  cancellation := pipeline.cancellation
  maxAttempts := pipeline.maxAttempts
  run := pipeline.run.map (Run.relabel labels)
  stageModels := pipeline.stageModels
  awaited := pipeline.awaited

def Turn.seen {σ : Type} (labels : Labels) (turn : Turn σ) : Turn Unit where
  pipeline := turn.pipeline.seen labels
  effects := turn.effects.map (Effect.relabel labels)
  result := turn.result.map (·.map (Run.relabel labels))

/-! ## What matches -/

variable {σ τ : Type} {labels : Labels}

/-- Two pipelines look the same, and so does what they are supplied with. -/
structure Pipeline.Matches (labels : Labels) (left : Pipeline σ)
    (right : Pipeline τ) : Prop where
  history : left.history.seen labels = right.history.seen labels
  supply : left.supply.Agrees labels right.supply
  cancellation : left.cancellation = right.cancellation
  maxAttempts : left.maxAttempts = right.maxAttempts
  run : left.run.map (Run.relabel labels) =
    right.run.map (Run.relabel labels)
  stageModels : left.stageModels = right.stageModels
  awaited : left.awaited = right.awaited

structure Turn.Matches (labels : Labels) (left : Turn σ) (right : Turn τ) :
    Prop where
  pipeline : left.pipeline.Matches labels right.pipeline
  effects : left.effects.map (Effect.relabel labels) =
    right.effects.map (Effect.relabel labels)
  result : left.result.map (·.map (Run.relabel labels)) =
    right.result.map (·.map (Run.relabel labels))

/-- The same happens in two sessions.  Calls may take different times, and the
histories that are put in may be stored differently. -/
inductive Happening.Matches (labels : Labels) :
    Happening σ → Happening τ → Prop
  | occurrence (happened : Occurrence) :
      Matches labels (.occurrence happened) (.occurrence happened)
  | reply (outcome : Except ServiceError Json) {milliseconds others : UInt64}
      (same : labels.duration milliseconds = labels.duration others) :
      Matches labels (.occurrence (.reply outcome milliseconds))
        (.occurrence (.reply outcome others))
  | issue : Matches labels .issue .issue
  | abandon : Matches labels .abandon .abandon
  | exchangeHistory {history : History σ} {other : History τ}
      (same : history.seen labels = other.seen labels) :
      Matches labels (.exchangeHistory history) (.exchangeHistory other)

/-! ## Turns -/

namespace Turn

variable {left : Turn σ} {right : Turn τ}

theorem Matches.seen (alike : left.Matches labels right) :
    left.seen labels = right.seen labels := by
  have pipeline : left.pipeline.seen labels = right.pipeline.seen labels := by
    simp only [Pipeline.seen, alike.pipeline.history,
      alike.pipeline.cancellation, alike.pipeline.maxAttempts,
      alike.pipeline.run, alike.pipeline.stageModels, alike.pipeline.awaited]
  simp only [Turn.seen, pipeline, alike.effects, alike.result]

theorem Matches.afterEvents (alike : left.Matches labels right)
    {events others : List Event}
    (same : events.map (Event.relabel labels) =
      others.map (Event.relabel labels)) :
    (left.afterEvents events).Matches labels (right.afterEvents others) where
  pipeline := alike.pipeline
  effects := by
    have announced : ∀ events : List Event,
        (events.map Effect.announce).map (Effect.relabel labels) =
          (events.map (Event.relabel labels)).map .announce := by
      intro events
      simp only [List.map_map]
      rfl
    simp only [Turn.afterEvents, Turn.after, List.map_append, announced, same,
      alike.effects]
  result := alike.result

end Turn

namespace Pipeline

section Unstored

variable {left : Pipeline σ} {right : Pipeline τ} {run other : Run}

theorem Matches.idle (alike : left.Matches labels right) :
    left.idle.Matches labels right.idle := ⟨alike, rfl, rfl⟩

theorem Matches.refuse (alike : left.Matches labels right)
    (error : PipelineError) :
    (left.refuse error).Matches labels (right.refuse error) :=
  ⟨alike, rfl, rfl⟩

theorem Matches.withTokens (alike : left.Matches labels right)
    (tokens : CancelGroup) :
    (left.withTokens tokens).Matches labels (right.withTokens tokens) :=
  { alike with cancellation := rfl }

theorem Matches.withRun (alike : left.Matches labels right)
    (runs : run.relabel labels = other.relabel labels) :
    Pipeline.Matches labels { left with run := some run }
      { right with run := some other } :=
  { alike with run := congrArg some runs }

/-- There is a run in both pipelines or in none. -/
theorem Matches.run_cases (alike : left.Matches labels right) :
    (left.run = none ∧ right.run = none) ∨
      ∃ run other, left.run = some run ∧ right.run = some other ∧
        run.relabel labels = other.relabel labels := by
  have same := alike.run
  cases leftRun : left.run <;> cases rightRun : right.run <;>
    simp_all

end Unstored

variable [KeyValueStore σ] [KeyValueStore τ] {left : Pipeline σ}
  {right : Pipeline τ} {run other : Run}

/-- The snapshot is put in the history, whether or not it can be stored. -/
theorem Matches.conclude (alike : left.Matches labels right)
    (runs : run.relabel labels = other.relabel labels)
    {result others : Except PipelineError Run}
    (results : result.map (Run.relabel labels) =
      others.map (Run.relabel labels)) :
    (left.conclude run result).Matches labels
      (right.conclude other others) := by
  have ids : labels.id left.supply.nextId.1 = labels.id right.supply.nextId.1 :=
    alike.supply.id []
  have times : labels.time left.supply.nextId.2.tick.1 =
      labels.time right.supply.nextId.2.tick.1 := alike.supply.nextId.time []
  have capacity : left.history.capacity = right.history.capacity :=
    congrArg History.capacity alike.history
  have items : left.history.items.map (HistoryItem.relabel labels) =
      right.history.items.map (HistoryItem.relabel labels) :=
    congrArg History.items alike.history
  have status : run.status = other.status :=
    Run.eq_of_relabel Run.status (fun _ => rfl) runs
  refine ⟨{ alike with history := ?_, supply := ?_, run := ?_, awaited := rfl },
    ?_, congrArg some results⟩
  · simp only [Pipeline.conclude, History.record, History.save, History.push,
      History.seen, List.map_take, List.map_cons, HistoryItem.relabel, ids,
      times, capacity, items, runs]
  · exact alike.supply.nextId.tick
  · exact congrArg some runs
  · simp only [Pipeline.conclude, History.record, List.map_cons, List.map_nil,
      Effect.relabel, Event.relabel, ids, status]

/-- A run that moves on its own, as the other one does, concludes. -/
theorem Matches.concludeMoved (alike : left.Matches labels right)
    {moved others : Run × List Event}
    (same : relabelMove labels moved = relabelMove labels others)
    {result otherResult : Except PipelineError Run}
    (results : result.map (Run.relabel labels) =
      otherResult.map (Run.relabel labels)) :
    ((left.conclude moved.1 result).afterEvents moved.2).Matches labels
      ((right.conclude others.1 otherResult).afterEvents others.2) :=
  (alike.conclude (congrArg Prod.fst same) results).afterEvents
    (congrArg Prod.snd same)

theorem Matches.concludeCancelled (alike : left.Matches labels right)
    (runs : run.relabel labels = other.relabel labels) (reason : String) :
    (left.concludeCancelled run reason).Matches labels
      (right.concludeCancelled other reason) := by
  have same : relabelMove labels (run.cancel reason) =
      relabelMove labels (other.cancel reason) := by
    rw [← Run.relabel_cancel, runs, Run.relabel_cancel]
  exact alike.concludeMoved same (congrArg Except.ok (congrArg Prod.fst same))

theorem Matches.concludeFailed (alike : left.Matches labels right)
    (runs : run.relabel labels = other.relabel labels)
    (error : PipelineError) :
    (left.concludeFailed run error).Matches labels
      (right.concludeFailed other error) := by
  have same : relabelMove labels (run.fail error.message) =
      relabelMove labels (other.fail error.message) := by
    rw [← Run.relabel_fail, runs, Run.relabel_fail]
  exact alike.concludeMoved same rfl

theorem Matches.concludePaused (alike : left.Matches labels right)
    (runs : run.relabel labels = other.relabel labels) :
    (left.concludePaused run).Matches labels (right.concludePaused other) := by
  have same : relabelMove labels run.pauseAtCheckpoint =
      relabelMove labels other.pauseAtCheckpoint := by
    rw [← Run.relabel_pauseAtCheckpoint, runs, Run.relabel_pauseAtCheckpoint]
  exact alike.concludeMoved same (congrArg Except.ok (congrArg Prod.fst same))

theorem Matches.concludeCompleted (alike : left.Matches labels right)
    (runs : run.relabel labels = other.relabel labels) :
    (left.concludeCompleted run).Matches labels
      (right.concludeCompleted other) := by
  have same : relabelMove labels run.complete =
      relabelMove labels other.complete := by
    rw [← Run.relabel_complete, runs, Run.relabel_complete]
  exact alike.concludeMoved same (congrArg Except.ok (congrArg Prod.fst same))

/-- A move fails for both runs, or both runs move. -/
theorem moves_cases {moved others : Except PipelineError (Run × List Event)}
    (same : moved.map (relabelMove labels) =
      others.map (relabelMove labels)) :
    (∃ error, moved = .error error ∧ others = .error error) ∨
      ∃ run events other otherEvents, moved = .ok (run, events) ∧
        others = .ok (other, otherEvents) ∧
        run.relabel labels = other.relabel labels ∧
        events.map (Event.relabel labels) =
          otherEvents.map (Event.relabel labels) := by
  rcases moved with error | ⟨run, events⟩ <;>
    rcases others with otherError | ⟨other, otherEvents⟩
  · obtain rfl := Except.error.inj same
    exact .inl ⟨error, rfl, rfl⟩
  · cases same
  · cases same
  · have same := Except.ok.inj same
    exact .inr ⟨run, events, other, otherEvents, rfl, rfl,
      congrArg Prod.fst same, congrArg Prod.snd same⟩

theorem Matches.callStage (alike : left.Matches labels right)
    (runs : run.relabel labels = other.relabel labels) (token : TokenId)
    (input : StageInput) :
    (left.callStage run token input).Matches labels
      (right.callStage other token input) := by
  have same : (run.beginStage input.stage).map (relabelMove labels) =
      (other.beginStage input.stage).map (relabelMove labels) := by
    rw [← Run.relabel_beginStage, runs, Run.relabel_beginStage]
  have cancelled : left.cancellation.reason? token =
      right.cancellation.reason? token := by rw [alike.cancellation]
  have model : left.stageModels.get input.stage =
      right.stageModels.get input.stage := by rw [alike.stageModels]
  unfold Pipeline.callStage
  rw [cancelled]
  cases right.cancellation.reason? token with
  | some reason => exact alike.concludeCancelled runs reason
  | none =>
      rcases moves_cases same with ⟨error, failed, otherFailed⟩ |
        ⟨begun, events, others, otherEvents, began, otherBegan, same, told⟩
      · rw [failed, otherFailed]
        exact alike.concludeFailed runs error
      · have temperature : begun.temperature = others.temperature :=
          Run.eq_of_relabel Run.temperature (fun _ => rfl) same
        rw [began, otherBegan]
        dsimp only
        rw [model, temperature]
        have dispatched : Turn.Matches labels
            ⟨{ left with
                run := some begun, awaited := some ⟨input.stage, token⟩ },
              [.dispatch
                { input
                  model := right.stageModels.get input.stage
                  temperature := others.temperature }], none⟩
            ⟨{ right with
                run := some others, awaited := some ⟨input.stage, token⟩ },
              [.dispatch
                { input
                  model := right.stageModels.get input.stage
                  temperature := others.temperature }], none⟩ :=
          ⟨{ alike with run := congrArg some same, awaited := rfl }, rfl, rfl⟩
        exact dispatched.afterEvents told

theorem Matches.generate (alike : left.Matches labels right)
    (runs : run.relabel labels = other.relabel labels) (token : TokenId)
    (feedback : Option Feedback) :
    (left.generate run token feedback).Matches labels
      (right.generate other token feedback) := by
  have outputs : run.outputs = other.outputs :=
    Run.eq_of_relabel Run.outputs (fun _ => rfl) runs
  have inputText : run.inputText = other.inputText :=
    Run.eq_of_relabel Run.inputText (fun _ => rfl) runs
  have attempt : run.attempt = other.attempt :=
    Run.eq_of_relabel Run.attempt (fun _ => rfl) runs
  unfold Pipeline.generate
  rw [outputs, inputText, attempt]
  split
  · exact alike.concludeFailed runs _
  · exact alike.concludeFailed runs _
  · exact alike.callStage runs token _

theorem Matches.proceed (alike : left.Matches labels right)
    (runs : run.relabel labels = other.relabel labels) (token : TokenId)
    (stage : Stage) (output : Json) :
    (left.proceed run token stage output).Matches labels
      (right.proceed other token stage output) := by
  have inputText : run.inputText = other.inputText :=
    Run.eq_of_relabel Run.inputText (fun _ => rfl) runs
  have mode : run.mode = other.mode :=
    Run.eq_of_relabel Run.mode (fun _ => rfl) runs
  cases stage with
  | parse =>
      simp only [Pipeline.proceed, inputText]
      exact alike.callStage runs token _
  | reason =>
      simp only [Pipeline.proceed, mode]
      cases other.mode with
      | manual => exact alike.concludePaused runs
      | auto => exact alike.generate runs token none
  | generate => exact alike.callStage runs token _
  | validate => exact alike.concludeCompleted runs

theorem Matches.settleCall (alike : left.Matches labels right)
    (runs : run.relabel labels = other.relabel labels) (call : AwaitedCall)
    (outcome : Except ServiceError Json) {milliseconds others : UInt64}
    (taken : labels.duration milliseconds = labels.duration others) :
    (left.settleCall run call outcome milliseconds).Matches labels
      (right.settleCall other call outcome others) := by
  unfold Pipeline.settleCall
  cases outcome with
  | ok output =>
      have same : (run.completeStage call.stage output milliseconds).map
            (relabelMove labels) =
          (other.completeStage call.stage output others).map
            (relabelMove labels) := by
        rw [← Run.relabel_completeStage, runs, taken,
          Run.relabel_completeStage]
      rcases moves_cases same with ⟨error, failed, otherFailed⟩ |
        ⟨ended, events, others, otherEvents, isEnded, areEnded, same, told⟩
      · simp only [failed, otherFailed]
        exact alike.concludeFailed runs error
      · simp only [isEnded, areEnded]
        exact (alike.proceed same call.token call.stage output).afterEvents
          told
  | error error =>
      have same : (run.failStage call.stage error.message milliseconds).map
            (relabelMove labels) =
          (other.failStage call.stage error.message others).map
            (relabelMove labels) := by
        rw [← Run.relabel_failStage, runs, taken, Run.relabel_failStage]
      rcases moves_cases same with ⟨error, failed, otherFailed⟩ |
        ⟨ended, events, others, otherEvents, isEnded, areEnded, same, told⟩
      · simp only [failed, otherFailed]
        exact alike.concludeFailed runs error
      · simp only [isEnded, areEnded]
        exact (alike.concludeFailed same _).afterEvents told

/-- Behind whatever is awaited stands the same token. -/
theorem Matches.whileWaiting (alike : left.Matches labels right)
    {goesOn : AwaitedCall → Run → Turn σ}
    {goOn : AwaitedCall → Run → Turn τ}
    (matched : ∀ call run other, run.relabel labels = other.relabel labels →
      (goesOn call run).Matches labels (goOn call other)) :
    Turn.Matches labels
      (match left.awaited, left.run with
        | some call, some run =>
            match left.cancellation.reason? call.token with
            | some reason => left.concludeCancelled run reason
            | none => goesOn call run
        | _, _ => left.idle)
      (match right.awaited, right.run with
        | some call, some run =>
            match right.cancellation.reason? call.token with
            | some reason => right.concludeCancelled run reason
            | none => goOn call run
        | _, _ => right.idle) := by
  rw [alike.awaited, alike.cancellation]
  cases right.awaited with
  | none => exact alike.idle
  | some call =>
      rcases alike.run_cases with ⟨noRun, noOther⟩ |
        ⟨run, other, isRun, isOther, runs⟩
      · rw [noRun, noOther]
        exact alike.idle
      · rw [isRun, isOther]
        dsimp only
        cases right.cancellation.reason? call.token with
        | some reason => exact alike.concludeCancelled runs reason
        | none => exact matched call run other runs

theorem Matches.reply (alike : left.Matches labels right)
    (outcome : Except ServiceError Json) {milliseconds others : UInt64}
    (taken : labels.duration milliseconds = labels.duration others) :
    (left.reply outcome milliseconds).Matches labels
      (right.reply outcome others) :=
  alike.whileWaiting fun call _ _ runs =>
    alike.settleCall runs call outcome taken

theorem Matches.notice (alike : left.Matches labels right) :
    left.notice.Matches labels right.notice :=
  alike.whileWaiting fun _ _ _ _ => alike.idle

/-! ## Operations -/

omit [KeyValueStore σ] [KeyValueStore τ] in
theorem Matches.whenFree (alike : left.Matches labels right)
    {turn : Turn σ} {others : Turn τ} (turns : turn.Matches labels others) :
    (left.whenFree turn).Matches labels (right.whenFree others) := by
  unfold Pipeline.whenFree
  rw [alike.awaited]
  split
  · exact alike.idle
  · exact turns

/-- A start makes an identifier for its run, which is labelled alike. -/
theorem Matches.start (alike : left.Matches labels right)
    (request : RunRequest) (registry : ModelRegistry) :
    (left.start request registry).Matches labels
      (right.start request registry) := by
  have busy : left.isBusy = right.isBusy := by
    rcases alike.run_cases with ⟨noRun, noOther⟩ |
      ⟨run, other, isRun, isOther, runs⟩
    · rw [Pipeline.isBusy, noRun, Pipeline.isBusy, noOther]
    · rw [Pipeline.isBusy, isRun, Pipeline.isBusy, isOther]
      exact Run.eq_of_relabel Run.isLive (fun _ => rfl) runs
  have ids : labels.id left.supply.nextId.1 =
      labels.id right.supply.nextId.1 := alike.supply.id []
  unfold Pipeline.start
  rw [busy]
  split
  · exact alike.refuse _
  split
  · exact alike.refuse _
  split
  · exact alike.refuse _
  dsimp only
  split
  · exact alike.refuse _
  rw [alike.cancellation]
  have runs : (left.runOf request registry).relabel labels =
      (right.runOf request registry).relabel labels := by
    simp only [Run.relabel, runOf, Run.new, ids]
  have opened : Pipeline.Matches labels
      { left.prepared request registry with
        cancellation := right.cancellation.issue.1
        run := some (left.runOf request registry) }
      { right.prepared request registry with
        run := some (right.runOf request registry) } :=
    { alike with
      supply := alike.supply.nextId, cancellation := rfl
      run := congrArg some runs, stageModels := rfl }
  have told : [Event.runStarted left.supply.nextId.1 1].map
        (Event.relabel labels) =
      [Event.runStarted right.supply.nextId.1 1].map
        (Event.relabel labels) := by
    simp only [List.map_cons, List.map_nil, Event.relabel, ids]
  exact (opened.callStage runs _ _).afterEvents told

theorem Matches.continueRun (alike : left.Matches labels right) :
    left.continueRun.Matches labels right.continueRun := by
  unfold Pipeline.continueRun
  rcases alike.run_cases with ⟨noRun, noOther⟩ |
    ⟨run, other, isRun, isOther, runs⟩
  · rw [noRun, noOther]
    exact alike.refuse _
  have status : run.status = other.status :=
    Run.eq_of_relabel Run.status (fun _ => rfl) runs
  have resumed : Run.relabel labels { run with status := .running } =
      Run.relabel labels { other with status := .running } :=
    congrArg (fun run : Run => { run with status := .running }) runs
  have withTokens : ∀ tokens, Pipeline.Matches labels
      { left with
        cancellation := tokens, run := some { run with status := .running } }
      { right with
        cancellation := tokens
        run := some { other with status := .running } } :=
    fun tokens => (alike.withTokens tokens).withRun resumed
  rw [isRun, isOther]
  dsimp only
  rw [status, alike.cancellation]
  split
  · split
    · exact (withTokens _).generate resumed _ none
    · exact (withTokens _).generate resumed _ none
  · exact alike.refuse _

theorem Matches.regenerate (alike : left.Matches labels right) :
    left.regenerate.Matches labels right.regenerate := by
  unfold Pipeline.regenerate
  rcases alike.run_cases with ⟨noRun, noOther⟩ |
    ⟨run, other, isRun, isOther, runs⟩
  · rw [noRun, noOther]
    exact alike.refuse _
  have context : regenerationContext run = regenerationContext other :=
    Run.eq_of_relabel regenerationContext (fun _ => rfl) runs
  have isLive : run.isLive = other.isLive :=
    Run.eq_of_relabel Run.isLive (fun _ => rfl) runs
  have attempt : run.attempt = other.attempt :=
    Run.eq_of_relabel Run.attempt (fun _ => rfl) runs
  have same : relabelMove labels run.startAttempt =
      relabelMove labels other.startAttempt := by
    rw [← Run.relabel_startAttempt, runs, Run.relabel_startAttempt]
  have reopened : run.startAttempt.1.relabel labels =
      other.startAttempt.1.relabel labels := congrArg Prod.fst same
  rw [isRun, isOther]
  dsimp only
  rw [context, isLive, attempt, alike.maxAttempts, alike.cancellation]
  split
  · exact alike.refuse _
  split
  · exact alike.refuse _
  split
  · exact alike.refuse _
  · have opened : Pipeline.Matches labels
        { left with
          cancellation := right.cancellation.issue.1
          maxAttempts := right.maxAttempts
          run := some run.startAttempt.1 }
        { right with
          cancellation := right.cancellation.issue.1
          run := some other.startAttempt.1 } :=
      { alike with
        cancellation := rfl, maxAttempts := rfl
        run := congrArg some reopened }
    exact (opened.generate reopened _ _).afterEvents (congrArg Prod.snd same)

theorem Matches.cancelWith (alike : left.Matches labels right)
    (reason : String) :
    (left.cancelWith reason).Matches labels (right.cancelWith reason) := by
  unfold Pipeline.cancelWith
  rcases alike.run_cases with ⟨noRun, noOther⟩ |
    ⟨run, other, isRun, isOther, runs⟩
  · rw [noRun, noOther]
    exact alike.refuse _
  have isLive : run.isLive = other.isLive :=
    Run.eq_of_relabel Run.isLive (fun _ => rfl) runs
  rw [isRun, isOther]
  dsimp only
  rw [isLive, alike.cancellation]
  split
  · exact (alike.withTokens _).concludeCancelled runs reason
  · exact alike.refuse _

theorem Matches.settlePendingCancel (alike : left.Matches labels right) :
    (left.settlePendingCancel.getD left.idle).Matches labels
      (right.settlePendingCancel.getD right.idle) := by
  unfold Pipeline.settlePendingCancel
  rw [alike.cancellation]
  cases right.cancellation.pending? with
  | none => exact alike.idle
  | some reason =>
      rcases alike.run_cases with ⟨noRun, noOther⟩ |
        ⟨run, other, isRun, isOther, runs⟩
      · rw [noRun, noOther]
        exact alike.idle
      have isLive : run.isLive = other.isLive :=
        Run.eq_of_relabel Run.isLive (fun _ => rfl) runs
      rw [isRun, isOther]
      dsimp only
      rw [isLive]
      split
      · exact alike.concludeCancelled runs reason
      · exact alike.idle

/-! ## Whatever happens -/

theorem Matches.occur (alike : left.Matches labels right)
    (happened : Occurrence) :
    (left.occur happened).Matches labels (right.occur happened) := by
  cases happened with
  | start request registry =>
      exact alike.whenFree (alike.start request registry)
  | continueRun => exact alike.whenFree alike.continueRun
  | regenerate => exact alike.whenFree alike.regenerate
  | cancelWith reason => exact alike.whenFree (alike.cancelWith reason)
  | settlePendingCancel => exact alike.whenFree alike.settlePendingCancel
  | discard =>
      refine alike.whenFree (Matches.idle ?_)
      exact { alike with
        cancellation := congrArg (·.cancel inputEdited) alike.cancellation
        run := rfl, stageModels := rfl }
  | fire reason =>
      refine Matches.idle ?_
      exact { alike with
        cancellation := congrArg (·.cancel reason) alike.cancellation }
  | notice => exact alike.notice
  | reply outcome milliseconds => exact alike.reply outcome rfl

theorem Matches.happen (alike : left.Matches labels right)
    {happening : Happening σ} {other : Happening τ}
    (same : happening.Matches labels other) :
    (left.happen happening).Matches labels (right.happen other) := by
  cases same with
  | occurrence happened => exact alike.occur happened
  | reply outcome taken => exact alike.reply outcome taken
  | issue =>
      refine Matches.idle ?_
      exact { alike with
        cancellation := congrArg (·.issue.1) alike.cancellation }
  | abandon => exact Matches.idle { alike with awaited := rfl }
  | exchangeHistory same => exact Matches.idle { alike with history := same }

/-- In each turn the pipelines look the same. -/
theorem Matches.turnsThrough (alike : left.Matches labels right)
    {happenings : List (Happening σ)} {others : List (Happening τ)}
    (same : List.Forall₂ (Happening.Matches labels) happenings others) :
    (left.turnsThrough happenings).map (Turn.seen labels) =
      (right.turnsThrough others).map (Turn.seen labels) := by
  induction same generalizing left right with
  | nil => rfl
  | cons first later induction =>
      have turns := alike.happen first
      exact congrArg₂ List.cons turns.seen (induction turns.pipeline)

end Pipeline

/-! ## What is stored -/

/-- A snapshot is put at the head of a history, and all of the history is
written.  If the write succeeds the store holds it, whatever failed before. -/
structure Turn.Writes [KeyValueStore σ] (holds : σ → String → Option String)
    (turn : Turn σ) (before : History σ) (item : HistoryItem) : Prop where
  recorded : turn.recorded = [(item.id, item.run.status)]
  items : turn.pipeline.history.items =
    (item :: before.items).take before.capacity
  store : turn.pipeline.history.store =
    (KeyValueStore.write before.store StoreKey.history.name
      (History.encodeItems turn.pipeline.history.items)).2
  stored : (KeyValueStore.write before.store StoreKey.history.name
      (History.encodeItems turn.pipeline.history.items)).1 = .ok () →
    holds turn.pipeline.history.store StoreKey.history.name =
      some (History.encodeItems turn.pipeline.history.items).text

namespace Pipeline

variable [KeyValueStore σ] [KeyValueStore τ]
  {holds : σ → String → Option String}

/-- Every snapshot is written with all of the history. -/
theorem Takes.writes_or_keeps (durable : KeyValueStore.Durable holds)
    {pipeline : Pipeline σ} {happening : Happening σ} {turn : Turn σ}
    (takes : pipeline.Takes happening turn)
    (sameHistory : ∀ history, happening ≠ .exchangeHistory history) :
    (∃ item, turn.Writes holds pipeline.history item) ∨
      turn.Keeps pipeline.history := by
  rcases takes.records_or_keeps sameHistory with
    ⟨item, records⟩ | ⟨keeps, -⟩
  · have written : turn.pipeline.history.store =
        (KeyValueStore.write pipeline.history.store StoreKey.history.name
          (History.encodeItems turn.pipeline.history.items)).2 := by
      cases takes with
      | conclude => rfl
      | refuse _ refuses => cases refuses <;> cases records.isEnd
      | dispatch | pass => cases records.isEnd
    refine .inl ⟨item, records.recorded, records.items, written, ?_⟩
    intro done
    rw [written]
    exact durable.set_ok done
  · exact .inr keeps

/-- Whatever writes fail, sessions that are supplied alike and to which the
same happens take the same turns. -/
theorem turns_over_faults (durable : KeyValueStore.Durable holds)
    {history : History σ} {other : History τ}
    (same : history.seen labels = other.seen labels) {supply others : Supply}
    (agrees : supply.Agrees labels others) (maxAttempts : UInt32)
    {happenings : List (Happening σ)} {otherHappenings : List (Happening τ)}
    (alike : List.Forall₂ (Happening.Matches labels) happenings
      otherHappenings) :
    ((new history supply maxAttempts).turnsThrough happenings).map
        (Turn.seen labels) =
      ((new other others maxAttempts).turnsThrough otherHappenings).map
        (Turn.seen labels) ∧
    ∀ earlier happening, (∀ history, happening ≠ .exchangeHistory history) →
      let before := (new history supply maxAttempts).through earlier
      (∃ item, (before.happen happening).Writes holds before.history item) ∨
        (before.happen happening).Keeps before.history := by
  constructor
  · have atFirst : Pipeline.Matches labels (new history supply maxAttempts)
        (new other others maxAttempts) :=
      ⟨same, agrees, rfl, rfl, rfl, rfl, rfl⟩
    exact atFirst.turnsThrough alike
  · intro earlier happening sameHistory
    have shaped := isShaped_through history supply maxAttempts earlier
    exact (takes_happen shaped happening).writes_or_keeps durable sameHistory

/-- A run is paused and then cancelled, in a session of some speed. -/
def pausedThenStopped (milliseconds : UInt64) : List (Happening FlakyStore) :=
  [.occurrence (startShort .manual),
    .occurrence (.reply (.ok .null) milliseconds),
    .occurrence (.reply (.ok (.bool true)) milliseconds),
    .occurrence (.cancelWith "stop")]

theorem matches_pausedThenStopped (milliseconds others : UInt64) :
    List.Forall₂ (Happening.Matches .blind)
      (pausedThenStopped milliseconds) (pausedThenStopped others) :=
  .cons (.occurrence _) (.cons (.reply _ rfl) (.cons (.reply _ rfl)
    (.cons (.occurrence _) .nil)))

/-- An empty history that is told which of the next writes succeed. -/
def flakyHistory (succeeds : List Bool) : History FlakyStore :=
  ⟨⟨.empty, succeeds⟩, 5, []⟩

/-- The first of two snapshots cannot be stored, and the second is stored with
it; another session, in which no write fails, takes the same turns. -/
theorem turns_pausedThenStopped :
    let flaky := new (flakyHistory [false]) ⟨0, 0, ⟨0, 0⟩⟩ 3
    let sound := new (flakyHistory []) ⟨9, 2, ⟨7, 1⟩⟩ 3
    (flaky.turnsThrough (pausedThenStopped 5)).map (Turn.seen .blind) =
        (sound.turnsThrough (pausedThenStopped 8)).map (Turn.seen .blind) ∧
      (flaky.through ((pausedThenStopped 5).take 3)).history.store.documents =
        .empty ∧
      (flaky.through (pausedThenStopped 5)).history.items.length = 2 ∧
      (flaky.through (pausedThenStopped 5)).history.store.documents.find?
          StoreKey.history.name =
        some (History.encodeItems
          (flaky.through (pausedThenStopped 5)).history.items).text := by
  have same : (flakyHistory [false]).seen .blind =
      (flakyHistory []).seen .blind := rfl
  obtain ⟨sameTurns, writes⟩ := turns_over_faults FlakyStore.durable same
    (Supply.agrees_blind ⟨0, 0, ⟨0, 0⟩⟩ ⟨9, 2, ⟨7, 1⟩⟩) 3
    (matches_pausedThenStopped 5 8)
  refine ⟨sameTurns, rfl, rfl, ?_⟩
  rcases writes ((pausedThenStopped 5).take 3)
    (.occurrence (.cancelWith "stop")) nofun with ⟨item, writes⟩ | keeps
  · exact writes.stored rfl
  · cases keeps.recorded

end Pipeline

end AgentPipeline
