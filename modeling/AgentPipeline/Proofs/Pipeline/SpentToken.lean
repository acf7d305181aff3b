import AgentPipeline.Proofs.Pipeline.Rest

/-!
# Spent tokens

A drive only looks at the token of its own operation.  Two pipelines that
differ in the reasons of other tokens therefore take the same turns, whatever
happens to them.  Main statement: `apparent_turns_withTokens`.
-/

namespace AgentPipeline

/-- The pipeline with the tokens of another group. -/
def Pipeline.withTokens {σ : Type} (pipeline : Pipeline σ)
    (tokens : CancelGroup) : Pipeline σ :=
  { pipeline with cancellation := tokens }

namespace Turn

variable {σ : Type}

def withTokens (turn : Turn σ) (tokens : CancelGroup) : Turn σ :=
  { turn with pipeline := turn.pipeline.withTokens tokens }

/-- What can be seen of a turn: everything but the tokens. -/
def apparent (turn : Turn σ) : Turn σ := turn.withTokens .new

@[simp]
theorem apparent_withTokens (turn : Turn σ) (tokens : CancelGroup) :
    (turn.withTokens tokens).apparent = turn.apparent := rfl

@[simp]
theorem withTokens_pipeline (turn : Turn σ) (tokens : CancelGroup) :
    (turn.withTokens tokens).pipeline = turn.pipeline.withTokens tokens :=
  rfl

end Turn

/-- Two groups have issued equally many tokens and, as long as it matters, the
same is pending in both. -/
structure CancelGroup.Agrees (matters : Bool) (left right : CancelGroup) :
    Prop where
  issued : left.reasons.length = right.reasons.length
  pending : matters = true → left.pending? = right.pending?

namespace CancelGroup.Agrees

variable {matters : Bool} {left right : CancelGroup}

theorem current? (agrees : left.Agrees matters right) :
    left.current? = right.current? := by
  obtain ⟨left⟩ := left
  obtain ⟨right⟩ := right
  have issued := agrees.issued
  cases left <;> cases right <;> simp_all [CancelGroup.current?]

theorem issue_token (agrees : left.Agrees matters right) :
    left.issue.2 = right.issue.2 := by
  simp [issue, agrees.issued]

/-- After issuing, nothing is pending in either group. -/
theorem issue (agrees : left.Agrees matters right) (later : Bool) :
    left.issue.1.Agrees later right.issue.1 := by
  refine ⟨?_, fun _ => rfl⟩
  simp [CancelGroup.issue, agrees.issued]

theorem cancel (agrees : left.Agrees matters right) (reason : String) :
    (left.cancel reason).Agrees matters (right.cancel reason) := by
  refine ⟨by simp [agrees.issued], ?_⟩
  intro isLive
  have issued := agrees.issued
  have pending := agrees.pending isLive
  obtain ⟨left⟩ := left
  obtain ⟨right⟩ := right
  rcases left with _ | ⟨_ | leftReason, leftOlder⟩ <;>
    rcases right with _ | ⟨_ | rightReason, rightOlder⟩ <;>
    simp_all [CancelGroup.cancel, pending?]

/-- What matters less is agreed on as well. -/
theorem weaken (agrees : left.Agrees matters right) {less : Bool}
    (matters_of_less : less = true → matters = true) :
    left.Agrees less right :=
  ⟨agrees.issued, fun isLess => agrees.pending (matters_of_less isLess)⟩

/-- The current token has the same reason in both groups, if it matters. -/
theorem reason? (agrees : left.Agrees true right) {token : TokenId}
    (current : right.current? = some token) :
    left.reason? token = right.reason? token := by
  rw [reason?_eq_pending? current,
    reason?_eq_pending? (agrees.current?.trans current), agrees.pending rfl]

end CancelGroup.Agrees

namespace Pipeline

variable {σ : Type} [KeyValueStore σ]

/-! ## The parts of a drive -/

omit [KeyValueStore σ] in
@[simp]
theorem withTokens_withTokens (pipeline : Pipeline σ)
    (first second : CancelGroup) :
    (pipeline.withTokens first).withTokens second =
      pipeline.withTokens second := rfl

theorem callStage_withTokens
    {pipeline : Pipeline σ} {tokens : CancelGroup} {token : TokenId}
    (same : tokens.reason? token = pipeline.cancellation.reason? token)
    (run : Run) (input : StageInput) :
    (pipeline.withTokens tokens).callStage run token input =
      (pipeline.callStage run token input).withTokens tokens := by
  simp only [callStage, withTokens, same]
  split
  · rfl
  · split <;> rfl

theorem generate_withTokens
    {pipeline : Pipeline σ} {tokens : CancelGroup} {token : TokenId}
    (same : tokens.reason? token = pipeline.cancellation.reason? token)
    (run : Run) (feedback : Option Feedback) :
    (pipeline.withTokens tokens).generate run token feedback =
      (pipeline.generate run token feedback).withTokens tokens := by
  simp only [generate]
  split
  · rfl
  · rfl
  · exact callStage_withTokens same run _

theorem proceed_withTokens
    {pipeline : Pipeline σ} {tokens : CancelGroup} {token : TokenId}
    (same : tokens.reason? token = pipeline.cancellation.reason? token)
    (run : Run) (stage : Stage) (output : Json) :
    (pipeline.withTokens tokens).proceed run token stage output =
      (pipeline.proceed run token stage output).withTokens tokens := by
  cases stage with
  | parse => exact callStage_withTokens same run _
  | reason =>
      simp only [proceed]
      cases run.mode with
      | manual => rfl
      | auto => exact generate_withTokens same run none
  | generate => exact callStage_withTokens same run _
  | validate => rfl

theorem settleCall_withTokens
    {pipeline : Pipeline σ} {tokens : CancelGroup} {call : AwaitedCall}
    (same :
      tokens.reason? call.token = pipeline.cancellation.reason? call.token)
    (run : Run) (outcome : Except ServiceError Json)
    (milliseconds : UInt64) :
    (pipeline.withTokens tokens).settleCall run call outcome milliseconds =
      (pipeline.settleCall run call outcome milliseconds).withTokens
        tokens := by
  cases outcome with
  | ok output =>
      simp only [settleCall]
      split
      · rfl
      next run events _ =>
        rw [proceed_withTokens same run call.stage output]
        rfl
  | error error =>
      simp only [settleCall]
      split <;> rfl

/-! ## Tokens are left alone by a drive -/

@[simp]
theorem callStage_cancellation (pipeline : Pipeline σ) (run : Run)
    (token : TokenId) (input : StageInput) :
    (pipeline.callStage run token input).pipeline.cancellation =
      pipeline.cancellation := by
  unfold callStage
  split
  · rfl
  · split <;> rfl

@[simp]
theorem generate_cancellation (pipeline : Pipeline σ) (run : Run)
    (token : TokenId) (feedback : Option Feedback) :
    (pipeline.generate run token feedback).pipeline.cancellation =
      pipeline.cancellation := by
  unfold generate
  split
  · rfl
  · rfl
  · exact callStage_cancellation ..

@[simp]
theorem proceed_cancellation (pipeline : Pipeline σ) (run : Run)
    (token : TokenId) (stage : Stage) (output : Json) :
    (pipeline.proceed run token stage output).pipeline.cancellation =
      pipeline.cancellation := by
  cases stage with
  | parse => exact callStage_cancellation ..
  | reason =>
      simp only [proceed]
      cases run.mode with
      | manual => rfl
      | auto => exact generate_cancellation ..
  | generate => exact callStage_cancellation ..
  | validate => rfl

@[simp]
theorem settleCall_cancellation (pipeline : Pipeline σ) (run : Run)
    (call : AwaitedCall) (outcome : Except ServiceError Json)
    (milliseconds : UInt64) :
    (pipeline.settleCall run call outcome
      milliseconds).pipeline.cancellation = pipeline.cancellation := by
  unfold settleCall
  split
  · split
    · rfl
    · exact proceed_cancellation ..
  · split <;> rfl

end Pipeline

/-! ## The operations -/

/-- The turns differ at most in tokens that no longer matter. -/
def Turn.Alike {σ : Type} (left right : Turn σ) : Prop :=
  ∃ tokens, left = right.withTokens tokens ∧
    tokens.Agrees right.pipeline.isBusy right.pipeline.cancellation

theorem Turn.Alike.afterEvents
    {σ : Type} {left right : Turn σ} (alike : left.Alike right)
    (events : List Event) :
    (left.afterEvents events).Alike (right.afterEvents events) := by
  obtain ⟨tokens, rfl, agrees⟩ := alike
  exact ⟨tokens, rfl, agrees⟩

namespace Pipeline

variable {σ : Type} [KeyValueStore σ]

omit [KeyValueStore σ] in
/-- Where nothing happens, what was agreed on is still agreed on. -/
private theorem alike_refused
    {pipeline : Pipeline σ} {tokens : CancelGroup}
    (agrees : tokens.Agrees pipeline.isBusy pipeline.cancellation)
    (result : Option (Except PipelineError Run)) :
    Turn.Alike ⟨pipeline.withTokens tokens, [], result⟩
      ⟨pipeline, [], result⟩ :=
  ⟨tokens, rfl, agrees⟩

omit [KeyValueStore σ] in
private theorem isBusy_of_isLive
    {pipeline : Pipeline σ} {run : Run} (current : pipeline.run = some run)
    (isLive : run.isLive = true) : pipeline.isBusy = true := by
  simp [isBusy, current, isLive]

omit [KeyValueStore σ] in
/-- The token of the call that is waited for matters. -/
private theorem agrees_of_waiting
    {pipeline : Pipeline σ} (sound : pipeline.IsSound)
    {tokens : CancelGroup}
    (agrees : tokens.Agrees pipeline.isBusy pipeline.cancellation)
    {call : AwaitedCall} (waiting : pipeline.awaited = some call) :
    tokens.Agrees true pipeline.cancellation ∧
      tokens.reason? call.token =
        pipeline.cancellation.reason? call.token := by
  obtain ⟨token, run, current, underway⟩ := sound.waits call waiting
  rw [isBusy_of_isLive current underway.isLive] at agrees
  exact ⟨agrees, agrees.reason? token⟩

theorem notice_alike
    {pipeline : Pipeline σ} (sound : pipeline.IsSound)
    {tokens : CancelGroup}
    (agrees : tokens.Agrees pipeline.isBusy pipeline.cancellation) :
    (pipeline.withTokens tokens).notice.Alike pipeline.notice := by
  unfold notice
  simp only [withTokens]
  split
  next call run waiting current =>
    obtain ⟨matters, same⟩ := agrees_of_waiting sound agrees waiting
    rw [same]
    split
    · exact ⟨tokens, rfl, matters.weaken fun _ => rfl⟩
    · exact alike_refused agrees none
  next => exact alike_refused agrees none

theorem reply_alike
    {pipeline : Pipeline σ} (sound : pipeline.IsSound)
    {tokens : CancelGroup}
    (agrees : tokens.Agrees pipeline.isBusy pipeline.cancellation)
    (outcome : Except ServiceError Json) (milliseconds : UInt64) :
    ((pipeline.withTokens tokens).reply outcome milliseconds).Alike
      (pipeline.reply outcome milliseconds) := by
  unfold reply
  simp only [show (pipeline.withTokens tokens).awaited = pipeline.awaited
      from rfl, show (pipeline.withTokens tokens).run = pipeline.run from rfl,
    show (pipeline.withTokens tokens).cancellation = tokens from rfl]
  split
  next call run waiting current =>
    obtain ⟨matters, same⟩ := agrees_of_waiting sound agrees waiting
    rw [same]
    split
    · exact ⟨tokens, rfl, matters.weaken fun _ => rfl⟩
    · refine ⟨tokens, settleCall_withTokens same run outcome milliseconds, ?_⟩
      rw [settleCall_cancellation]
      exact matters.weaken fun _ => rfl
  next => exact alike_refused agrees none

/-- A call under the current token is the same if that token is. -/
private theorem callStage_alike
    (pipeline : Pipeline σ) {tokens : CancelGroup} {token : TokenId}
    (agrees : tokens.Agrees true pipeline.cancellation)
    (current : pipeline.cancellation.current? = some token)
    (run : Run) (input : StageInput) :
    ((pipeline.withTokens tokens).callStage run token input).Alike
      (pipeline.callStage run token input) := by
  refine ⟨tokens, callStage_withTokens (agrees.reason? current) run input, ?_⟩
  rw [callStage_cancellation]
  exact agrees.weaken fun _ => rfl

private theorem generate_alike
    (pipeline : Pipeline σ) {tokens : CancelGroup} {token : TokenId}
    (agrees : tokens.Agrees true pipeline.cancellation)
    (current : pipeline.cancellation.current? = some token)
    (run : Run) (feedback : Option Feedback) :
    ((pipeline.withTokens tokens).generate run token feedback).Alike
      (pipeline.generate run token feedback) := by
  refine ⟨tokens, generate_withTokens (agrees.reason? current) run feedback,
    ?_⟩
  rw [generate_cancellation]
  exact agrees.weaken fun _ => rfl

theorem start_alike
    {pipeline : Pipeline σ} {tokens : CancelGroup}
    (agrees : tokens.Agrees pipeline.isBusy pipeline.cancellation)
    (request : RunRequest) (registry : ModelRegistry) :
    ((pipeline.withTokens tokens).start request registry).Alike
      (pipeline.start request registry) := by
  unfold start
  simp only [show (pipeline.withTokens tokens).isBusy = pipeline.isBusy
    from rfl]
  split
  · exact alike_refused agrees _
  split
  · exact alike_refused agrees _
  split
  · exact alike_refused agrees _
  split
  · exact alike_refused agrees _
  · simp only [show (pipeline.withTokens tokens).cancellation = tokens
      from rfl, agrees.issue_token]
    apply Turn.Alike.afterEvents
    exact callStage_alike
      { pipeline with
        cancellation := pipeline.cancellation.issue.1
        supply := pipeline.supply.nextId.2
        stageModels := _
        run := _ }
      (agrees.issue true) (CancelGroup.current?_issue _) _ _

theorem continueRun_alike
    {pipeline : Pipeline σ} {tokens : CancelGroup}
    (agrees : tokens.Agrees pipeline.isBusy pipeline.cancellation) :
    (pipeline.withTokens tokens).continueRun.Alike pipeline.continueRun := by
  unfold continueRun
  simp only [show (pipeline.withTokens tokens).run = pipeline.run from rfl,
    show (pipeline.withTokens tokens).cancellation = tokens from rfl]
  split
  · exact alike_refused agrees _
  next paused current =>
    split
    next status =>
      have isLive : paused.isLive := by
        simp [Run.isLive, status, RunStatus.isTerminal]
      rw [isBusy_of_isLive current isLive] at agrees
      rw [agrees.current?]
      split
      next token hasToken =>
        exact generate_alike { pipeline with run := _ } agrees hasToken _ none
      next =>
        rw [agrees.issue_token]
        exact generate_alike
          { pipeline with
            cancellation := pipeline.cancellation.issue.1
            run := _ }
          (agrees.issue true) (CancelGroup.current?_issue _) _ none
    · exact alike_refused agrees _

theorem regenerate_alike
    {pipeline : Pipeline σ} {tokens : CancelGroup}
    (agrees : tokens.Agrees pipeline.isBusy pipeline.cancellation) :
    (pipeline.withTokens tokens).regenerate.Alike pipeline.regenerate := by
  unfold regenerate
  simp only [show (pipeline.withTokens tokens).run = pipeline.run from rfl,
    show (pipeline.withTokens tokens).maxAttempts = pipeline.maxAttempts
      from rfl,
    show (pipeline.withTokens tokens).cancellation = tokens from rfl]
  split
  · exact alike_refused agrees _
  split
  · exact alike_refused agrees _
  split
  · exact alike_refused agrees _
  split
  · exact alike_refused agrees _
  · simp only [agrees.issue_token]
    apply Turn.Alike.afterEvents
    exact generate_alike
      { pipeline with
        cancellation := pipeline.cancellation.issue.1
        run := _ }
      (agrees.issue true) (CancelGroup.current?_issue _) _ _

theorem cancelWith_alike
    {pipeline : Pipeline σ} {tokens : CancelGroup}
    (agrees : tokens.Agrees pipeline.isBusy pipeline.cancellation)
    (reason : String) :
    ((pipeline.withTokens tokens).cancelWith reason).Alike
      (pipeline.cancelWith reason) := by
  unfold cancelWith
  simp only [show (pipeline.withTokens tokens).run = pipeline.run from rfl]
  split
  · exact alike_refused agrees _
  next run current =>
    split
    next isLive =>
      rw [isBusy_of_isLive current isLive] at agrees
      exact ⟨tokens.cancel reason, rfl,
        (agrees.cancel reason).weaken fun _ => rfl⟩
    · exact alike_refused agrees _

theorem settlePendingCancel_alike
    {pipeline : Pipeline σ} {tokens : CancelGroup}
    (agrees : tokens.Agrees pipeline.isBusy pipeline.cancellation) :
    ((pipeline.withTokens tokens).settlePendingCancel.getD
        (pipeline.withTokens tokens).idle).Alike
      (pipeline.settlePendingCancel.getD pipeline.idle) := by
  by_cases busy : pipeline.isBusy = true
  · rw [busy] at agrees
    unfold settlePendingCancel
    simp only [show (pipeline.withTokens tokens).run = pipeline.run from rfl,
      show (pipeline.withTokens tokens).cancellation = tokens from rfl,
      agrees.pending rfl]
    split
    · split
      · exact ⟨tokens, rfl, agrees.weaken fun _ => rfl⟩
      · exact ⟨tokens, rfl, agrees.weaken fun _ => rfl⟩
    · exact ⟨tokens, rfl, agrees.weaken fun _ => rfl⟩
  · have atRest : ∀ group,
        (pipeline.withTokens group).settlePendingCancel = none := by
      intro group
      unfold settlePendingCancel
      split
      next reason run _ current =>
        have notLive : ¬run.isLive = true := fun isLive =>
          busy (isBusy_of_isLive current isLive)
        rw [if_neg notLive]
      · rfl
    rw [atRest tokens, show pipeline.settlePendingCancel = none from
      atRest pipeline.cancellation]
    exact alike_refused agrees none

/-- Whatever happens, the same is seen of it with other spent tokens. -/
theorem occur_alike
    {pipeline : Pipeline σ} (sound : pipeline.IsSound)
    {tokens : CancelGroup}
    (agrees : tokens.Agrees pipeline.isBusy pipeline.cancellation)
    (occurrence : Occurrence) :
    ((pipeline.withTokens tokens).occur occurrence).Alike
      (pipeline.occur occurrence) := by
  have whenFree : ∀ {left right : Turn σ}, left.Alike right →
      ((pipeline.withTokens tokens).whenFree left).Alike
        (pipeline.whenFree right) := by
    intro left right alike
    unfold Pipeline.whenFree
    simp only [show (pipeline.withTokens tokens).awaited = pipeline.awaited
      from rfl]
    split
    · exact alike_refused agrees none
    · exact alike
  cases occurrence with
  | start request registry =>
      exact whenFree (start_alike agrees request registry)
  | continueRun => exact whenFree (continueRun_alike agrees)
  | regenerate => exact whenFree (regenerate_alike agrees)
  | cancelWith reason => exact whenFree (cancelWith_alike agrees reason)
  | settlePendingCancel => exact whenFree (settlePendingCancel_alike agrees)
  | discard =>
      exact whenFree ⟨tokens.cancel inputEdited, rfl,
        (agrees.cancel inputEdited).weaken (by simp [discard, idle, isBusy])⟩
  | fire reason => exact ⟨tokens.cancel reason, rfl, agrees.cancel reason⟩
  | notice => exact notice_alike sound agrees
  | reply outcome milliseconds =>
      exact reply_alike sound agrees outcome milliseconds

/-- Pipelines that differ in spent tokens take the same turns. -/
theorem apparent_turns_withTokens
    {pipeline : Pipeline σ} (sound : pipeline.IsSound)
    {tokens : CancelGroup}
    (agrees : tokens.Agrees pipeline.isBusy pipeline.cancellation)
    (later : List Occurrence) :
    ((pipeline.withTokens tokens).turns later).map Turn.apparent =
      (pipeline.turns later).map Turn.apparent := by
  induction later generalizing pipeline tokens with
  | nil => rfl
  | cons occurrence later ih =>
      obtain ⟨next, same, nextAgrees⟩ := occur_alike sound agrees occurrence
      simp only [turns, List.map_cons, same, Turn.apparent_withTokens,
        Turn.withTokens_pipeline]
      rw [ih (occur_isSound sound occurrence) nextAgrees]

end Pipeline

end AgentPipeline
