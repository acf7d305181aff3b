import AgentPipeline.Proofs.Pipeline.Answers

/-!
# The two modes

A run that pauses and is continued ends like one that did not pause: the
service is asked the same, and what is announced and recorded besides tells of
the pause.  Main statement: `modes_parallel`.
-/

namespace AgentPipeline

namespace Turn

variable {σ : Type}

/-- The operation has returned a run that is paused. -/
def isPaused (turn : Turn σ) : Bool :=
  match turn.result with
  | some (.ok run) => run.status = .pausedAtCheckpoint
  | _ => false

variable [KeyValueStore σ]

/-- The operation, and that of continuing the run if it has paused. -/
def continued (service : StageService) (asked : List StageRequest)
    (turn : Turn σ) : Turn σ :=
  if turn.isPaused then
    (turn.pipeline.continueRun.completed service
      (asked ++ turn.requests)).after turn.effects
  else turn

/-- The operation, and further attempts after it. -/
def retried (service : StageService) (asked : List StageRequest)
    (turn : Turn σ) : Nat → Turn σ
  | 0 => turn
  | attempts + 1 =>
      let turn := turn.retried service asked attempts
      (turn.pipeline.regenerate.completed service
        (asked ++ turn.requests)).after turn.effects

omit [KeyValueStore σ] in
theorem isPaused_after (effects : List Effect) (turn : Turn σ) :
    (turn.after effects).isPaused = turn.isPaused := rfl

theorem continued_after (service : StageService) (asked : List StageRequest)
    (first turn : Turn σ) :
    (turn.after first.effects).continued service asked =
      (turn.continued service (asked ++ first.requests)).after
        first.effects := by
  unfold continued
  rw [isPaused_after]
  split
  · rw [requests_after, ← List.append_assoc, after_after]
    rfl
  · rfl

omit [KeyValueStore σ] in
theorem Agrees.isPaused_eq {l r : Uuid} {before other : History σ}
    {left right : Turn σ} (agrees : left.Agrees l r before other right) :
    right.isPaused = left.isPaused := by
  have same := agrees.result
  unfold isPaused
  generalize left.result = result at same
  generalize right.result = results at same
  cases same with
  | none => rfl
  | some same =>
      cases same with
      | error => rfl
      | ok alike => simp only [alike.status]

end Turn

/-! ## What a pause adds -/

/-- What is noticed of a pause beside what is noticed without one. -/
def pauseEffects (r : Uuid) (item : HistoryItem) : List Effect :=
  [.announce (.checkpointReached r),
    .announce (.historyRecorded item.id .pausedAtCheckpoint)]

/-- Operations, on pipelines with some histories, dispatch the same requests
and come to the same.  If there is a pause in the right one, two events tell of
it and one snapshot more is added to the history. -/
structure Turn.Parallels {σ : Type} (l r : Uuid) (before other : History σ)
    (pause : Option HistoryItem) (left right : Turn σ) : Prop where
  pipeline : left.pipeline.Alike l r right.pipeline
  requests : right.requests = left.requests
  result : Option.Rel (ResultsAlike l r) left.result right.result
  effects : ∃ front back,
    right.effects = front ++ pause.toList.flatMap (pauseEffects r) ++ back ∧
    List.Forall₂ (Effect.Alike l r) left.effects (front ++ back)
  snapshots : ∃ added newer older,
    left.Adds before added ∧
    right.Adds other (newer ++ pause.toList ++ older) ∧
    List.Forall₂ (fun item other => item.run.Alike l r other.run)
      added (newer ++ older)

namespace Turn

variable {σ : Type} {l r : Uuid} {before other : History σ}
  {pause : Option HistoryItem} {left right next others : Turn σ}

theorem Agrees.parallels (agrees : left.Agrees l r before other right) :
    left.Parallels l r before other none right := by
  obtain ⟨added, others, same, adds, addsOthers⟩ := agrees.snapshots
  exact ⟨agrees.pipeline, requests_eq_of_alike agrees.effects, agrees.result,
    ⟨[], right.effects, rfl, agrees.effects⟩,
    ⟨added, [], others, adds, addsOthers, same⟩⟩

/-- Turns that agree may come first. -/
theorem Parallels.behind
    (parallels : next.Parallels l r left.pipeline.history
      right.pipeline.history pause others)
    (agrees : left.Agrees l r before other right) :
    (next.after left.effects).Parallels l r before other pause
      (others.after right.effects) := by
  obtain ⟨front, back, isRight, alike⟩ := parallels.effects
  obtain ⟨first, firstOthers, firstSame, adds, addsOthers⟩ := agrees.snapshots
  obtain ⟨added, newer, older, nextAdds, nextAddsOthers, same⟩ :=
    parallels.snapshots
  refine ⟨parallels.pipeline, ?_, parallels.result,
    ⟨right.effects ++ front, back, ?_, ?_⟩,
    ⟨added ++ first, newer, older ++ firstOthers, adds.after nextAdds, ?_,
      ?_⟩⟩
  · rw [requests_after, requests_after, parallels.requests,
      requests_eq_of_alike agrees.effects]
  · show right.effects ++ others.effects = _
    simp only [isRight, List.append_assoc]
  · rw [List.append_assoc]
    exact List.rel_append agrees.effects alike
  · rw [← List.append_assoc]
    exact addsOthers.after nextAddsOthers
  · rw [← List.append_assoc]
    exact List.rel_append same firstSame

/-- Turns that agree may come last. -/
theorem Parallels.after
    (parallels : left.Parallels l r before other pause right)
    (agrees : next.Agrees l r left.pipeline.history right.pipeline.history
      others) :
    (next.after left.effects).Parallels l r before other pause
      (others.after right.effects) := by
  obtain ⟨front, back, isRight, alike⟩ := parallels.effects
  obtain ⟨added, newer, older, adds, addsOthers, same⟩ := parallels.snapshots
  obtain ⟨last, lastOthers, lastSame, lastAdds, lastAddsOthers⟩ :=
    agrees.snapshots
  refine ⟨agrees.pipeline, ?_, agrees.result,
    ⟨front, back ++ others.effects, ?_, ?_⟩,
    ⟨last ++ added, lastOthers ++ newer, older, adds.after lastAdds, ?_, ?_⟩⟩
  · rw [requests_after, requests_after, parallels.requests,
      requests_eq_of_alike agrees.effects]
  · show right.effects ++ others.effects = _
    rw [isRight, List.append_assoc]
  · rw [← List.append_assoc]
    exact List.rel_append alike agrees.effects
  · simpa only [List.append_assoc] using addsOthers.after lastAddsOthers
  · rw [List.append_assoc]
    exact List.rel_append lastSame same

end Turn

/-! ## Where the modes part -/

namespace Pipeline

variable {σ : Type} [KeyValueStore σ] {pipeline : Pipeline σ}
  {mode : ProgressionMode} {stage : Stage} {run : Run} {token : TokenId}

/-- A run of a mode is in the middle of a stage, under the current token, which
is open. -/
structure IsDriven (pipeline : Pipeline σ) (mode : ProgressionMode)
    (stage : Stage) (run : Run) (token : TokenId) : Prop where
  awaited : pipeline.awaited = some ⟨stage, token⟩
  current : pipeline.run = some run
  underway : run.IsUnderway stage
  mode : run.mode = mode
  hasToken : pipeline.cancellation.current? = some token
  isOpen : pipeline.cancellation.reason? token = none

theorem callStage_isDriven {input : StageInput}
    (ready : run.IsReady input.stage.index)
    (hasToken : pipeline.cancellation.current? = some token)
    (isOpen : pipeline.cancellation.reason? token = none) :
    (pipeline.callStage run token input).pipeline.IsDriven run.mode
      input.stage (run.begun input.stage) token := by
  rw [callStage_of_open isOpen ready]
  exact ⟨rfl, rfl, Run.begun_isUnderway ready, rfl, hasToken, isOpen⟩

theorem start_refused_or_isDriven (pipeline : Pipeline σ)
    (request : RunRequest) (registry : ModelRegistry) :
    (∃ error, pipeline.start request registry = pipeline.refuse error) ∨
      ∃ run token, (pipeline.start request registry).pipeline.IsDriven
        request.mode .parse run token := by
  unfold start
  split
  · exact .inl ⟨_, rfl⟩
  split
  · exact .inl ⟨_, rfl⟩
  split
  · exact .inl ⟨_, rfl⟩
  dsimp only
  split
  · exact .inl ⟨_, rfl⟩
  · exact .inr ⟨_, _, callStage_isDriven (Run.new_isReady ..)
      (CancelGroup.current?_issue _) (CancelGroup.reason?_issue _)⟩

omit [KeyValueStore σ] in
theorem IsDriven.isWaiting (driven : pipeline.IsDriven mode stage run token) :
    pipeline.awaited.isSome :=
  Option.isSome_of_eq_some driven.awaited

theorem IsDriven.reply_eq (driven : pipeline.IsDriven mode stage run token)
    (outcome : Except ServiceError Json) (milliseconds : UInt64) :
    pipeline.reply outcome milliseconds =
      pipeline.settleCall run ⟨stage, token⟩ outcome milliseconds := by
  simp only [reply, driven.awaited, driven.current, driven.isOpen]

/-- Behind the parse stage the modes do the same. -/
theorem IsDriven.reply_isDriven
    (driven : pipeline.IsDriven mode .parse run token) (output : Json)
    (milliseconds : UInt64) :
    ∃ run, (pipeline.reply (.ok output) milliseconds).pipeline.IsDriven mode
      .reason run token := by
  have ready : (run.finished .parse output milliseconds).IsReady
      (StageInput.reason output run.inputText).stage.index :=
    Run.finished_isReady driven.underway output milliseconds
  rw [driven.reply_eq, settleCall_ok driven.underway, ← driven.mode]
  exact ⟨_, callStage_isDriven ready driven.hasToken driven.isOpen⟩

theorem IsDriven.reply_of_auto
    (driven : pipeline.IsDriven .auto .reason run token) (output : Json)
    (milliseconds : UInt64) :
    pipeline.reply (.ok output) milliseconds =
      (pipeline.generate (run.finished .reason output milliseconds) token
        none).afterEvents [.stageCompleted run.id .reason milliseconds] := by
  have auto : (run.finished .reason output milliseconds).mode = .auto :=
    driven.mode
  rw [driven.reply_eq, settleCall_ok driven.underway]
  simp only [proceed, auto]

theorem IsDriven.reply_of_manual
    (driven : pipeline.IsDriven .manual .reason run token) (output : Json)
    (milliseconds : UInt64) :
    pipeline.reply (.ok output) milliseconds =
      (pipeline.concludePaused
        (run.finished .reason output milliseconds)).afterEvents
          [.stageCompleted run.id .reason milliseconds] := by
  have manual : (run.finished .reason output milliseconds).mode = .manual :=
    driven.mode
  rw [driven.reply_eq, settleCall_ok driven.underway]
  simp only [proceed, manual]

theorem callStage_replaces (pipeline : Pipeline σ) (run : Run)
    (token : TokenId) (input : StageInput) (current : Option Run)
    (awaited : Option AwaitedCall) :
    { pipeline with run := current, awaited }.callStage run token input =
      pipeline.callStage run token input := by
  unfold callStage
  dsimp only
  cases pipeline.cancellation.reason? token with
  | some reason => rfl
  | none => cases run.beginStage input.stage <;> rfl

/-- Neither the run that a pipeline holds nor the call that it awaits matters
to a drive that goes on with a run. -/
theorem generate_replaces (pipeline : Pipeline σ) (run : Run)
    (token : TokenId) (feedback : Option Feedback) (current : Option Run)
    (awaited : Option AwaitedCall) :
    { pipeline with run := current, awaited }.generate run token feedback =
      pipeline.generate run token feedback := by
  unfold generate
  cases run.outputs.parse with
  | none => rfl
  | some parsed =>
      cases run.outputs.reason with
      | none => rfl
      | some reasoning => exact callStage_replaces ..

/-- A run that was paused goes on, under the token that it had, as if it had
not been. -/
theorem continued_concludePaused
    (hasToken : pipeline.cancellation.current? = some token)
    (running : run.status = .running) (service : StageService)
    (asked : List StageRequest) :
    (pipeline.concludePaused run).continued service asked =
      (({ (pipeline.concludePaused run).pipeline with
        run := some run }.generate run token none).completed service
          asked).after (pipeline.concludePaused run).effects := by
  have resumed :
      { run.pauseAtCheckpoint.1 with status := .running } = run := by
    rw [← running]
    rfl
  have current : (pipeline.concludePaused run).pipeline.run =
      some run.pauseAtCheckpoint.1 := rfl
  have sameToken : (pipeline.concludePaused run).pipeline.cancellation.current?
      = some token := hasToken
  have paused : run.pauseAtCheckpoint.1.status = .pausedAtCheckpoint := rfl
  have isPaused : (pipeline.concludePaused run).isPaused = true := rfl
  have silent : (pipeline.concludePaused run).requests = [] := rfl
  rw [Turn.continued, if_pos isPaused, silent, List.append_nil]
  simp only [continueRun, current, paused, if_true, sameToken, resumed]

end Pipeline

/-- An operation that does not pause has returned.  One that may pause is
parallel to it when it has been continued, and the snapshot of its pause is of
the run that it has returned. -/
structure Turn.Concurs {σ : Type} [KeyValueStore σ] (l r : Uuid)
    (service : StageService) (asked : List StageRequest)
    (before other : History σ) (left stopped : Turn σ) : Prop where
  free : left.pipeline.awaited = none
  returns : left.result.isSome
  parallels : ∃ pause, pause.isSome = stopped.isPaused ∧
    (∀ item ∈ pause, stopped.result = some (.ok item.run)) ∧
    left.Parallels l r before other pause (stopped.continued service asked)

namespace Turn

variable {σ : Type} [KeyValueStore σ] {l r : Uuid} {before other : History σ}
  {left right next stopped : Turn σ} {service : StageService}
  {asked : List StageRequest}

theorem Agrees.concurs (agrees : left.Agrees l r before other right)
    (free : left.pipeline.awaited = none) (returns : left.result.isSome)
    (notPaused : left.isPaused = false) :
    left.Concurs l r service asked before other right := by
  have othersNotPaused := agrees.isPaused_eq.trans notPaused
  refine ⟨free, returns, none, othersNotPaused.symm, by simp, ?_⟩
  rw [continued, othersNotPaused]
  exact agrees.parallels

/-- Turns that agree may come first. -/
theorem Concurs.behind {later : List StageRequest}
    (concurs : next.Concurs l r service later left.pipeline.history
      right.pipeline.history stopped)
    (agrees : left.Agrees l r before other right)
    (isLater : later = asked ++ left.requests) :
    (next.after left.effects).Concurs l r service asked before other
      (stopped.after right.effects) := by
  obtain ⟨pause, isPaused, isSnapshot, parallels⟩ := concurs.parallels
  refine ⟨concurs.free, concurs.returns, pause, isPaused, isSnapshot, ?_⟩
  rw [continued_after, requests_eq_of_alike agrees.effects, ← isLater]
  exact parallels.behind agrees

end Turn

theorem Run.Alike.finished {l r : Uuid} {run other : Run}
    (alike : run.Alike l r other) (stage : Stage) (output : Json)
    (milliseconds others : UInt64) :
    (run.finished stage output milliseconds).Alike l r
      (other.finished stage output others) := by
  obtain ⟨isLeft, mode, durations, rfl⟩ := alike
  exact ⟨isLeft, mode, _, rfl⟩

namespace Pipeline

variable {σ : Type} [KeyValueStore σ] {l r : Uuid} {left right : Pipeline σ}
  {run other : Run} {token otherToken : TokenId}

/-- A drive that goes on and one that pauses and is continued. -/
theorem Alike.concludePaused_concurs (alike : left.Alike l r right)
    (runs : run.Alike l r other) (running : run.status = .running)
    (hasToken : left.cancellation.current? = some token)
    {service others : StageService}
    (same : others.outcome = service.outcome) (asked : List StageRequest)
    {answers : Nat} (enough : 2 ≤ answers) :
    ((left.generate run token none).answered service asked answers).Concurs
      l r others asked left.history right.history
        (right.concludePaused other) := by
  have goes := generate_goes left run token none
  have isLast : Stage.all.length ≤ Stage.generate.index + answers :=
    Nat.add_le_add_left enough 2
  have ends := goes.answered service asked answers
  refine ⟨ends.free isLast, ends.returns (ends.free isLast),
    some (right.history.record right.supply other.pauseAtCheckpoint.1).1,
    rfl, ?_, ?_⟩
  · rintro item ⟨⟩
    rfl
  -- When the run goes on, all that the pause has changed is the history.
  have resumed : Pipeline.Alike l r
      { left with run := some run, awaited := none }
      { (right.concludePaused other).pipeline with run := some other } :=
    ⟨.some runs, alike.cancellation, alike.maxAttempts, alike.stageModels, rfl⟩
  have agrees := resumed.generate runs token none
  rw [generate_replaces] at agrees
  have whole := agrees.answered goes same asked Stage.all.length
  have adds : (right.concludePaused other).Adds right.history
      [(right.history.record right.supply other.pauseAtCheckpoint.1).1] :=
    ⟨rfl, rfl, rfl⟩
  rw [goes.answered_eq service asked isLast (Nat.le_add_left _ _),
    continued_concludePaused (by rw [alike.cancellation, hasToken])
      (runs.status.trans running)]
  obtain ⟨added, addedOthers, items, leftAdds, rightAdds⟩ := whole.snapshots
  refine ⟨whole.pipeline, ?_, whole.result, ⟨[], _, ?_, whole.effects⟩,
    ⟨added, addedOthers, [], leftAdds, ?_, ?_⟩⟩
  · rw [Turn.requests_after]
    exact Turn.requests_eq_of_alike whole.effects
  · rw [← runs.id_right]
    rfl
  · rw [List.append_nil]
    exact adds.after rightAdds
  · rw [List.append_nil]
    exact items

section Reply

variable {mode : ProgressionMode} {stage : Stage}
  {service others : StageService} {answers : Nat}

omit [KeyValueStore σ] in
theorem IsDriven.runs (driven : left.IsDriven mode stage run token)
    {otherMode : ProgressionMode}
    (othersDriven : right.IsDriven otherMode stage other otherToken)
    (alike : left.Alike l r right) : run.Alike l r other := by
  have runs := alike.run
  rw [driven.current, othersDriven.current] at runs
  cases runs with
  | some runs => exact runs

/-- An error ends the operation in both modes. -/
theorem IsDriven.reply_error_concurs
    (driven : left.IsDriven mode stage run token)
    (alike : left.Alike l r right) (error : ServiceError)
    (milliseconds otherMilliseconds : UInt64) (asked : List StageRequest) :
    ((left.reply (.error error) milliseconds).answered service asked
      answers).Concurs l r others asked left.history right.history
        ((right.reply (.error error) otherMilliseconds).answered others asked
          answers) := by
  have agrees : (left.reply (.error error) milliseconds).Agrees l r
      left.history right.history
        (right.reply (.error error) otherMilliseconds) :=
    alike.reply (fun _ _ => .inr rfl) milliseconds otherMilliseconds
  have isReply := driven.reply_eq (.error error) milliseconds
  rw [settleCall_error driven.underway] at isReply
  have free : (left.reply (.error error) milliseconds).pipeline.awaited =
      none := by
    rw [isReply]
    rfl
  rw [Turn.answered_of_free _ _ _ free,
    Turn.answered_of_free _ _ _ (agrees.pipeline.awaited.trans free)]
  refine agrees.concurs free ?_ ?_
  · rw [isReply]
    rfl
  · rw [isReply]
    rfl

/-- Behind the reason stage one mode goes on and the other pauses. -/
theorem IsDriven.reply_reason_concurs
    (driven : left.IsDriven .auto .reason run token)
    (othersDriven : right.IsDriven .manual .reason other otherToken)
    (alike : left.Alike l r right) (same : others.outcome = service.outcome)
    (outcome : Except ServiceError Json)
    (milliseconds otherMilliseconds : UInt64) (asked : List StageRequest)
    (enough : 2 ≤ answers) :
    ((left.reply outcome milliseconds).answered service asked
      answers).Concurs l r others asked left.history right.history
        ((right.reply outcome otherMilliseconds).answered others asked
          answers) := by
  cases outcome with
  | error error => exact driven.reply_error_concurs alike error _ _ asked
  | ok output =>
      have runs := driven.runs othersDriven alike
      have finished := runs.finished .reason output milliseconds
        otherMilliseconds
      rw [driven.reply_of_auto, othersDriven.reply_of_manual,
        Turn.answered_afterEvents, Turn.answered_afterEvents,
        Turn.answered_of_free _ _ _
          (show (right.concludePaused _).pipeline.awaited = none from rfl)]
      have concurs := alike.concludePaused_concurs finished
        driven.underway.running driven.hasToken same asked enough
      have ended := alike.idle.afterEvents
        (.cons (.stageCompleted .reason milliseconds otherMilliseconds) .nil)
        rfl rfl
      rw [runs.id_left, runs.id_right]
      exact concurs.behind ended (List.append_nil asked).symm

/-- Before the reason stage the modes agree. -/
theorem IsDriven.reply_parse_concurs
    (driven : left.IsDriven .auto .parse run token)
    (othersDriven : right.IsDriven .manual .parse other otherToken)
    (alike : left.Alike l r right) (same : others.outcome = service.outcome)
    (outcome : Except ServiceError Json)
    (milliseconds otherMilliseconds : UInt64) (asked : List StageRequest)
    (enough : 2 ≤ answers) :
    ((left.reply outcome milliseconds).answered service asked
      (answers + 1)).Concurs l r others asked left.history right.history
        ((right.reply outcome otherMilliseconds).answered others asked
          (answers + 1)) := by
  cases outcome with
  | error error => exact driven.reply_error_concurs alike error _ _ asked
  | ok output =>
      obtain ⟨_, reasons⟩ := driven.reply_isDriven output milliseconds
      obtain ⟨_, othersReason⟩ :=
        othersDriven.reply_isDriven output otherMilliseconds
      have agrees : (left.reply (.ok output) milliseconds).Agrees l r
          left.history right.history
            (right.reply (.ok output) otherMilliseconds) := by
        refine alike.reply (fun call waiting => .inl ?_) _ _
        rw [driven.awaited] at waiting
        cases waiting
        simp
      rw [Turn.answered_of_waiting _ _ _ reasons.isWaiting,
        Turn.answered_of_waiting _ _ _ othersReason.isWaiting, same,
        Turn.requests_eq_of_alike agrees.effects]
      exact (reasons.reply_reason_concurs othersReason agrees.pipeline same _ _
        _ _ enough).behind agrees rfl

end Reply

/-- Whether a run can be started does not depend on its mode. -/
theorem Alike.start (alike : left.Alike l r right) (request : RunRequest)
    (registry : ModelRegistry) (mode otherMode : ProgressionMode) :
    ∃ l r, (left.start { request with mode } registry).Agrees l r left.history
      right.history
        (right.start { request with mode := otherMode } registry) := by
  have isBusy : right.isBusy = left.isBusy := by
    unfold Pipeline.isBusy
    have runs := alike.run
    generalize left.run = current at runs
    generalize right.run = others at runs
    cases runs with
    | none => rfl
    | some runs => exact runs.isLive
  unfold Pipeline.start
  dsimp only
  rw [isBusy]
  split
  · exact ⟨l, r, alike.refuse _⟩
  split
  · exact ⟨l, r, alike.refuse _⟩
  split
  · exact ⟨l, r, alike.refuse _⟩
  split
  · exact ⟨l, r, alike.refuse _⟩
  · rw [alike.cancellation]
    have runs : (left.runOf { request with mode } registry).Alike
        left.supply.nextId.1 right.supply.nextId.1
        (right.runOf { request with mode := otherMode } registry) :=
      ⟨rfl, otherMode, _, rfl⟩
    have opened : Pipeline.Alike left.supply.nextId.1 right.supply.nextId.1
        { left.prepared request registry with
          run := some (left.runOf { request with mode } registry) }
        { right.prepared request registry with
          cancellation := left.cancellation.issue.1
          run := some
            (right.runOf { request with mode := otherMode } registry) } :=
      ⟨.some runs, rfl, alike.maxAttempts, rfl, alike.awaited⟩
    exact ⟨_, _, (opened.callStage runs _ _).afterEvents
      (.cons (.runStarted 1) .nil) rfl rfl⟩

/-! ## Whole operations -/

section Whole

variable {service others : StageService}

theorem Alike.start_concurs (alike : left.Alike l r right)
    (free : left.awaited = none) (request : RunRequest)
    (registry : ModelRegistry) (same : others.outcome = service.outcome)
    (asked : List StageRequest) :
    ∃ l r, ((left.start { request with mode := .auto } registry).completed
      service asked).Concurs l r others asked left.history right.history
        ((right.start { request with mode := .manual } registry).completed
          others asked) := by
  obtain ⟨l, r, agrees⟩ := alike.start request registry .auto .manual
  refine ⟨l, r, ?_⟩
  have areAwaited := agrees.pipeline.awaited
  rcases start_refused_or_isDriven left { request with mode := .auto } registry
    with ⟨error, refused⟩ | ⟨run, token, driven⟩
  · rw [refused] at areAwaited agrees ⊢
    rw [Turn.completed, Turn.answered_of_free _ _ _ free, Turn.completed,
      Turn.answered_of_free _ _ _ (areAwaited.trans free)]
    exact agrees.concurs free rfl rfl
  rcases start_refused_or_isDriven right { request with mode := .manual }
    registry with ⟨error, refused⟩ | ⟨other, otherToken, othersDriven⟩
  · rw [refused, driven.awaited] at areAwaited
    have stillFree := alike.awaited.trans free
    rw [show (right.refuse error).pipeline.awaited = right.awaited from rfl,
      stillFree] at areAwaited
    cases areAwaited
  · have isWaiting := driven.isWaiting
    have areWaiting := othersDriven.isWaiting
    rw [Turn.completed, Turn.completed]
    show Turn.Concurs l r others asked left.history right.history
      (Turn.answered service asked (3 + 1) _)
      (Turn.answered others asked (3 + 1) _)
    rw [Turn.answered_of_waiting _ _ _ isWaiting,
      Turn.answered_of_waiting _ _ _ areWaiting, same,
      Turn.requests_eq_of_alike agrees.effects]
    exact (driven.reply_parse_concurs othersDriven agrees.pipeline same _ _ _ _
      (Nat.le_refl 2)).behind agrees rfl

theorem regenerate_goes {pipeline : Pipeline σ}
    (free : pipeline.awaited = none) :
    pipeline.regenerate.Goes Stage.generate.index := by
  have refused : ∀ error, (pipeline.refuse error).Goes
      Stage.generate.index :=
    fun _ => Turn.goes_of_free free rfl _
  unfold regenerate
  split
  · exact refused _
  split
  · exact refused _
  split
  · exact refused _
  split
  · exact refused _
  · exact (generate_goes ..).after _

end Whole

end Pipeline

/-- Further attempts return, and are parallel where the runs are. -/
theorem Turn.Parallels.retried {σ : Type} [KeyValueStore σ] {l r : Uuid}
    {before other : History σ} {pause : Option HistoryItem}
    {left right : Turn σ} {service others : StageService}
    (parallels : left.Parallels l r before other pause right)
    (free : left.pipeline.awaited = none) (returns : left.result.isSome)
    (same : others.outcome = service.outcome) (asked : List StageRequest)
    (attempts : Nat) :
    (left.retried service asked attempts).pipeline.awaited = none ∧
      (left.retried service asked attempts).result.isSome ∧
      (left.retried service asked attempts).Parallels l r before other pause
        (right.retried others asked attempts) := by
  induction attempts with
  | zero => exact ⟨free, returns, parallels⟩
  | succ attempts ih =>
      obtain ⟨stillFree, -, stillParallel⟩ := ih
      have goes := Pipeline.regenerate_goes stillFree
      have ended := goes.answered service
        (asked ++ (left.retried service asked attempts).requests)
        Stage.all.length
      have nowFree := ended.free (by decide)
      have agrees := stillParallel.pipeline.regenerate.answered goes same
        (asked ++ (left.retried service asked attempts).requests)
        Stage.all.length
      simp only [Turn.retried]
      rw [stillParallel.requests]
      exact ⟨nowFree, ended.returns nowFree, stillParallel.after agrees⟩

namespace Pipeline

variable {σ : Type} [KeyValueStore σ]

/-- A run without a pause and one that is continued when it has paused, on
pipelines that are alike and for the same answers: they return, the service is
asked the same and the runs are alike, also after further attempts.  The pause
adds two events and a snapshot. -/
theorem modes_parallel {l r : Uuid} {left right : Pipeline σ}
    (alike : left.Alike l r right) (free : left.awaited = none)
    (request : RunRequest) (registry : ModelRegistry) (service : StageService)
    (duration : List StageRequest → UInt64) (asked : List StageRequest) :
    let others := { service with duration }
    let auto := (left.start { request with mode := .auto } registry).completed
      service asked
    let stopped := (right.start { request with mode := .manual }
      registry).completed others asked
    let manual := stopped.continued others asked
    ∃ l r pause, pause.isSome = stopped.isPaused ∧
      (∀ item ∈ pause, stopped.result = some (.ok item.run)) ∧
      ∀ attempts, (auto.retried service asked attempts).result.isSome ∧
        (auto.retried service asked attempts).Parallels l r left.history
          right.history pause (manual.retried others asked attempts) := by
  intro others auto stopped manual
  have same : others.outcome = service.outcome := rfl
  obtain ⟨l, r, concurs⟩ :=
    alike.start_concurs free request registry same asked
  obtain ⟨pause, isPaused, isSnapshot, parallels⟩ := concurs.parallels
  refine ⟨l, r, pause, isPaused, isSnapshot, fun attempts => ?_⟩
  exact (parallels.retried concurs.free concurs.returns same asked attempts).2

/-- Every validation fails. -/
def failingChecks : StageService where
  outcome asked := match asked.getLast?.map StageRequest.stage with
    | some .validate => .ok (.object [("valid", .bool false)])
    | _ => .ok .null
  duration _ := 5

/-- A short text, with one model for all stages. -/
def shortRequest : RunRequest :=
  ⟨"Users can read.", .single "basic", ⟨0⟩, .auto⟩

/-- The run pauses, and it is attempted a second time. -/
theorem modes_parallel_failingChecks :
    let others := { failingChecks with duration := fun _ => 9 }
    let auto := (inMemory.start { shortRequest with mode := .auto }
      ⟨.empty, [], .online⟩).completed failingChecks []
    let stopped := (inMemory.start { shortRequest with mode := .manual }
      ⟨.empty, [], .online⟩).completed others []
    let manual := stopped.continued others []
    stopped.isPaused = true ∧
      (manual.retried others [] 1).requests.length = 6 ∧
      ∃ l r pause, pause.isSome ∧
        (auto.retried failingChecks [] 1).Parallels l r inMemory.history
          inMemory.history pause (manual.retried others [] 1) := by
  have alike : inMemory.Alike ⟨0⟩ ⟨0⟩ inMemory := ⟨.none, rfl, rfl, rfl, rfl⟩
  obtain ⟨l, r, pause, isPaused, -, attempts⟩ := modes_parallel alike rfl
    shortRequest ⟨.empty, [], .online⟩ failingChecks (fun _ => 9) []
  exact ⟨rfl, rfl, l, r, pause, isPaused, (attempts 1).2⟩

end Pipeline

end AgentPipeline
