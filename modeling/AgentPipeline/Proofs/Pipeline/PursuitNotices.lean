import AgentPipeline.Proofs.Pipeline.PursuitCancel
import AgentPipeline.Proofs.Pipeline.PursuitEnd

/-!
# What others notice of a pursuit

While a run is pursued operations are called and return, questions are
answered, and the cancel handle is fired.  All of this is listed in its order.
Main statement: `declined_at_once`, that a run is left at the checkpoint only
with the first answer, and if the handle was not fired.
-/

namespace AgentPipeline

/-- The operation that is called, unless one has returned. -/
def OperationNotice.called? : OperationNotice → Option RunOperation
  | .called operation => some operation
  | .returned .. => none

/-- The operation that is worked on. -/
def PursuitPhase.operation? : PursuitPhase → Option RunOperation
  | .working operation => some operation
  | .asking .. | .ended _ => none

/-- The question that is open. -/
def PursuitPhase.question? : PursuitPhase → Option RunQuestion
  | .asking question _ => some question
  | .working _ | .ended _ => none

def PursuitPhase.isOver : PursuitPhase → Bool
  | .ended _ => true
  | .working _ | .asking .. => false

/-- What is noted when an operation returns with a turn. -/
def Turn.returns {σ : Type} (turn : Turn σ) (operation : RunOperation) :
    List OperationNotice :=
  turn.result.toList.map (.returned operation)

/-- What is noted of the operations in a step.  The operation that returns is
the one that is called in it, or else the one that was worked on. -/
def PursuitStep.notices {σ : Type} (step : PursuitStep σ)
    (phase : PursuitPhase) : List OperationNotice :=
  step.called.toList.map .called ++
    (step.called <|> phase.operation?).toList.flatMap step.turn.returns

section Notices

variable {σ : Type}

theorem Turn.mem_returns {turn : Turn σ} {operation : RunOperation}
    {notice : OperationNotice} :
    notice ∈ turn.returns operation ↔
      ∃ result, turn.result = some result ∧
        notice = .returned operation result := by
  simp [returns, eq_comm]

@[simp]
theorem Turn.filterMap_returns (turn : Turn σ) (operation : RunOperation) :
    (turn.returns operation).filterMap OperationNotice.called? = [] := by
  rw [List.filterMap_eq_nil_iff]
  intro notice isReturned
  obtain ⟨_, _, rfl⟩ := mem_returns.mp isReturned
  rfl

theorem PursuitStep.result_of_returned {step : PursuitStep σ}
    {phase : PursuitPhase} {operation : RunOperation}
    {result : Except PipelineError Run}
    (isNoted : .returned operation result ∈ step.notices phase) :
    step.turn.result = some result := by
  rcases List.mem_append.mp isNoted with isCall | returns
  · obtain ⟨_, _, isOther⟩ := List.mem_map.mp isCall
    cases isOther
  · obtain ⟨_, _, isReturned⟩ := List.mem_flatMap.mp returns
    obtain ⟨_, isResult, same⟩ := Turn.mem_returns.mp isReturned
    cases same
    exact isResult

theorem PursuitStep.filterMap_notices (step : PursuitStep σ)
    (phase : PursuitPhase) :
    (step.notices phase).filterMap OperationNotice.called? =
      step.called.toList := by
  have returns : ((step.called <|> phase.operation?).toList.flatMap
      step.turn.returns).filterMap OperationNotice.called? = [] := by
    rw [List.filterMap_flatMap]
    simp
  rw [notices, List.filterMap_append, returns, List.append_nil,
    List.filterMap_map]
  exact List.filterMap_some

end Notices

namespace Pursuit

variable {σ : Type}

/-- The question that an event answers, with the answer; a user who assumes
yes is not asked. -/
def askedBy (pursuit : Pursuit σ) : PursuitEvent → List (RunQuestion × Bool)
  | .answer yes =>
      if pursuit.assumesYes then []
      else pursuit.phase.question?.toList.map fun question => (question, yes)
  | .fire _ | .notice | .reply .. => []

/-- The reason for which the cancel handle is fired, as long as there is
something to cancel. -/
def firedBy (pursuit : Pursuit σ) : PursuitEvent → List String
  | .fire reason => if pursuit.phase.isOver then [] else [reason]
  | .answer _ | .notice | .reply .. => []

variable [KeyValueStore σ] {pursuit : Pursuit σ}

/-- The operations that are called, and what they return. -/
def notices (pursuit : Pursuit σ) : List PursuitEvent → List OperationNotice :=
  pursuit.along fun pursuit event =>
    (pursuit.step event).notices pursuit.phase

/-- The questions that the user is asked, with the answers. -/
def asked (pursuit : Pursuit σ) :
    List PursuitEvent → List (RunQuestion × Bool) :=
  pursuit.along askedBy

/-- The reasons for which the cancel handle is fired. -/
def fired (pursuit : Pursuit σ) : List PursuitEvent → List String :=
  pursuit.along firedBy

theorem notices_cons (pursuit : Pursuit σ) (event : PursuitEvent)
    (later : List PursuitEvent) :
    pursuit.notices (event :: later) =
      (pursuit.step event).notices pursuit.phase ++
        (pursuit.next event).notices later := rfl

theorem asked_cons (pursuit : Pursuit σ) (event : PursuitEvent)
    (later : List PursuitEvent) :
    pursuit.asked (event :: later) =
      pursuit.askedBy event ++ (pursuit.next event).asked later := rfl

theorem fired_cons (pursuit : Pursuit σ) (event : PursuitEvent)
    (later : List PursuitEvent) :
    pursuit.fired (event :: later) =
      pursuit.firedBy event ++ (pursuit.next event).fired later := rfl

/-! ## Operations -/

/-- The operations that are noted as called are those that the answers led
to. -/
theorem filterMap_notices (pursuit : Pursuit σ)
    (events : List PursuitEvent) :
    (pursuit.notices events).filterMap OperationNotice.called? =
      pursuit.calls events := by
  induction events generalizing pursuit with
  | nil => rfl
  | cons event later ih =>
      rw [notices_cons, calls_cons, List.filterMap_append,
        PursuitStep.filterMap_notices, ih]

/-- No operation is refused: each returns a run, or fails with a stage. -/
theorem stage_of_returned (steady : pursuit.IsSteady)
    {events : List PursuitEvent} {operation : RunOperation}
    {error : PipelineError}
    (isNoted : .returned operation (.error error) ∈ pursuit.notices events) :
    ∃ stage message, error = .stage stage message := by
  induction events generalizing pursuit with
  | nil => cases isNoted
  | cons event later ih =>
      rcases List.mem_append.mp isNoted with atFirst | isLater
      · have failed := PursuitStep.result_of_returned atFirst
        exact ((goes_step steady event).stage_of_error failed).2
      · exact ih (steady.next event) isLater

/-! ## Calls -/

omit [KeyValueStore σ] in
/-- The number of calls that can still be dispatched: those of the later
stages, and two in every further attempt. -/
def requestsLeft (pursuit : Pursuit σ) : Nat :=
  match pursuit.phase with
  | .working _ =>
      (pursuit.pipeline.awaited.map (3 - ·.stage.index)).getD 0 +
        2 * pursuit.attemptsLeft
  | .asking .proceed _ => 2 + 2 * pursuit.attemptsLeft
  | .asking .regenerate _ => 2 * pursuit.attemptsLeft
  | .ended _ => 0

omit [KeyValueStore σ] in
theorem requestsLeft_le (pursuit : Pursuit σ) :
    pursuit.requestsLeft ≤ 3 + 2 * pursuit.attemptsLeft := by
  have calls : (pursuit.pipeline.awaited.map (3 - ·.stage.index)).getD 0 ≤
      3 := by
    cases pursuit.pipeline.awaited <;> simp
  unfold requestsLeft
  split <;> omega

omit [KeyValueStore σ] in
theorem requestsLeft_of_waiting {operation : RunOperation}
    (isPhase : pursuit.phase = .working operation) {call : AwaitedCall}
    (waiting : pursuit.pipeline.awaited = some call) :
    pursuit.requestsLeft =
      3 - call.stage.index + 2 * pursuit.attemptsLeft := by
  simp [requestsLeft, isPhase, waiting]

omit [KeyValueStore σ] in
/-- With a dispatch there is one call, and those of the later stages are
left. -/
theorem requestsLeft_dispatch (base : Pipeline σ) (run : Run)
    (token : TokenId) (input : StageInput) (events : List Event)
    (assumesYes : Bool) (operation : RunOperation) :
    let turn := (base.dispatch run token input).afterEvents events
    let next : Pursuit σ := ⟨turn.pipeline, assumesYes, .working operation⟩
    turn.requests.length + next.requestsLeft =
      1 + (3 - input.stage.index + 2 * next.attemptsLeft) := by
  intro turn next
  rw [requestsLeft_of_waiting rfl (rfl : next.pipeline.awaited = some _)]
  simp [turn]

/-- A step that dispatches a call takes one of those that are left. -/
theorem requestsLeft_next (steady : pursuit.IsSteady) (event : PursuitEvent) :
    (pursuit.step event).turn.requests.length +
      (pursuit.next event).requestsLeft ≤ pursuit.requestsLeft := by
  have goes := goes_step steady event
  have attempts := (spends_step steady event).attempts
  obtain ⟨_, fits⟩ := steady
  simp only [next] at attempts ⊢
  generalize pursuit.step event = step at goes attempts ⊢
  cases goes with
  | fire | stay => exact Nat.le_of_eq (Nat.zero_add _)
  | settle | leave => simp [requestsLeft]
  | @advance _ _ _ _ input _ _ _ isPhase dispatches =>
      have inside := input.stage.index_lt
      rw [requestsLeft_dispatch]
      cases dispatches with
      | reply waiting _ _ _ follows =>
          have stage := follows.stage
          rw [requestsLeft_of_waiting isPhase waiting]
          simp only [Option.toList_none, List.count_nil] at attempts
          omega
  | conclude isPhase concludes leads =>
      cases fits with
      | paused isOther | invalid isOther | ended isOther =>
          cases isPhase.symm.trans isOther
      | @working _ call _ _ waiting =>
          rw [requestsLeft_of_waiting isPhase waiting]
          simp only [Option.toList_none, List.count_nil] at attempts
          cases leads with
          | fail | rest => simp [requestsLeft]
          | invalid =>
              simp only [requestsLeft, Turn.requests_afterEvents,
                Pipeline.requests_conclude, List.length_nil]
              omega
          | pause waits isReason =>
              obtain rfl := Option.some.inj (waits.symm.trans waiting)
              simp only [requestsLeft, Turn.requests_afterEvents,
                Pipeline.requests_conclude, List.length_nil, isReason,
                Stage.index]
              omega
  | continueRun isPhase dispatches =>
      rw [requestsLeft_dispatch]
      change 0 + _ ≤ _ at attempts
      dsimp only at attempts
      cases dispatches with
      | continueRun =>
          simp only [requestsLeft, isPhase, StageInput.stage, Stage.index]
          omega
  | regenerate isPhase dispatches =>
      rw [requestsLeft_dispatch]
      change 1 + _ ≤ _ at attempts
      dsimp only at attempts
      cases dispatches with
      | regenerate =>
          simp only [requestsLeft, isPhase, StageInput.stage, Stage.index]
          omega

/-- A pursuit dispatches no more calls than are left. -/
theorem requests_length_le (steady : pursuit.IsSteady)
    (events : List PursuitEvent) :
    (pursuit.requests events).length ≤ pursuit.requestsLeft := by
  induction events generalizing pursuit with
  | nil => exact Nat.zero_le _
  | cons event later ih =>
      have first := requestsLeft_next steady event
      have rest := ih (steady.next event)
      rw [requests_cons, List.length_append]
      omega

/-! ## Answers and firings -/

/-- Every answer takes one of the questions that are left. -/
theorem questionsLeft_answered (steady : pursuit.IsSteady)
    {question : RunQuestion} {run : Run}
    (isPhase : pursuit.phase = .asking question run) (yes : Bool) :
    (pursuit.next (.answer yes)).questionsLeft < pursuit.questionsLeft := by
  have goes := goes_step steady (.answer yes)
  have spends := questionsLeft_next steady (.answer yes)
  have positive := questionsLeft_pos steady.fits isPhase
  simp only [next] at spends ⊢
  generalize pursuit.step (.answer yes) = step at goes spends ⊢
  cases goes with
  | stay notAwaited => simp [isPhase, PursuitPhase.awaits] at notAwaited
  | conclude isWorking => cases isPhase.symm.trans isWorking
  | settle | leave => exact positive
  | continueRun | regenerate =>
      change 1 + _ ≤ _ at spends
      omega

/-- A pursuit asks no more questions than are left. -/
theorem asked_length_le (steady : pursuit.IsSteady)
    (events : List PursuitEvent) :
    (pursuit.asked events).length + (pursuit.after events).questionsLeft ≤
      pursuit.questionsLeft := by
  induction events generalizing pursuit with
  | nil => exact Nat.le_of_eq (Nat.zero_add _)
  | cons event later ih =>
      have first : (pursuit.askedBy event).length +
          (pursuit.next event).questionsLeft ≤ pursuit.questionsLeft := by
        have noMore := questionsLeft_after steady [event]
        rw [after_cons, after_nil] at noMore
        cases event with
        | fire | notice | reply =>
            exact Nat.le_trans (Nat.le_of_eq (Nat.zero_add _)) noMore
        | answer yes =>
            simp only [askedBy]
            cases phase : pursuit.phase with
            | working | ended => simpa [PursuitPhase.question?] using noMore
            | asking question run =>
                have fewer := questionsLeft_answered steady phase yes
                cases pursuit.assumesYes
                · exact Nat.le_trans (Nat.le_of_eq (Nat.add_comm 1 _)) fewer
                · exact Nat.le_trans (Nat.le_of_eq (Nat.zero_add _)) noMore
      have rest := ih (steady.next event)
      rw [asked_cons, after_cons, List.length_append]
      omega

/-- A user who assumes yes is not asked. -/
theorem asked_of_assumes (assumes : pursuit.assumesYes = true)
    (events : List PursuitEvent) : pursuit.asked events = [] := by
  induction events generalizing pursuit with
  | nil => rfl
  | cons event later ih =>
      have notNext : (pursuit.next event).asked later = [] := ih assumes
      rw [asked_cons, notNext]
      cases event <;> simp [askedBy, assumes]

theorem checkpointsLeft_after (steady : pursuit.IsSteady)
    (events : List PursuitEvent) :
    (pursuit.after events).checkpointsLeft ≤ pursuit.checkpointsLeft := by
  induction events generalizing pursuit with
  | nil => exact Nat.le_refl _
  | cons event later ih =>
      have first := (spends_step steady event).checkpoints
      have rest := ih (steady.next event)
      rw [after_cons]
      omega

/-- Behind the checkpoint the run does not pause again. -/
theorem not_proceed_after (steady : pursuit.IsSteady)
    (noneLeft : pursuit.checkpointsLeft = 0) (later : List PursuitEvent)
    (run : Run) : (pursuit.after later).phase ≠ .asking .proceed run := by
  intro paused
  have ahead : (pursuit.after later).checkpointsLeft = 1 := by
    simp only [checkpointsLeft, paused]
  have atMost := checkpointsLeft_after steady later
  omega

/-- Behind an answer there is no checkpoint. -/
theorem checkpointsLeft_answered (steady : pursuit.IsSteady)
    {question : RunQuestion} {run : Run}
    (isPhase : pursuit.phase = .asking question run) (yes : Bool) :
    (pursuit.next (.answer yes)).checkpointsLeft = 0 := by
  have goes := goes_step steady (.answer yes)
  have spends := (spends_step steady (.answer yes)).checkpoints
  have atMost := pursuit.checkpointsLeft_le
  simp only [next] at spends ⊢
  generalize pursuit.step (.answer yes) = step at goes spends ⊢
  cases goes with
  | stay notAwaited => simp [isPhase, PursuitPhase.awaits] at notAwaited
  | conclude isWorking => cases isPhase.symm.trans isWorking
  | settle | leave => rfl
  | continueRun =>
      change 1 + _ ≤ _ at spends
      omega
  | regenerate isAsking =>
      simp only [checkpointsLeft, isAsking] at spends
      exact Nat.le_zero.mp (Nat.le_trans (Nat.le_add_left _ _) spends)

/-- No question is answered before the one at the checkpoint. -/
theorem asked_eq_nil (steady : pursuit.IsSteady)
    {before : List PursuitEvent} {run : Run}
    (paused : (pursuit.after before).phase = .asking .proceed run) :
    pursuit.asked before = [] := by
  induction before generalizing pursuit with
  | nil => rfl
  | cons event later ih =>
      rw [asked_cons, ih (steady.next event) paused, List.append_nil]
      cases event with
      | fire | notice | reply => rfl
      | answer yes =>
          cases phase : pursuit.phase with
          | working | ended => simp [askedBy, phase, PursuitPhase.question?]
          | asking question asked =>
              exact absurd paused (not_proceed_after (steady.next _)
                (checkpointsLeft_answered steady phase yes) later run)

theorem IsStopped.after (stopped : pursuit.IsStopped)
    (steady : pursuit.IsSteady) (events : List PursuitEvent) :
    (pursuit.after events).IsStopped := by
  induction events generalizing pursuit with
  | nil => exact stopped
  | cons event later ih =>
      exact ih ((goes_step steady event).of_isStopped steady stopped).2
        (steady.next event)

/-- If the handle was fired before, it is pending at the checkpoint. -/
theorem fired_eq_nil (steady : pursuit.IsSteady)
    {before : List PursuitEvent} {run : Run}
    (paused : (pursuit.after before).phase = .asking .proceed run)
    (nothingPending :
      (pursuit.after before).pipeline.cancellation.pending? = none) :
    pursuit.fired before = [] := by
  induction before generalizing pursuit with
  | nil => rfl
  | cons event later ih =>
      rw [fired_cons, ih (steady.next event) paused nothingPending,
        List.append_nil]
      cases event with
      | answer | notice | reply => rfl
      | fire reason =>
          have nextSteady := steady.next (.fire reason)
          rw [after_cons] at paused nothingPending
          by_cases repeating : ∃ run, pursuit.phase = .asking .regenerate run
          · obtain ⟨invalid, isPhase⟩ := repeating
            have noneLeft :
                (pursuit.next (.fire reason)).checkpointsLeft = 0 := by
              simp only [next_fire, checkpointsLeft, isPhase]
            exact absurd paused
              (not_proceed_after nextSteady noneLeft later run)
          · have stopped :=
              isStopped_fire steady (not_exists.mp repeating) reason
            cases stopped.after nextSteady later with
            | ended isOver => cases paused.symm.trans isOver
            | pending _ isPending => simp [nothingPending] at isPending

/-- What is asked and fired with an answer, while its question is open. -/
theorem shown_answer {events : List PursuitEvent} {question : RunQuestion}
    {run : Run} (isPhase : (pursuit.after events).phase = .asking question run)
    (yes : Bool) :
    pursuit.asked (events ++ [.answer yes]) = pursuit.asked events ++
        (if pursuit.assumesYes then [] else [(question, yes)]) ∧
      pursuit.fired (events ++ [.answer yes]) = pursuit.fired events := by
  constructor
  · rw [asked, along_concat, askedBy, after_assumesYes, isPhase]
    rfl
  · rw [fired, along_concat]
    exact List.append_nil _

theorem shown_reply (pursuit : Pursuit σ) (events : List PursuitEvent)
    (outcome : Except ServiceError Json) (milliseconds : UInt64) :
    pursuit.asked (events ++ [.reply outcome milliseconds]) =
        pursuit.asked events ∧
      pursuit.fired (events ++ [.reply outcome milliseconds]) =
        pursuit.fired events := by
  constructor
  · rw [asked, along_concat]
    exact List.append_nil _
  · rw [fired, along_concat]
    exact List.append_nil _

/-- What is asked and fired when the handle is fired and notice is taken at
once. -/
theorem shown_cancel {events : List PursuitEvent}
    (notOver : (pursuit.after events).phase.isOver = false)
    (reason : String) :
    pursuit.asked (events ++ [.fire reason, .notice]) =
        pursuit.asked events ∧
      pursuit.fired (events ++ [.fire reason, .notice]) =
        pursuit.fired events ++ [reason] := by
  rw [List.append_cons]
  constructor
  · rw [asked, along_concat, along_concat]
    exact (List.append_nil _).trans (List.append_nil _)
  · rw [fired, along_concat, along_concat, firedBy, notOver]
    exact List.append_nil _

/-- Behind the end nobody is asked, and there is nothing to cancel. -/
theorem nothing_of_over {ending : PursuitEnd}
    (isOver : pursuit.phase = .ended ending) (later : List PursuitEvent) :
    pursuit.asked later = [] ∧ pursuit.fired later = [] := by
  induction later generalizing pursuit with
  | nil => exact ⟨rfl, rfl⟩
  | cons event rest ih =>
      have stays : (pursuit.next event).phase = .ended ending :=
        after_of_over isOver [event]
      obtain ⟨noQuestion, noFiring⟩ := ih stays
      rw [asked_cons, fired_cons, noQuestion, noFiring]
      cases event <;>
        simp [askedBy, firedBy, isOver, PursuitPhase.question?,
          PursuitPhase.isOver]

/-- A run is left at the checkpoint with the first answer that is given, and
only if the handle was not fired. -/
theorem declined_at_once (steady : pursuit.IsSteady)
    {events : List PursuitEvent} {run : Run} {remark : Option RunRemark}
    (notYet : pursuit.phase ≠ .ended (.left run remark))
    (isOver : (pursuit.after events).phase = .ended (.left run remark))
    (paused : run.status = .pausedAtCheckpoint) :
    pursuit.assumesYes = false ∧
      pursuit.asked events = [(.proceed, false)] ∧
      pursuit.fired events = [] := by
  obtain ⟨asks, before, later, rfl, asking, nothingPending, atLast⟩ :=
    exists_declined steady notYet isOver paused
  obtain ⟨noQuestion, noFiring⟩ := nothing_of_over atLast later
  refine ⟨asks, ?_, ?_⟩
  · have question : (pursuit.after before).askedBy (.answer false) =
        [(.proceed, false)] := by
      simp [askedBy, after_assumesYes, asks, asking, PursuitPhase.question?]
    rw [asked, along_append]
    change pursuit.asked before ++ (_ ++ asked _ later) = _
    rw [asked_eq_nil steady asking, noQuestion, question]
    rfl
  · rw [fired, along_append]
    change pursuit.fired before ++ ([] ++ fired _ later) = _
    rw [fired_eq_nil steady asking nothingPending, noFiring]
    rfl

end Pursuit

/-! ## From the start of a run -/

/-- What a run is started with that is then pursued. -/
structure PursuitStart (σ : Type) where
  pipeline : Pipeline σ
  assumesYes : Bool
  request : RunRequest
  registry : ModelRegistry

namespace PursuitStart

variable {σ : Type} [KeyValueStore σ] (start : PursuitStart σ)

/-- The turn in which the run is started. -/
def turn : Turn σ := start.pipeline.start start.request start.registry

/-- The pursuit of the run that is started. -/
def pursuit : Pursuit σ :=
  .begin start.pipeline start.assumesYes start.request start.registry

/-- All calls, from the start on. -/
def requests (events : List PursuitEvent) : List StageRequest :=
  start.turn.requests ++ start.pursuit.requests events

/-- All operations that are called and what they return, from the start on. -/
def notices (events : List PursuitEvent) : List OperationNotice :=
  .called .start :: start.turn.returns .start ++ start.pursuit.notices events

end PursuitStart

end AgentPipeline
