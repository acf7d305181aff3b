import AgentPipeline.Run.Lifecycle

/-!
# The shape of a run

The stages of a run always form a front: the stages before it have completed
and those behind it share one state.  What a run holds beside the states
follows from them, so that the moves of a run can be described by the front
alone.
-/

namespace AgentPipeline

namespace Run

/-- The first `done` stages have completed, the next one is in the state
`front`, and those behind it are in the state `behind`.  Outputs and durations
belong to the states. -/
structure Reaches (run : Run) (done : Nat) (front behind : StageState) :
    Prop where
  states : ∀ stage, run.states.get stage =
    if stage.index < done then .completed
    else if stage.index = done then front else behind
  outputs : ∀ stage, (run.outputs.get stage).isSome ↔
    run.states.get stage = .completed
  durations : ∀ stage, (run.durations.get stage).isSome ↔
    (run.states.get stage = .completed ∨ run.states.get stage = .error)

/-- A running run whose next stage, the one of the given position, may
begin. -/
structure IsReady (run : Run) (done : Nat) : Prop where
  reaches : run.Reaches done .idle .idle
  running : run.status = .running
  noError : run.error = none

/-- A running run in the middle of a stage. -/
structure IsUnderway (run : Run) (stage : Stage) : Prop where
  reaches : run.Reaches stage.index .processing .idle
  running : run.status = .running
  noError : run.error = none

/-- A run that is not being driven, by the way it came to rest. -/
inductive Rests (run : Run) : Prop where
  | paused (reaches : run.Reaches 2 .idle .idle)
      (status : run.status = .pausedAtCheckpoint)
      (noError : run.error = none)
  | completed (reaches : run.Reaches 4 .idle .idle)
      (status : run.status = .completed) (noError : run.error = none)
  | failed (stage : Stage) (reaches : run.Reaches stage.index .error .idle)
      (status : run.status = .failed) (error : run.error.isSome)
  | cancelled (done : Nat) (isStage : done < 4)
      (reaches : run.Reaches done .cancelled .cancelled)
      (status : run.status = .cancelled) (error : run.error.isSome)

/-! ## The states in their order -/

namespace Reaches

variable {run : Run} {done : Nat} {front behind : StageState}

theorem toList_eq (reaches : run.Reaches done front behind) :
    run.states.toList = Stage.all.map fun stage =>
      if stage.index < done then .completed
      else if stage.index = done then front else behind := by
  have parse := reaches.states .parse
  have reason := reaches.states .reason
  have generate := reaches.states .generate
  have validate := reaches.states .validate
  simp only [PerStage.get] at parse reason generate validate
  simp only [PerStage.toList, Stage.all, List.map_cons, List.map_nil,
    parse, reason, generate, validate]

theorem toList_split (reaches : run.Reaches done front behind)
    (isStage : done < 4) :
    run.states.toList = List.replicate done .completed
      ++ front :: List.replicate (3 - done) behind := by
  rw [reaches.toList_eq]
  obtain rfl | rfl | rfl | rfl :
      done = 0 ∨ done = 1 ∨ done = 2 ∨ done = 3 := by omega
  all_goals rfl

theorem completed_of_before (reaches : run.Reaches done front behind)
    {stage : Stage} (before : stage.index < done) :
    run.states.get stage = .completed := by
  rw [reaches.states stage, if_pos before]

/-- Where nothing has failed, a stage that is not before the front is
open. -/
theorem open_of_not_before (reaches : run.Reaches done front .idle)
    (isOpen : front = .idle ∨ front = .processing)
    {stage : Stage} (notBefore : ¬stage.index < done) :
    run.states.get stage = .idle ∨ run.states.get stage = .processing := by
  rw [reaches.states stage, if_neg notBefore]
  by_cases same : stage.index = done
  · rw [if_pos same]
    exact isOpen
  · rw [if_neg same]
    exact .inl rfl

end Reaches

/-! ## Moves -/

def begun (run : Run) (stage : Stage) : Run :=
  { run with states := run.states.set stage .processing }

/-- The run after a stage has ended with an output. -/
def finished (run : Run) (stage : Stage) (output : Json)
    (milliseconds : UInt64) : Run :=
  { run with
    states := run.states.set stage .completed
    outputs := run.outputs.set stage (some output)
    durations := run.durations.set stage (some milliseconds) }

/-- The run after a stage has ended with an error. -/
def broken (run : Run) (stage : Stage) (milliseconds : UInt64) : Run :=
  { run with
    states := run.states.set stage .error
    durations := run.durations.set stage (some milliseconds) }

/-- Setting the front stage to another state leaves the stages around it. -/
private theorem states_set_front
    {run : Run} {stage : Stage} {front behind : StageState}
    (reaches : run.Reaches stage.index front behind) (target : StageState)
    (other : Stage) :
    (run.states.set stage target).get other =
      if other.index < stage.index then .completed
      else if other.index = stage.index then target else behind := by
  by_cases same : other = stage
  · subst other
    simp
  · have apart : other.index ≠ stage.index := by
      intro equal
      cases other <;> cases stage <;> simp_all [Stage.index]
    rw [PerStage.get_set_of_ne run.states same, reaches.states other]
    simp [apart]

theorem new_isReady (id : Uuid) (inputText : String) (temperature : Double)
    (mode : ProgressionMode) (models : PerStage (Option (Option String))) :
    (new id inputText temperature mode models).IsReady 0 := by
  refine ⟨⟨?_, ?_, ?_⟩, rfl, rfl⟩ <;> intro stage <;> cases stage <;>
    simp [new, PerStage.all, PerStage.get]

theorem beginStage_eq
    {run : Run} {stage : Stage} (ready : run.IsReady stage.index) :
    run.beginStage stage =
      .ok (run.begun stage, [.stageStarted run.id stage]) := by
  have idle : run.states.get stage = .idle := by
    simpa using ready.reaches.states stage
  simp [beginStage, move, idle, StageState.canMoveTo, begun, bind,
    Except.bind]

theorem begun_isUnderway
    {run : Run} {stage : Stage} (ready : run.IsReady stage.index) :
    (run.begun stage).IsUnderway stage := by
  have idle : run.states.get stage = .idle := by
    simpa using ready.reaches.states stage
  refine ⟨⟨states_set_front ready.reaches .processing, ?_, ?_⟩,
    ready.running, ready.noError⟩
  · intro other
    rw [show (run.begun stage).outputs = run.outputs from rfl,
      ready.reaches.outputs other]
    by_cases same : other = stage
    · subst other
      simp [begun, idle]
    · simp [begun, same]
  · intro other
    rw [show (run.begun stage).durations = run.durations from rfl,
      ready.reaches.durations other]
    by_cases same : other = stage
    · subst other
      simp [begun, idle]
    · simp [begun, same]

theorem completeStage_eq
    {run : Run} {stage : Stage} (underway : run.IsUnderway stage)
    (output : Json) (milliseconds : UInt64) :
    run.completeStage stage output milliseconds =
      .ok (run.finished stage output milliseconds,
        [.stageCompleted run.id stage milliseconds]) := by
  have processing : run.states.get stage = .processing := by
    simpa using underway.reaches.states stage
  simp [completeStage, move, processing, StageState.canMoveTo, finished,
    bind, Except.bind]

theorem finished_reaches
    {run : Run} {stage : Stage} (underway : run.IsUnderway stage)
    (output : Json) (milliseconds : UInt64) :
    (run.finished stage output milliseconds).Reaches (stage.index + 1)
      .idle .idle := by
  refine ⟨?_, ?_, ?_⟩
  · intro other
    rw [show (run.finished stage output milliseconds).states =
        run.states.set stage .completed from rfl,
      states_set_front underway.reaches .completed other]
    rcases Nat.lt_trichotomy other.index stage.index with
      before | same | after
    · simp [before, Nat.lt_succ_of_lt before]
    · simp [same]
    · have notBefore : ¬other.index < stage.index := by omega
      have notUpTo : ¬other.index < stage.index + 1 := by omega
      have apart : other.index ≠ stage.index := by omega
      simp [notBefore, notUpTo, apart]
  · intro other
    by_cases same : other = stage
    · subst other
      simp [finished]
    · simp [finished, same, underway.reaches.outputs other]
  · intro other
    by_cases same : other = stage
    · subst other
      simp [finished]
    · simp [finished, same, underway.reaches.durations other]

/-- A run whose stage has ended is ready for the next stage. -/
theorem finished_isReady
    {run : Run} {stage : Stage} (underway : run.IsUnderway stage)
    (output : Json) (milliseconds : UInt64) :
    (run.finished stage output milliseconds).IsReady (stage.index + 1) :=
  ⟨finished_reaches underway output milliseconds, underway.running,
    underway.noError⟩

theorem failStage_eq
    {run : Run} {stage : Stage} (underway : run.IsUnderway stage)
    (error : String) (milliseconds : UInt64) :
    run.failStage stage error milliseconds =
      .ok (run.broken stage milliseconds,
        [.stageFailed run.id stage error]) := by
  have processing : run.states.get stage = .processing := by
    simpa using underway.reaches.states stage
  simp [failStage, move, processing, StageState.canMoveTo, broken, bind,
    Except.bind]

theorem broken_reaches
    {run : Run} {stage : Stage} (underway : run.IsUnderway stage)
    (milliseconds : UInt64) :
    (run.broken stage milliseconds).Reaches stage.index .error .idle := by
  have processing : run.states.get stage = .processing := by
    simpa using underway.reaches.states stage
  refine ⟨states_set_front underway.reaches .error, ?_, ?_⟩
  · intro other
    rw [show (run.broken stage milliseconds).outputs = run.outputs from rfl,
      underway.reaches.outputs other]
    by_cases same : other = stage
    · subst other
      simp [broken, processing]
    · simp [broken, same]
  · intro other
    by_cases same : other = stage
    · subst other
      simp [broken]
    · simp [broken, same, underway.reaches.durations other]

section Cancel

variable (run : Run) (reason : String)

@[simp]
theorem cancel_id : (run.cancel reason).1.id = run.id := rfl

@[simp]
theorem cancel_status : (run.cancel reason).1.status = .cancelled := rfl

@[simp]
theorem cancel_error : (run.cancel reason).1.error = some reason := rfl

@[simp]
theorem cancel_outputs : (run.cancel reason).1.outputs = run.outputs := rfl

@[simp]
theorem cancel_durations :
    (run.cancel reason).1.durations = run.durations := rfl

end Cancel

/-- Cancelling a run cancels its front stage, begun or not, and all stages
behind it. -/
theorem cancel_reaches
    {run : Run} {done : Nat} {front : StageState}
    (reaches : run.Reaches done front .idle)
    (isOpen : front = .idle ∨ front = .processing) (reason : String) :
    (run.cancel reason).1.Reaches done .cancelled .cancelled := by
  have states : ∀ stage, (run.cancel reason).1.states.get stage =
      if run.isOpen stage then .cancelled else run.states.get stage := by
    intro stage
    simp [cancel, cancelOpenStages]
  have same : ∀ stage, stage.index < done →
      (run.cancel reason).1.states.get stage = .completed := by
    intro stage before
    have completed := reaches.completed_of_before before
    simp [states, Run.isOpen, completed, StageState.canMoveTo]
  have stopped : ∀ stage, ¬stage.index < done →
      (run.cancel reason).1.states.get stage = .cancelled := by
    intro stage notBefore
    rcases reaches.open_of_not_before isOpen notBefore with idle | processing
    · simp [states, Run.isOpen, idle, StageState.canMoveTo]
    · simp [states, Run.isOpen, processing, StageState.canMoveTo]
  refine ⟨?_, ?_, ?_⟩ <;> intro stage
  all_goals by_cases before : stage.index < done
  · simp [same stage before, before]
  · simp [stopped stage before, before]
  · simpa [same stage before, reaches.completed_of_before before]
      using reaches.outputs stage
  · have output := reaches.outputs stage
    rcases reaches.open_of_not_before isOpen before with idle | processing
    · simpa [stopped stage before, idle] using output
    · simpa [stopped stage before, processing] using output
  · simpa [same stage before, reaches.completed_of_before before]
      using reaches.durations stage
  · have duration := reaches.durations stage
    rcases reaches.open_of_not_before isOpen before with idle | processing
    · simpa [stopped stage before, idle] using duration
    · simpa [stopped stage before, processing] using duration

/-- A further attempt is ready for the generate stage. -/
theorem startAttempt_isReady
    {run : Run} {front behind : StageState}
    (reaches : run.Reaches 4 front behind) :
    run.startAttempt.1.IsReady 2 := by
  refine ⟨⟨?_, ?_, ?_⟩, rfl, rfl⟩ <;> intro stage
  all_goals
    have state := reaches.states stage
    have output := reaches.outputs stage
    have duration := reaches.durations stage
    cases stage <;>
      simp_all [startAttempt, start, reopened, PerStage.get, Stage.index]

/-! ## Coming to rest -/

theorem pauseAtCheckpoint_rests
    {run : Run} (ready : run.IsReady 2) : run.pauseAtCheckpoint.1.Rests :=
  .paused ⟨ready.reaches.states, ready.reaches.outputs,
    ready.reaches.durations⟩ rfl ready.noError

theorem complete_rests
    {run : Run} (ready : run.IsReady 4) : run.complete.1.Rests :=
  .completed ⟨ready.reaches.states, ready.reaches.outputs,
    ready.reaches.durations⟩ rfl ready.noError

theorem fail_rests
    {run : Run} {stage : Stage}
    (reaches : run.Reaches stage.index .error .idle) (error : String) :
    (run.fail error).1.Rests :=
  .failed stage ⟨reaches.states, reaches.outputs, reaches.durations⟩ rfl rfl

theorem cancel_rests
    {run : Run} {done : Nat} {front : StageState}
    (reaches : run.Reaches done front .idle) (isStage : done < 4)
    (isOpen : front = .idle ∨ front = .processing) (reason : String) :
    (run.cancel reason).1.Rests :=
  .cancelled done isStage (cancel_reaches reaches isOpen reason) rfl rfl

theorem IsUnderway.isLive
    {run : Run} {stage : Stage} (underway : run.IsUnderway stage) :
    run.isLive = true := by
  simp [Run.isLive, underway.running, RunStatus.isTerminal]

/-- A live run at rest is paused behind the reason stage. -/
theorem Rests.paused_of_isLive
    {run : Run} (rests : run.Rests) (isLive : run.isLive = true) :
    run.Reaches 2 .idle .idle ∧ run.status = .pausedAtCheckpoint ∧
      run.error = none := by
  cases rests with
  | paused reaches status noError => exact ⟨reaches, status, noError⟩
  | completed _ status _ =>
      simp [Run.isLive, status, RunStatus.isTerminal] at isLive
  | failed _ _ status _ =>
      simp [Run.isLive, status, RunStatus.isTerminal] at isLive
  | cancelled _ _ _ status _ =>
      simp [Run.isLive, status, RunStatus.isTerminal] at isLive

/-- Only a completed run has completed its validation. -/
theorem Rests.completed_of_validated
    {run : Run} (rests : run.Rests)
    (validated : run.states.get .validate = .completed) :
    run.Reaches 4 .idle .idle ∧ run.status = .completed := by
  cases rests with
  | paused reaches _ _ =>
      have state := reaches.states .validate
      simp [validated, Stage.index] at state
  | completed reaches status _ => exact ⟨reaches, status⟩
  | failed stage reaches _ _ =>
      have state := reaches.states .validate
      cases stage <;> simp [validated, Stage.index] at state
  | cancelled done isStage reaches _ _ =>
      have state := reaches.states .validate
      have notBefore : ¬Stage.validate.index < done := by
        simp only [Stage.index]
        omega
      simp [validated, notBefore] at state

end Run

end AgentPipeline
