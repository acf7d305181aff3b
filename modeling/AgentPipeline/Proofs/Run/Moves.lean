import AgentPipeline.Proofs.Run.Shape
import Mathlib.Logic.Relation

/-!
# The moves of the stages

The operations on a run, in any order and on any run, however its states,
outputs, durations and status fit together.  A stage only moves forward and
stays as it is once it has ended, unless a further attempt returns it to where
it began; an operation that asks for another move is refused and changes
nothing.
Main statement: `movesForward_after`.
-/

namespace AgentPipeline

namespace StageState

/-- The moves of a stage within an attempt. -/
inductive Moves : StageState → StageState → Prop where
  | begin : Moves .idle .processing
  | complete : Moves .processing .completed
  | fail : Moves .processing .error
  | interrupt : Moves .processing .cancelled
  | skip : Moves .idle .cancelled

theorem canMoveTo_iff {source target : StageState} :
    source.canMoveTo target = true ↔ source.Moves target := by
  constructor
  · intro allowed
    cases source <;> cases target <;> first | constructor | cases allowed
  · rintro (_ | _ | _ | _ | _) <;> rfl

theorem not_moves_of_isSettled {source : StageState}
    (settled : source.isSettled) (target : StageState) :
    ¬source.Moves target := by
  rintro (_ | _ | _ | _ | _) <;> cases settled

instance : DecidableRel Moves := fun _ _ =>
  decidable_of_iff _ canMoveTo_iff

theorem moves_processing_iff {source : StageState} :
    source.Moves .processing ↔ source = .idle := by
  constructor
  · rintro (_ | _)
    rfl
  · rintro rfl
    exact .begin

theorem moves_completed_iff {source : StageState} :
    source.Moves .completed ↔ source = .processing := by
  constructor
  · rintro (_ | _)
    rfl
  · rintro rfl
    exact .complete

theorem moves_error_iff {source : StageState} :
    source.Moves .error ↔ source = .processing := by
  constructor
  · rintro (_ | _)
    rfl
  · rintro rfl
    exact .fail

/-- A stage that can be cancelled has not begun, or has not ended. -/
theorem moves_cancelled_iff {source : StageState} :
    source.Moves .cancelled ↔ source = .idle ∨ source = .processing := by
  constructor
  · rintro (_ | _ | _ | _ | _)
    · exact .inr rfl
    · exact .inl rfl
  · rintro (rfl | rfl)
    · exact .skip
    · exact .interrupt

end StageState

/-- The operations on a run. -/
inductive LifecycleCall where
  | beginStage (stage : Stage)
  | completeStage (stage : Stage) (output : Json) (milliseconds : UInt64)
  | failStage (stage : Stage) (error : String) (milliseconds : UInt64)
  | cancelOpenStages
  | pauseAtCheckpoint
  | complete
  | fail (error : String)
  | cancel (reason : String)
  | startAttempt

/-- A run with the events that have been sent about it. -/
structure ReportedRun where
  run : Run
  events : List Event

namespace LifecycleCall

/-- What an operation makes of a run, the events that it sends and the stages
that it returns. -/
def outcome (run : Run) :
    LifecycleCall → Except PipelineError (Run × List Event × List Stage)
  | .beginStage stage =>
      (run.beginStage stage).map fun (run, events) => (run, events, [])
  | .completeStage stage output milliseconds =>
      (run.completeStage stage output milliseconds).map
        fun (run, events) => (run, events, [])
  | .failStage stage error milliseconds =>
      (run.failStage stage error milliseconds).map
        fun (run, events) => (run, events, [])
  | .cancelOpenStages => .ok run.cancelOpenStages
  | .pauseAtCheckpoint =>
      .ok (run.pauseAtCheckpoint.1, run.pauseAtCheckpoint.2, [])
  | .complete => .ok (run.complete.1, run.complete.2, [])
  | .fail error => .ok ((run.fail error).1, (run.fail error).2, [])
  | .cancel reason => .ok ((run.cancel reason).1, (run.cancel reason).2, [])
  | .startAttempt => .ok (run.startAttempt.1, run.startAttempt.2, [])

/-- Carries out an operation and returns the stages that it cancelled. -/
def perform (call : LifecycleCall) (reported : ReportedRun) :
    ReportedRun × Except PipelineError (List Stage) :=
  match call.outcome reported.run with
  | .ok (run, events, stages) =>
      (⟨run, reported.events ++ events⟩, .ok stages)
  | .error error => (reported, .error error)

/-- The move that an operation asks for. -/
def asksFor? : LifecycleCall → Option (Stage × StageState)
  | .beginStage stage => some (stage, .processing)
  | .completeStage stage _ _ => some (stage, .completed)
  | .failStage stage _ _ => some (stage, .error)
  | _ => none

/-- An operation that cancels the open stages. -/
def cancels : LifecycleCall → Bool
  | .cancelOpenStages | .cancel _ => true
  | _ => false

/-- An operation that returns a stage to where it began. -/
def reopens (call : LifecycleCall) (stage : Stage) : Prop :=
  call = .startAttempt ∧ (stage = .generate ∨ stage = .validate)

end LifecycleCall

namespace ReportedRun

/-- The run after operations in order, with all events. -/
def after (reported : ReportedRun) (calls : List LifecycleCall) :
    ReportedRun :=
  calls.foldl (fun reported call => (call.perform reported).1) reported

def state (reported : ReportedRun) (stage : Stage) : StageState :=
  reported.run.states.get stage

end ReportedRun

/-! ## One stage in one operation -/

namespace Run

/-- What a run holds of a stage: its state, its output and its duration. -/
def trace (run : Run) (stage : Stage) :
    StageState × Option Json × Option UInt64 :=
  (run.states.get stage, run.outputs.get stage, run.durations.get stage)

/-- What an operation does to a stage of a run: nothing, or one of the
moves. -/
inductive StageTurn (call : LifecycleCall) (stage : Stage)
    (before after : Run) : Prop where
  | stays (same : after.trace stage = before.trace stage)
  | begins (called : call = .beginStage stage)
      (idle : before.states.get stage = .idle)
      (trace : after.trace stage =
        (.processing, before.outputs.get stage, before.durations.get stage))
  | completes (output : Json) (milliseconds : UInt64)
      (called : call = .completeStage stage output milliseconds)
      (processing : before.states.get stage = .processing)
      (trace : after.trace stage =
        (.completed, some output, some milliseconds))
  | fails (error : String) (milliseconds : UInt64)
      (called : call = .failStage stage error milliseconds)
      (processing : before.states.get stage = .processing)
      (trace : after.trace stage =
        (.error, before.outputs.get stage, some milliseconds))
  | cancelled (called : call.cancels)
      (isOpen : (before.states.get stage).Moves .cancelled)
      (trace : after.trace stage =
        (.cancelled, before.outputs.get stage, before.durations.get stage))
  | reopened (called : call.reopens stage)
      (trace : after.trace stage = (.idle, none, none))

variable {run after : Run} {stage : Stage}

theorem move_eq (run : Run) (stage : Stage) (target : StageState) :
    run.move stage target =
      if (run.states.get stage).Moves target then
        .ok { run with states := run.states.set stage target }
      else .error (.invalidTransition stage (run.states.get stage) target) := by
  simp only [move, StageState.canMoveTo_iff]

theorem isOpen_iff :
    run.isOpen stage = true ↔ (run.states.get stage).Moves .cancelled :=
  StageState.canMoveTo_iff

/-- No stage is open once the open ones have been cancelled. -/
theorem not_isOpen_cancelOpenStages (run : Run) (stage : Stage) :
    run.cancelOpenStages.1.isOpen stage = false := by
  have state : run.cancelOpenStages.1.states.get stage =
      if run.isOpen stage then .cancelled else run.states.get stage :=
    PerStage.get_ofFunction _ stage
  rw [isOpen, state]
  split
  next => rfl
  next notOpen => exact Bool.eq_false_iff.mpr notOpen

/-- Where no stage is open nothing is cancelled. -/
theorem cancelOpenStages_eq_self (none : ∀ stage, run.isOpen stage = false) :
    run.cancelOpenStages = (run, [], []) := by
  have noneBegun (stage : Stage) : run.states.get stage ≠ .processing := by
    intro processing
    have isOpen : run.isOpen stage := by
      rw [isOpen_iff, processing]
      exact .interrupt
    rw [none stage] at isOpen
    cases isOpen
  have states : PerStage.ofFunction (fun stage => run.states.get stage) =
      run.states := PerStage.ext_get fun stage =>
    PerStage.get_ofFunction _ stage
  simp [cancelOpenStages, none, noneBegun, states]

theorem beginStage_eq_ite (run : Run) (stage : Stage) :
    run.beginStage stage =
      if (run.states.get stage).Moves .processing then
        .ok (run.begun stage, [.stageStarted run.id stage])
      else .error
        (.invalidTransition stage (run.states.get stage) .processing) := by
  rw [beginStage, move_eq]
  split <;> rfl

theorem completeStage_eq_ite (run : Run) (stage : Stage) (output : Json)
    (milliseconds : UInt64) :
    run.completeStage stage output milliseconds =
      if (run.states.get stage).Moves .completed then
        .ok (run.finished stage output milliseconds,
          [.stageCompleted run.id stage milliseconds])
      else .error
        (.invalidTransition stage (run.states.get stage) .completed) := by
  rw [completeStage, move_eq]
  split <;> rfl

theorem failStage_eq_ite (run : Run) (stage : Stage) (error : String)
    (milliseconds : UInt64) :
    run.failStage stage error milliseconds =
      if (run.states.get stage).Moves .error then
        .ok (run.broken stage milliseconds,
          [.stageFailed run.id stage error])
      else .error
        (.invalidTransition stage (run.states.get stage) .error) := by
  rw [failStage, move_eq]
  split <;> rfl

section Turns

variable {call : LifecycleCall} {moved : Stage}

theorem stageTurn_begun
    (called : call = .beginStage moved)
    (allowed : (run.states.get moved).Moves .processing) :
    StageTurn call stage run (run.begun moved) := by
  by_cases same : stage = moved
  · subst same
    exact .begins called (StageState.moves_processing_iff.mp allowed)
      (by simp [trace, begun])
  · exact .stays (by simp [trace, begun, same])

theorem stageTurn_finished {output : Json} {milliseconds : UInt64}
    (called : call = .completeStage moved output milliseconds)
    (allowed : (run.states.get moved).Moves .completed) :
    StageTurn call stage run (run.finished moved output milliseconds) := by
  by_cases same : stage = moved
  · subst same
    exact .completes output milliseconds called
      (StageState.moves_completed_iff.mp allowed) (by simp [trace, finished])
  · exact .stays (by simp [trace, finished, same])

theorem stageTurn_broken {error : String} {milliseconds : UInt64}
    (called : call = .failStage moved error milliseconds)
    (allowed : (run.states.get moved).Moves .error) :
    StageTurn call stage run (run.broken moved milliseconds) := by
  by_cases same : stage = moved
  · subst same
    exact .fails error milliseconds called
      (StageState.moves_error_iff.mp allowed) (by simp [trace, broken])
  · exact .stays (by simp [trace, broken, same])

/-- The open stages are cancelled, and the others stay. -/
theorem stageTurn_cancelOpenStages (cancels : call.cancels)
    (status : RunStatus) (error : Option String) :
    StageTurn call stage run
      { run.cancelOpenStages.1 with status, error } := by
  by_cases isOpen : run.isOpen stage
  · exact .cancelled cancels (isOpen_iff.mp isOpen)
      (by simp [trace, cancelOpenStages, isOpen])
  · exact .stays (by simp [trace, cancelOpenStages, isOpen])

theorem stageTurn_startAttempt :
    StageTurn .startAttempt stage run run.startAttempt.1 := by
  cases stage with
  | parse | reason => exact .stays rfl
  | generate => exact .reopened ⟨rfl, .inl rfl⟩ rfl
  | validate => exact .reopened ⟨rfl, .inr rfl⟩ rfl

end Turns

end Run

namespace LifecycleCall

variable {run after : Run} {call : LifecycleCall} {events : List Event}
  {stages : List Stage}

/-- What an operation that is not refused does to a stage. -/
theorem stageTurn_of_outcome
    (performed : call.outcome run = .ok (after, events, stages))
    (stage : Stage) : Run.StageTurn call stage run after := by
  cases call with
  | beginStage moved =>
      rw [outcome, Run.beginStage_eq_ite] at performed
      split at performed
      next allowed =>
        cases performed
        exact Run.stageTurn_begun rfl allowed
      next => cases performed
  | completeStage moved output milliseconds =>
      rw [outcome, Run.completeStage_eq_ite] at performed
      split at performed
      next allowed =>
        cases performed
        exact Run.stageTurn_finished rfl allowed
      next => cases performed
  | failStage moved error milliseconds =>
      rw [outcome, Run.failStage_eq_ite] at performed
      split at performed
      next allowed =>
        cases performed
        exact Run.stageTurn_broken rfl allowed
      next => cases performed
  | cancelOpenStages =>
      cases performed
      exact Run.stageTurn_cancelOpenStages rfl run.status run.error
  | cancel reason =>
      cases performed
      exact Run.stageTurn_cancelOpenStages rfl .cancelled (some reason)
  | pauseAtCheckpoint | complete | fail =>
      cases performed
      exact .stays rfl
  | startAttempt =>
      cases performed
      exact Run.stageTurn_startAttempt

/-- An operation that asks for a move makes it where there is one, and is
refused where there is none. -/
theorem outcome_of_asksFor (run : Run) {stage : Stage} {target : StageState}
    (asks : call.asksFor? = some (stage, target)) :
    ∃ moved events, moved.states.get stage = target ∧
      call.outcome run =
        if (run.states.get stage).Moves target then .ok (moved, events, [])
        else .error
          (.invalidTransition stage (run.states.get stage) target) := by
  cases call with
  | beginStage moved =>
      cases asks
      refine ⟨run.begun stage, [.stageStarted run.id stage],
        by simp [Run.begun], ?_⟩
      rw [outcome, Run.beginStage_eq_ite]
      split <;> rfl
  | completeStage moved output milliseconds =>
      cases asks
      refine ⟨run.finished stage output milliseconds,
        [.stageCompleted run.id stage milliseconds],
        by simp [Run.finished], ?_⟩
      rw [outcome, Run.completeStage_eq_ite]
      split <;> rfl
  | failStage moved error milliseconds =>
      cases asks
      refine ⟨run.broken stage milliseconds,
        [.stageFailed run.id stage error], by simp [Run.broken], ?_⟩
      rw [outcome, Run.failStage_eq_ite]
      split <;> rfl
  | cancelOpenStages | pauseAtCheckpoint | complete | fail | cancel
  | startAttempt => cases asks

/-- Only what asks for a move is ever refused. -/
theorem asksFor_of_error {error : PipelineError}
    (refused : call.outcome run = .error error) :
    ∃ stage target, call.asksFor? = some (stage, target) := by
  cases call with
  | beginStage | completeStage | failStage => exact ⟨_, _, rfl⟩
  | cancelOpenStages | pauseAtCheckpoint | complete | fail | cancel
  | startAttempt => cases refused

end LifecycleCall

/-! ## Operations in a row -/

namespace ReportedRun

/-- How an operation acts on a run about which events have been sent. -/
structure MovesBy (reported : ReportedRun) (call : LifecycleCall) : Prop where
  /-- A stage stays as it is or makes one move; what is held of it goes with
  the move. -/
  turns : ∀ stage,
    Run.StageTurn call stage reported.run (call.perform reported).1.run
  forward : ∀ stage, ¬call.reopens stage →
    (call.perform reported).1.state stage = reported.state stage ∨
      (reported.state stage).Moves ((call.perform reported).1.state stage)
  settled : ∀ stage, (reported.state stage).isSettled → ¬call.reopens stage →
    (call.perform reported).1.run.trace stage = reported.run.trace stage
  reopened : ∀ stage, call.reopens stage →
    (call.perform reported).1.run.trace stage = (.idle, none, none)
  /-- An operation that asks for a move makes it where there is one. -/
  moved : ∀ stage target, call.asksFor? = some (stage, target) →
    (reported.state stage).Moves target →
      (call.perform reported).2 = .ok [] ∧
        (call.perform reported).1.state stage = target
  /-- Where there is none it is refused, and so is no other operation. -/
  refused : ∀ error, (call.perform reported).2 = .error error ↔
    ∃ stage target, call.asksFor? = some (stage, target) ∧
      ¬(reported.state stage).Moves target ∧
      error = .invalidTransition stage (reported.state stage) target
  untouched : ∀ error, (call.perform reported).2 = .error error →
    (call.perform reported).1 = reported

/-- How the open stages of a run are cancelled. -/
structure CancelsOpen (reported : ReportedRun) : Prop where
  returned : (LifecycleCall.cancelOpenStages.perform reported).2 =
    .ok (Stage.all.filter fun stage =>
      reported.state stage = .idle ∨ reported.state stage = .processing)
  events : (LifecycleCall.cancelOpenStages.perform reported).1.events =
    reported.events ++
      (Stage.all.filter fun stage =>
        reported.state stage = .processing).map
          (.stageCancelled reported.run.id)
  again : LifecycleCall.cancelOpenStages.perform
      (LifecycleCall.cancelOpenStages.perform reported).1 =
    ((LifecycleCall.cancelOpenStages.perform reported).1, .ok [])

end ReportedRun

namespace Run.StageTurn

variable {call : LifecycleCall} {stage : Stage} {before after : Run}

theorem forward (turn : StageTurn call stage before after)
    (notReopened : ¬call.reopens stage) :
    after.states.get stage = before.states.get stage ∨
      (before.states.get stage).Moves (after.states.get stage) := by
  have state {held} (trace : after.trace stage = held) :
      after.states.get stage = held.1 := congrArg Prod.fst trace
  cases turn with
  | stays same => exact .inl (state same)
  | begins _ idle trace =>
      rw [state trace, idle]
      exact .inr .begin
  | completes _ _ _ processing trace =>
      rw [state trace, processing]
      exact .inr .complete
  | fails _ _ _ processing trace =>
      rw [state trace, processing]
      exact .inr .fail
  | cancelled _ isOpen trace =>
      rw [state trace]
      exact .inr isOpen
  | reopened reopens => exact absurd reopens notReopened

/-- A stage that has ended stays as it is. -/
theorem settled (turn : StageTurn call stage before after)
    (isSettled : (before.states.get stage).isSettled)
    (notReopened : ¬call.reopens stage) :
    after.trace stage = before.trace stage := by
  cases turn with
  | stays same => exact same
  | begins _ idle =>
      rw [idle] at isSettled
      cases isSettled
  | completes _ _ _ processing | fails _ _ _ processing =>
      rw [processing] at isSettled
      cases isSettled
  | cancelled _ isOpen =>
      exact absurd isOpen (StageState.not_moves_of_isSettled isSettled _)
  | reopened reopens => exact absurd reopens notReopened

end Run.StageTurn

namespace LifecycleCall

theorem stageTurn_perform (call : LifecycleCall) (reported : ReportedRun)
    (stage : Stage) :
    Run.StageTurn call stage reported.run (call.perform reported).1.run := by
  unfold perform
  split
  next performed => exact stageTurn_of_outcome performed stage
  next => exact .stays rfl

variable {call : LifecycleCall} {reported : ReportedRun} {stage : Stage}
  {target : StageState}

theorem perform_of_moves (asks : call.asksFor? = some (stage, target))
    (moves : (reported.run.states.get stage).Moves target) :
    (call.perform reported).2 = .ok [] ∧
      (call.perform reported).1.state stage = target := by
  obtain ⟨moved, events, isMoved, isOutcome⟩ :=
    outcome_of_asksFor reported.run asks
  rw [if_pos moves] at isOutcome
  rw [perform, isOutcome]
  exact ⟨rfl, isMoved⟩

theorem perform_of_not_moves (asks : call.asksFor? = some (stage, target))
    (refused : ¬(reported.run.states.get stage).Moves target) :
    call.perform reported = (reported, .error
      (.invalidTransition stage (reported.run.states.get stage) target)) := by
  obtain ⟨_, _, _, isOutcome⟩ := outcome_of_asksFor reported.run asks
  rw [if_neg refused] at isOutcome
  rw [perform, isOutcome]

theorem refused_of_perform {error : PipelineError}
    (failed : (call.perform reported).2 = .error error) :
    ∃ stage target, call.asksFor? = some (stage, target) ∧
      ¬(reported.state stage).Moves target ∧
      error = .invalidTransition stage (reported.state stage) target := by
  obtain ⟨stage, target, asks⟩ : ∃ stage target,
      call.asksFor? = some (stage, target) := by
    unfold perform at failed
    split at failed
    next => cases failed
    next refused => exact asksFor_of_error refused
  by_cases moves : (reported.state stage).Moves target
  · rw [(perform_of_moves asks moves).1] at failed
    cases failed
  · rw [perform_of_not_moves asks moves] at failed
    cases failed
    exact ⟨stage, target, asks, moves, rfl⟩

end LifecycleCall

namespace ReportedRun

theorem movesBy (reported : ReportedRun) (call : LifecycleCall) :
    reported.MovesBy call where
  turns := call.stageTurn_perform reported
  forward stage := (call.stageTurn_perform reported stage).forward
  settled stage := (call.stageTurn_perform reported stage).settled
  reopened := by
    rintro _ ⟨rfl, rfl | rfl⟩ <;> rfl
  moved _ _ := LifecycleCall.perform_of_moves
  refused error := by
    refine ⟨LifecycleCall.refused_of_perform, ?_⟩
    rintro ⟨stage, target, asks, refused, rfl⟩
    rw [LifecycleCall.perform_of_not_moves asks refused]
    rfl
  untouched error failed := by
    obtain ⟨stage, target, asks, refused, rfl⟩ :=
      LifecycleCall.refused_of_perform failed
    rw [LifecycleCall.perform_of_not_moves asks refused]

theorem cancelsOpen (reported : ReportedRun) : reported.CancelsOpen where
  returned := by
    have isOpen (stage : Stage) : reported.run.isOpen stage =
        decide (reported.state stage = .idle ∨
          reported.state stage = .processing) := by
      rw [Bool.eq_iff_iff, Run.isOpen_iff, StageState.moves_cancelled_iff,
        decide_eq_true_iff]
      rfl
    exact congrArg Except.ok (List.filter_congr fun stage _ => isOpen stage)
  events := rfl
  again := by
    have closed := Run.cancelOpenStages_eq_self
      reported.run.not_isOpen_cancelOpenStages
    simp [LifecycleCall.perform, LifecycleCall.outcome, closed]

/-- A stage moves forward, and stays as it is once it has ended, as long as
no operation returns it to where it began. -/
theorem forward_after (calls : List LifecycleCall) {stage : Stage}
    (reported : ReportedRun)
    (notReopened : ∀ call ∈ calls, ¬call.reopens stage) :
    Relation.ReflTransGen StageState.Moves (reported.state stage)
      ((reported.after calls).state stage) := by
  induction calls generalizing reported with
  | nil => exact .refl
  | cons call rest ih =>
      rw [List.forall_mem_cons] at notReopened
      have goesOn := ih (call.perform reported).1 notReopened.2
      obtain same | moves :=
        (reported.movesBy call).forward stage notReopened.1
      · rw [← same]
        exact goesOn
      · exact goesOn.head moves

theorem settled_after (calls : List LifecycleCall) {stage : Stage}
    (reported : ReportedRun) (isSettled : (reported.state stage).isSettled)
    (notReopened : ∀ call ∈ calls, ¬call.reopens stage) :
    (reported.after calls).run.trace stage = reported.run.trace stage := by
  induction calls generalizing reported with
  | nil => rfl
  | cons call rest ih =>
      rw [List.forall_mem_cons] at notReopened
      have same :=
        (reported.movesBy call).settled stage isSettled notReopened.1
      have sameState : (call.perform reported).1.state stage =
          reported.state stage := congrArg Prod.fst same
      rw [← same]
      exact ih _ (sameState ▸ isSettled) notReopened.2

/-- Operations in a row on a run. -/
structure MovesForward (reported : ReportedRun)
    (calls : List LifecycleCall) : Prop where
  each : ∀ earlier call later, calls = earlier ++ call :: later →
    (reported.after earlier).MovesBy call
  cancels : ∀ earlier later, calls = earlier ++ later →
    (reported.after earlier).CancelsOpen
  /-- Between two attempts a stage goes from move to move. -/
  forward : ∀ earlier between later stage,
    calls = earlier ++ between ++ later →
      (∀ call ∈ between, ¬call.reopens stage) →
        Relation.ReflTransGen StageState.Moves
          ((reported.after earlier).state stage)
          ((reported.after (earlier ++ between)).state stage)
  settled : ∀ earlier between later stage,
    calls = earlier ++ between ++ later →
      ((reported.after earlier).state stage).isSettled →
        (∀ call ∈ between, ¬call.reopens stage) →
          (reported.after (earlier ++ between)).run.trace stage =
            (reported.after earlier).run.trace stage

theorem after_append (reported : ReportedRun)
    (first second : List LifecycleCall) :
    reported.after (first ++ second) =
      (reported.after first).after second := List.foldl_append

theorem movesForward_after (run : Run) (calls : List LifecycleCall) :
    MovesForward ⟨run, []⟩ calls where
  each earlier call _ _ := (after ⟨run, []⟩ earlier).movesBy call
  cancels earlier _ _ := (after ⟨run, []⟩ earlier).cancelsOpen
  forward earlier between _ stage _ notReopened := by
    rw [after_append]
    exact forward_after between _ notReopened
  settled earlier between _ stage _ isSettled notReopened := by
    rw [after_append]
    exact settled_after between _ isSettled notReopened

end ReportedRun

end AgentPipeline
