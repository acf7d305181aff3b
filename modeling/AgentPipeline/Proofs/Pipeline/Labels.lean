import AgentPipeline.Pipeline.Basic

/-!
# Labels

Two sessions make different identifiers, and read and measure different times.
Under labels that do not tell these apart the sessions can be compared.  The
moves of a run do not look at what is labelled, so that a move of a labelled
run is the labelled move.
-/

namespace AgentPipeline

/-- What is put in place of the identifiers that are made, the times that are
read and the milliseconds that are measured. -/
structure Labels where
  id : Uuid → Uuid
  time : Timestamp → Timestamp
  duration : UInt64 → UInt64

/-- Labels that tell nothing apart. -/
def Labels.blind : Labels := ⟨fun _ => default, fun _ => default, fun _ => 0⟩

variable {labels : Labels}

/-! ## Supplies -/

/-- Something that is taken from a supply. -/
inductive Supply.Draw where
  | id
  | time

namespace Supply

def draw (supply : Supply) : Draw → Supply
  | .id => supply.nextId.2
  | .time => supply.tick.2

/-- The supply when all of this has been taken from it. -/
def after (supply : Supply) (drawn : List Draw) : Supply :=
  drawn.foldl draw supply

/-- Whatever is taken from two supplies in the same order has the same labels.
A supply agrees with itself under all labels, and any two supplies agree under
blind ones. -/
structure Agrees (labels : Labels) (left right : Supply) : Prop where
  id : ∀ drawn, labels.id (left.after drawn).nextId.1 =
    labels.id (right.after drawn).nextId.1
  time : ∀ drawn, labels.time (left.after drawn).tick.1 =
    labels.time (right.after drawn).tick.1

theorem agrees_blind (left right : Supply) :
    Agrees .blind left right := ⟨fun _ => rfl, fun _ => rfl⟩

variable {left right : Supply}

theorem Agrees.draw (agrees : Agrees labels left right) (drawn : Draw) :
    Agrees labels (left.draw drawn) (right.draw drawn) :=
  ⟨fun later => agrees.id (drawn :: later),
    fun later => agrees.time (drawn :: later)⟩

theorem Agrees.nextId (agrees : Agrees labels left right) :
    Agrees labels left.nextId.2 right.nextId.2 := agrees.draw .id

theorem Agrees.tick (agrees : Agrees labels left right) :
    Agrees labels left.tick.2 right.tick.2 := agrees.draw .time

end Supply

/-! ## What is labelled -/

namespace Run

def relabel (labels : Labels) (run : Run) : Run :=
  { run with
    id := labels.id run.id
    durations := PerStage.ofFunction fun stage =>
      (run.durations.get stage).map labels.duration }

end Run

def HistoryItem.relabel (labels : Labels) (item : HistoryItem) : HistoryItem :=
  ⟨labels.id item.id, labels.time item.recordedAt, item.run.relabel labels⟩

namespace Event

/-- Only runs and snapshots of the pipeline have made identifiers. -/
def relabel (labels : Labels) : Event → Event
  | .runStarted run attempt => .runStarted (labels.id run) attempt
  | .stageStarted run stage => .stageStarted (labels.id run) stage
  | .stageCompleted run stage milliseconds =>
      .stageCompleted (labels.id run) stage (labels.duration milliseconds)
  | .stageFailed run stage error => .stageFailed (labels.id run) stage error
  | .stageCancelled run stage => .stageCancelled (labels.id run) stage
  | .checkpointReached run => .checkpointReached (labels.id run)
  | .runCompleted run attempt valid =>
      .runCompleted (labels.id run) attempt valid
  | .runFailed run error => .runFailed (labels.id run) error
  | .runCancelled run reason => .runCancelled (labels.id run) reason
  | .historyRecorded item status => .historyRecorded (labels.id item) status
  | event => event

end Event

def Effect.relabel (labels : Labels) : Effect → Effect
  | .announce event => .announce (event.relabel labels)
  | .dispatch request => .dispatch request

/-- A run and what is announced of it. -/
def relabelMove (labels : Labels) (moved : Run × List Event) :
    Run × List Event :=
  (moved.1.relabel labels, moved.2.map (Event.relabel labels))

/-! ## Moves of runs -/

namespace Run

/-- What is not labelled is the same where the labelled runs are. -/
theorem eq_of_relabel {α : Type} (read : Run → α)
    (unlabelled : ∀ run : Run, read (run.relabel labels) = read run)
    {run other : Run} (same : run.relabel labels = other.relabel labels) :
    read run = read other := by
  rw [← unlabelled run, same, unlabelled]

theorem relabel_move (run : Run) (stage : Stage) (target : StageState) :
    (run.relabel labels).move stage target =
      (run.move stage target).map (relabel labels) := by
  unfold Run.move
  change (if (run.states.get stage).canMoveTo target then _ else _) = _
  dsimp only
  split <;> rfl

theorem relabel_beginStage (run : Run) (stage : Stage) :
    (run.relabel labels).beginStage stage =
      (run.beginStage stage).map (relabelMove labels) := by
  unfold Run.beginStage
  rw [relabel_move]
  cases run.move stage .processing <;> rfl

/-- The milliseconds that a stage took are labelled like the others. -/
theorem durations_relabel (labels : Labels) (run : Run) (stage : Stage)
    (milliseconds : UInt64) :
    (run.relabel labels).durations.set stage
        (some (labels.duration milliseconds)) =
      PerStage.ofFunction fun other =>
        ((run.durations.set stage (some milliseconds)).get other).map
          labels.duration := by
  cases stage <;> rfl

theorem relabel_completeStage (run : Run) (stage : Stage) (output : Json)
    (milliseconds : UInt64) :
    (run.relabel labels).completeStage stage output
        (labels.duration milliseconds) =
      (run.completeStage stage output milliseconds).map
        (relabelMove labels) := by
  unfold Run.completeStage
  rw [relabel_move]
  cases run.move stage .completed with
  | error => rfl
  | ok moved =>
      have durations := durations_relabel labels moved stage milliseconds
      simp only [Except.map, bind, Except.bind, durations]
      rfl

theorem relabel_failStage (run : Run) (stage : Stage) (error : String)
    (milliseconds : UInt64) :
    (run.relabel labels).failStage stage error
        (labels.duration milliseconds) =
      (run.failStage stage error milliseconds).map (relabelMove labels) := by
  unfold Run.failStage
  rw [relabel_move]
  cases run.move stage .error with
  | error => rfl
  | ok moved =>
      have durations := durations_relabel labels moved stage milliseconds
      simp only [Except.map, bind, Except.bind, durations]
      rfl

theorem relabel_cancel (run : Run) (reason : String) :
    (run.relabel labels).cancel reason =
      relabelMove labels (run.cancel reason) := by
  have isOpen : (run.relabel labels).isOpen = run.isOpen := rfl
  simp only [Run.cancel, cancelOpenStages, relabelMove, isOpen,
    List.map_append, List.map_map]
  rfl

theorem relabel_fail (run : Run) (error : String) :
    (run.relabel labels).fail error = relabelMove labels (run.fail error) :=
  rfl

theorem relabel_pauseAtCheckpoint (run : Run) :
    (run.relabel labels).pauseAtCheckpoint =
      relabelMove labels run.pauseAtCheckpoint := rfl

theorem relabel_complete (run : Run) :
    (run.relabel labels).complete = relabelMove labels run.complete := rfl

theorem relabel_startAttempt (run : Run) :
    (run.relabel labels).startAttempt =
      relabelMove labels run.startAttempt := rfl

end Run

end AgentPipeline
