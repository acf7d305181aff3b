import AgentPipeline.Json.Decode
import AgentPipeline.Stage
import AgentPipeline.Uuid

/-!
# Runs

A run is the passage of one input text through the four stages, with the
outputs, states and durations of its stages.  A run may be regenerated, which
repeats the last two stages as a further attempt.
-/

namespace AgentPipeline

/-- Whether a run pauses behind the reason stage. -/
inductive ProgressionMode where
  | manual
  | auto
deriving DecidableEq, Inhabited, Repr

inductive RunStatus where
  | running
  | pausedAtCheckpoint
  | completed
  | failed
  | cancelled
deriving DecidableEq, Inhabited, Repr

namespace RunStatus

/-- Completed, failed or cancelled. -/
def isTerminal : RunStatus → Bool
  | .completed | .failed | .cancelled => true
  | .running | .pausedAtCheckpoint => false

end RunStatus

/-- What the output of the validate stage says, read leniently. -/
structure ValidationSummary where
  /-- The verdict, if the output gives one. -/
  valid : Option Bool
  /-- The reported violations. -/
  errors : List Json
deriving DecidableEq, Inhabited

namespace ValidationSummary

/-- The summary of an output that says nothing. -/
def silent : ValidationSummary := ⟨none, []⟩

/-- A validation fails by a negative verdict or by any reported violation. -/
def isFailure (summary : ValidationSummary) : Bool :=
  summary.valid = some false || !summary.errors.isEmpty

/-- The spellings of the two fields. -/
def fieldNames : Decoder.FieldNames :=
  [["valid", "conforms", "is_valid"], ["errors", "violations"]]

def decoder : Decoder ValidationSummary :=
  Decoder.record fieldNames fun limit slots =>
    match slots with
    | [valid, errors] => do
        let valid ← Decoder.absentOr Decoder.flag limit valid
        let errors ← Decoder.defaulting []
          (Decoder.list Decoder.payload) limit errors
        some { valid, errors }
    | _ => none

/-- The summary of an output; one that cannot be read says nothing. -/
def ofOutput (output : Json) : ValidationSummary :=
  (decoder.ofJson? output).getD silent

end ValidationSummary

/-- A run of the pipeline over one input text. -/
structure Run where
  id : Uuid
  inputText : String
  temperature : Double
  mode : ProgressionMode
  /-- The model chosen for a stage; the service chooses where there is none. -/
  models : PerStage (Option (Option String))
  outputs : PerStage (Option Json)
  states : PerStage StageState
  /-- The number of the attempt, from one. -/
  attempt : UInt32
  /-- The milliseconds that a stage took in the current attempt. -/
  durations : PerStage (Option UInt64)
  status : RunStatus
  /-- Why the run failed or was cancelled. -/
  error : Option String
deriving DecidableEq, Inhabited

namespace Run

/-- A run that may still change by itself or be continued. -/
def isLive (run : Run) : Bool :=
  !run.status.isTerminal

/-- The failed validation of the current attempt, if its output reports one. -/
def validationFailure (run : Run) : Option ValidationSummary :=
  (run.outputs.validate.map ValidationSummary.ofOutput).filter
    ValidationSummary.isFailure

end Run

end AgentPipeline
