import AgentPipeline.Codec.Basic
import AgentPipeline.History.Basic

/-!
# The JSON form of runs

Runs are written with their fields in a fixed order.  An output, an error, a
model or a duration that is absent is left out.
-/

namespace AgentPipeline

namespace Stage

def encode (stage : Stage) : Json := .string stage.name

def decoder : Decoder Stage :=
  Decoder.choice (all.map fun stage => (stage.name, stage))

end Stage

namespace StageState

def encode (state : StageState) : Json := .string state.name

def decoder : Decoder StageState :=
  Decoder.choice ([idle, processing, completed, error, cancelled].map
    fun state => (state.name, state))

end StageState

namespace ProgressionMode

def name : ProgressionMode → String
  | .manual => "manual"
  | .auto => "auto"

def encode (mode : ProgressionMode) : Json := .string mode.name

def decoder : Decoder ProgressionMode :=
  Decoder.choice ([manual, auto].map fun mode => (mode.name, mode))

end ProgressionMode

namespace RunStatus

def name : RunStatus → String
  | .running => "running"
  | .pausedAtCheckpoint => "paused_at_checkpoint"
  | .completed => "completed"
  | .failed => "failed"
  | .cancelled => "cancelled"

def encode (status : RunStatus) : Json := .string status.name

def decoder : Decoder RunStatus :=
  Decoder.choice
    ([running, pausedAtCheckpoint, completed, failed, cancelled].map
      fun status => (status.name, status))

end RunStatus

namespace PerStage

variable {α : Type}

/-- The names of the stages as the fields of a record. -/
def fieldNames : Decoder.FieldNames :=
  Stage.all.map fun stage => [stage.name]

/-- A record with a member for every stage that has a value. -/
def encodePartial (encode : α → Json) (family : PerStage (Option α)) : Json :=
  .object (Stage.all.flatMap fun stage =>
    Json.optionalMember stage.name ((family.get stage).map encode))

/-- A record with a member for every stage. -/
def encodeTotal (encode : α → Json) (family : PerStage α) : Json :=
  .object (Stage.all.map fun stage => (stage.name, encode (family.get stage)))

/-- A record with a member for every stage; it has to have all of them. -/
def totalDecoder (decoder : Decoder α) : Decoder (PerStage α) :=
  Decoder.record fieldNames fun limit slots =>
    match slots with
    | [parse, reason, generate, validate] => do
        let parse ← Decoder.required decoder limit parse
        let reason ← Decoder.required decoder limit reason
        let generate ← Decoder.required decoder limit generate
        let validate ← Decoder.required decoder limit validate
        some { parse, reason, generate, validate }
    | _ => none

/-- A record in which the member of a stage may be absent or `null`. -/
def partialDecoder (decoder : Decoder α) : Decoder (PerStage (Option α)) :=
  Decoder.record fieldNames fun limit slots =>
    match slots with
    | [parse, reason, generate, validate] => do
        let parse ← Decoder.absentOr decoder limit parse
        let reason ← Decoder.absentOr decoder limit reason
        let generate ← Decoder.absentOr decoder limit generate
        let validate ← Decoder.absentOr decoder limit validate
        some { parse, reason, generate, validate }
    | _ => none

/-- The stage that the key of a map names. -/
def stageKey (spelling : Spelling) : Option Stage := do
  let name ← spelling.value
  Stage.all.find? fun stage => stage.name == name

/-- A map whose keys are stages; of several members with one key the last
counts, and no other keys are accepted. -/
def mapDecoder (decoder : Decoder α) : Decoder (PerStage (Option α))
  | limit + 1, .object members =>
      members.foldlM (fun family (member : Spelling × Document) => do
        let stage ← stageKey member.1
        let value ← decoder limit member.2
        some (family.set stage (some value))) (all none)
  | _, _ => none

end PerStage

namespace Run

def fieldNames : Decoder.FieldNames :=
  [["id"], ["input_text"], ["temperature"], ["progression_mode"], ["models"],
    ["stage_outputs"], ["stage_states"], ["attempt_number"], ["metrics"],
    ["status"], ["error"]]

def encode (run : Run) : Json :=
  .object ([
    ("id", run.id.encode),
    ("input_text", .string run.inputText),
    ("temperature", .double run.temperature),
    ("progression_mode", run.mode.encode),
    ("models", run.models.encodePartial fun model =>
      Json.orNull (model.map .string)),
    ("stage_outputs", run.outputs.encodePartial fun output => output),
    ("stage_states", run.states.encodeTotal StageState.encode),
    ("attempt_number", .word32 run.attempt),
    ("metrics", run.durations.encodePartial Json.word64),
    ("status", run.status.encode)]
    ++ Json.optionalMember "error" (run.error.map .string))

def decoder : Decoder Run :=
  Decoder.record fieldNames fun limit slots =>
    match slots with
    | [id, inputText, temperature, mode, models, outputs, states, attempt,
        durations, status, error] => do
        let id ← Decoder.required Uuid.decoder limit id
        let inputText ← Decoder.required Decoder.text limit inputText
        let temperature ← Decoder.required Decoder.double limit temperature
        let mode ← Decoder.required ProgressionMode.decoder limit mode
        let models ← Decoder.defaulting (.all none)
          (PerStage.mapDecoder (Decoder.optional Decoder.text)) limit models
        let outputs ← Decoder.defaulting (.all none)
          (PerStage.partialDecoder Decoder.payload) limit outputs
        let states ← Decoder.defaulting (.all .idle)
          (PerStage.totalDecoder StageState.decoder) limit states
        let attempt ← Decoder.required Decoder.word32 limit attempt
        let durations ← Decoder.defaulting (.all none)
          (PerStage.mapDecoder Decoder.word64) limit durations
        let status ← Decoder.required RunStatus.decoder limit status
        let error ← Decoder.absentOr Decoder.text limit error
        some { id, inputText, temperature, mode, models, outputs, states,
               attempt, durations, status, error }
    | _ => none

end Run

namespace HistoryItem

def fieldNames : Decoder.FieldNames :=
  [["id"], ["recorded_at"], ["run"]]

def encode (item : HistoryItem) : Json :=
  .object [("id", item.id.encode), ("recorded_at", item.recordedAt.encode),
    ("run", item.run.encode)]

def decoder : Decoder HistoryItem :=
  Decoder.record fieldNames fun limit slots =>
    match slots with
    | [id, recordedAt, run] => do
        let id ← Decoder.required Uuid.decoder limit id
        let recordedAt ← Decoder.required Timestamp.decoder limit recordedAt
        let run ← Decoder.required Run.decoder limit run
        some { id, recordedAt, run }
    | _ => none

end HistoryItem

end AgentPipeline
