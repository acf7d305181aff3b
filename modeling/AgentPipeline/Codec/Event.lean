import AgentPipeline.Codec.Evaluation
import AgentPipeline.Codec.Run
import AgentPipeline.Event

/-!
# The JSON form of events

An event is an object with the kind of the event under `type` and an object
with its details under `payload`.
-/

namespace AgentPipeline

namespace Event

def kind : Event → String
  | .runStarted .. => "runStarted"
  | .stageStarted .. => "stageStarted"
  | .stageCompleted .. => "stageCompleted"
  | .stageFailed .. => "stageFailed"
  | .stageCancelled .. => "stageCancelled"
  | .checkpointReached .. => "checkpointReached"
  | .runCompleted .. => "runCompleted"
  | .runFailed .. => "runFailed"
  | .runCancelled .. => "runCancelled"
  | .historyRecorded .. => "historyRecorded"
  | .evaluatorStarted .. => "evaluatorStarted"
  | .pollTick .. => "pollTick"
  | .evaluatorStatusChanged .. => "evaluatorStatusChanged"
  | .evaluatorResumed .. => "evaluatorResumed"
  | .protocolViolation .. => "protocolViolation"
  | .registryMirrorFailed .. => "registryMirrorFailed"

def payload : Event → List (String × Json)
  | .runStarted run attempt =>
      [("run_id", run.encode), ("attempt", .word32 attempt)]
  | .stageStarted run stage | .stageCancelled run stage =>
      [("run_id", run.encode), ("stage", stage.encode)]
  | .stageCompleted run stage milliseconds =>
      [("run_id", run.encode), ("stage", stage.encode),
        ("duration_ms", .word64 milliseconds)]
  | .stageFailed run stage error =>
      [("run_id", run.encode), ("stage", stage.encode),
        ("error", .string error)]
  | .checkpointReached run => [("run_id", run.encode)]
  | .runCompleted run attempt valid =>
      [("run_id", run.encode), ("attempt", .word32 attempt),
        ("valid", Json.orNull (valid.map .bool))]
  | .runFailed run error =>
      [("run_id", run.encode), ("error", .string error)]
  | .runCancelled run reason =>
      [("run_id", run.encode), ("reason", .string reason)]
  | .historyRecorded item status =>
      [("item_id", item.encode), ("status", status.encode)]
  | .evaluatorStarted run kind =>
      [("run_id", .string run), ("evaluator_kind", .string kind)]
  | .pollTick run cursor itemsSeen =>
      [("run_id", .string run), ("cursor", .word64 cursor),
        ("items_seen", .word64 itemsSeen)]
  | .evaluatorStatusChanged run status notify =>
      [("run_id", .string run), ("status", status.encode),
        ("notify", .bool notify)]
  | .evaluatorResumed run => [("run_id", .string run)]
  | .protocolViolation detail => [("detail", .string detail)]
  | .registryMirrorFailed model error =>
      [("model_id", .string model), ("error", .string error)]

def encode (event : Event) : Json :=
  .object [("type", .string event.kind), ("payload", .object event.payload)]

/-- The names of the details of the kinds of events, each with a reader of
the details from the slots of its fields. -/
def readers : List (String × Decoder.FieldNames ×
    (Nat → List (Option Document) → Option Event)) :=
  [("runStarted", [["run_id"], ["attempt"]], fun limit slots =>
      match slots with
      | [run, attempt] => do
          some (.runStarted (← Decoder.required Uuid.decoder limit run)
            (← Decoder.required Decoder.word32 limit attempt))
      | _ => none),
    ("stageStarted", [["run_id"], ["stage"]], fun limit slots =>
      match slots with
      | [run, stage] => do
          some (.stageStarted (← Decoder.required Uuid.decoder limit run)
            (← Decoder.required Stage.decoder limit stage))
      | _ => none),
    ("stageCompleted", [["run_id"], ["stage"], ["duration_ms"]],
      fun limit slots =>
        match slots with
        | [run, stage, milliseconds] => do
            some (.stageCompleted (← Decoder.required Uuid.decoder limit run)
              (← Decoder.required Stage.decoder limit stage)
              (← Decoder.required Decoder.word64 limit milliseconds))
        | _ => none),
    ("stageFailed", [["run_id"], ["stage"], ["error"]], fun limit slots =>
      match slots with
      | [run, stage, error] => do
          some (.stageFailed (← Decoder.required Uuid.decoder limit run)
            (← Decoder.required Stage.decoder limit stage)
            (← Decoder.required Decoder.text limit error))
      | _ => none),
    ("stageCancelled", [["run_id"], ["stage"]], fun limit slots =>
      match slots with
      | [run, stage] => do
          some (.stageCancelled (← Decoder.required Uuid.decoder limit run)
            (← Decoder.required Stage.decoder limit stage))
      | _ => none),
    ("checkpointReached", [["run_id"]], fun limit slots =>
      match slots with
      | [run] => do
          some (.checkpointReached
            (← Decoder.required Uuid.decoder limit run))
      | _ => none),
    ("runCompleted", [["run_id"], ["attempt"], ["valid"]], fun limit slots =>
      match slots with
      | [run, attempt, valid] => do
          some (.runCompleted (← Decoder.required Uuid.decoder limit run)
            (← Decoder.required Decoder.word32 limit attempt)
            (← Decoder.absentOr Decoder.flag limit valid))
      | _ => none),
    ("runFailed", [["run_id"], ["error"]], fun limit slots =>
      match slots with
      | [run, error] => do
          some (.runFailed (← Decoder.required Uuid.decoder limit run)
            (← Decoder.required Decoder.text limit error))
      | _ => none),
    ("runCancelled", [["run_id"], ["reason"]], fun limit slots =>
      match slots with
      | [run, reason] => do
          some (.runCancelled (← Decoder.required Uuid.decoder limit run)
            (← Decoder.required Decoder.text limit reason))
      | _ => none),
    ("historyRecorded", [["item_id"], ["status"]], fun limit slots =>
      match slots with
      | [item, status] => do
          some (.historyRecorded (← Decoder.required Uuid.decoder limit item)
            (← Decoder.required RunStatus.decoder limit status))
      | _ => none),
    ("evaluatorStarted", [["run_id"], ["evaluator_kind"]], fun limit slots =>
      match slots with
      | [run, kind] => do
          some (.evaluatorStarted (← Decoder.required Decoder.text limit run)
            (← Decoder.required Decoder.text limit kind))
      | _ => none),
    ("pollTick", [["run_id"], ["cursor"], ["items_seen"]], fun limit slots =>
      match slots with
      | [run, cursor, itemsSeen] => do
          some (.pollTick (← Decoder.required Decoder.text limit run)
            (← Decoder.required Decoder.word64 limit cursor)
            (← Decoder.required Decoder.word64 limit itemsSeen))
      | _ => none),
    ("evaluatorStatusChanged", [["run_id"], ["status"], ["notify"]],
      fun limit slots =>
        match slots with
        | [run, status, notify] => do
            some (.evaluatorStatusChanged
              (← Decoder.required Decoder.text limit run)
              (← Decoder.required EvaluatorStatus.decoder limit status)
              (← Decoder.required Decoder.flag limit notify))
        | _ => none),
    ("evaluatorResumed", [["run_id"]], fun limit slots =>
      match slots with
      | [run] => do
          some (.evaluatorResumed (← Decoder.required Decoder.text limit run))
      | _ => none),
    ("protocolViolation", [["detail"]], fun limit slots =>
      match slots with
      | [detail] => do
          some (.protocolViolation
            (← Decoder.required Decoder.text limit detail))
      | _ => none),
    ("registryMirrorFailed", [["model_id"], ["error"]], fun limit slots =>
      match slots with
      | [model, error] => do
          some (.registryMirrorFailed
            (← Decoder.required Decoder.text limit model)
            (← Decoder.required Decoder.text limit error))
      | _ => none)]

/-- The details of an event of a kind, which have to be an object. -/
def payloadDecoder (kind : String) : Decoder Event :=
  fun limit document =>
    match readers.find? fun reader => reader.1 == kind with
    | some (_, fields, build) => Decoder.members fields build limit document
    | none => none

/-- The kinds of events by their names. -/
def kindDecoder : Decoder String :=
  Decoder.choice (readers.map fun reader => (reader.1, reader.1))

/-- Whether details stand in front of the kind; then all of them must have a
value, whether or not they are used. -/
def payloadFirst : Document → Bool
  | .object members =>
      (members.findSome? fun member =>
        if member.1.value = some "type" then some false
        else if member.1.value = some "payload" then some true
        else none).getD false
  | _ => false

def fieldNames : Decoder.FieldNames := [["type"], ["payload"]]

def decoder : Decoder Event :=
  fun limit document =>
    Decoder.record fieldNames (fun limit slots =>
      match slots with
      | [some kind, some details] => do
          let kind ← kindDecoder limit kind
          if payloadFirst document && !details.hasValue limit then none
          else payloadDecoder kind limit details
      | _ => none) limit document

end Event

end AgentPipeline
