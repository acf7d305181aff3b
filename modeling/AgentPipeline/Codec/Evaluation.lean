import AgentPipeline.Codec.Basic
import AgentPipeline.Evaluation.Basic

/-!
# The JSON form of evaluator runs

The dashboard is written whole.  The answers of the service are read with any
of the names that their fields have had.
-/

namespace AgentPipeline

namespace EvaluatorStatus

def encode (status : EvaluatorStatus) : Json := .string status.name

def decoder : Decoder EvaluatorStatus :=
  Decoder.choice
    ([idle, running, suspended, cancelled, completed, failed].map
      fun status => (status.name, status))

end EvaluatorStatus

namespace TokenCounters

def fieldNames : Decoder.FieldNames :=
  [["prompt_tokens"], ["completion_tokens"], ["total_tokens"]]

def encode (tokens : TokenCounters) : Json :=
  .object [("prompt_tokens", .word64 tokens.prompt),
    ("completion_tokens", .word64 tokens.completion),
    ("total_tokens", .word64 tokens.total)]

def decoder : Decoder TokenCounters :=
  Decoder.record fieldNames fun limit slots =>
    match slots with
    | [prompt, completion, total] => do
        let prompt ← Decoder.defaulting 0 Decoder.word64 limit prompt
        let completion ← Decoder.defaulting 0 Decoder.word64 limit completion
        let total ← Decoder.defaulting 0 Decoder.word64 limit total
        some { prompt, completion, total }
    | _ => none

end TokenCounters

namespace ItemProgress

def fieldNames : Decoder.FieldNames :=
  [["stage_statuses"], ["tokens"], ["record_available"]]

def encode (item : ItemProgress) : Json :=
  .object [("stage_statuses", .ofTextMap .string item.stageStatuses),
    ("tokens", item.tokens.encode),
    ("record_available", .bool item.recordAvailable)]

def decoder : Decoder ItemProgress :=
  Decoder.record fieldNames fun limit slots =>
    match slots with
    | [stageStatuses, tokens, recordAvailable] => do
        let stageStatuses ← Decoder.defaulting .empty
          (Decoder.keyed Decoder.textKey Decoder.text) limit stageStatuses
        let tokens ←
          Decoder.defaulting .zero TokenCounters.decoder limit tokens
        let recordAvailable ←
          Decoder.defaulting false Decoder.flag limit recordAvailable
        some { stageStatuses, tokens, recordAvailable }
    | _ => none

/-- The progress of several items by their numbers. -/
def mapDecoder : Decoder (SortedMap UInt32 ItemProgress) :=
  Decoder.keyed Decoder.wordKey decoder

end ItemProgress

namespace RunProgress

def fieldNames : Decoder.FieldNames := [["items"], ["tokens"]]

def encode (progress : RunProgress) : Json :=
  .object [("items", .ofWordMap ItemProgress.encode progress.items),
    ("tokens", progress.tokens.encode)]

def decoder : Decoder RunProgress :=
  Decoder.record fieldNames fun limit slots =>
    match slots with
    | [items, tokens] => do
        let items ←
          Decoder.defaulting .empty ItemProgress.mapDecoder limit items
        let tokens ←
          Decoder.defaulting .zero TokenCounters.decoder limit tokens
        some { items, tokens }
    | _ => none

end RunProgress

namespace EvaluatorRun

def fieldNames : Decoder.FieldNames :=
  [["evaluator_kind"], ["run_id"], ["status"], ["cursor"], ["progress"],
    ["metrics_table"], ["item_limit"], ["model"], ["auto_suspended"],
    ["error"], ["started_at"], ["updated_at"]]

def encode (run : EvaluatorRun) : Json :=
  .object ([
    ("evaluator_kind", .string run.kind),
    ("run_id", .string run.id),
    ("status", run.status.encode),
    ("cursor", .word64 run.cursor),
    ("progress", run.progress.encode)]
    ++ Json.optionalMember "metrics_table" run.metrics
    ++ [("item_limit", .word32 run.itemLimit)]
    ++ Json.optionalMember "model" (run.model.map .string)
    ++ [("auto_suspended", .bool run.autoSuspended)]
    ++ Json.optionalMember "error" (run.error.map .string)
    ++ [("started_at", run.startedAt.encode),
      ("updated_at", run.updatedAt.encode)])

def decoder : Decoder EvaluatorRun :=
  Decoder.record fieldNames fun limit slots =>
    match slots with
    | [kind, id, status, cursor, progress, metrics, itemLimit, model,
        autoSuspended, error, startedAt, updatedAt] => do
        let kind ← Decoder.required Decoder.text limit kind
        let id ← Decoder.required Decoder.text limit id
        let status ← Decoder.required EvaluatorStatus.decoder limit status
        let cursor ← Decoder.required Decoder.word64 limit cursor
        let progress ←
          Decoder.defaulting .empty RunProgress.decoder limit progress
        let metrics ← Decoder.absentOr Decoder.payload limit metrics
        let itemLimit ← Decoder.required Decoder.word32 limit itemLimit
        let model ← Decoder.absentOr Decoder.text limit model
        let autoSuspended ←
          Decoder.defaulting false Decoder.flag limit autoSuspended
        let error ← Decoder.absentOr Decoder.text limit error
        let startedAt ← Decoder.required Timestamp.decoder limit startedAt
        let updatedAt ← Decoder.required Timestamp.decoder limit updatedAt
        some { kind, id, status, cursor, progress, metrics, itemLimit, model,
               autoSuspended, error, startedAt, updatedAt }
    | _ => none

end EvaluatorRun

namespace Dashboard

def fieldNames : Decoder.FieldNames :=
  [["selected_evaluator"], ["item_limits"], ["run"]]

def encode (dashboard : Dashboard) : Json :=
  .object (Json.optionalMember "selected_evaluator"
      (dashboard.selected.map .string)
    ++ [("item_limits", .ofTextMap .word32 dashboard.itemLimits)]
    ++ Json.optionalMember "run" (dashboard.run.map EvaluatorRun.encode))

def decoder : Decoder Dashboard :=
  Decoder.record fieldNames fun limit slots =>
    match slots with
    | [selected, itemLimits, run] => do
        let selected ← Decoder.absentOr Decoder.text limit selected
        let itemLimits ← Decoder.defaulting .empty
          (Decoder.keyed Decoder.textKey Decoder.word32) limit itemLimits
        let run ← Decoder.absentOr EvaluatorRun.decoder limit run
        some { selected, itemLimits, run }
    | _ => none

end Dashboard

/-- The answer to starting an evaluator run: the identifier of the run. -/
structure StartedRun where
  id : String
deriving DecidableEq, Inhabited

namespace StartedRun

def fieldNames : Decoder.FieldNames := [["run_id", "id"]]

def encode (started : StartedRun) : Json :=
  .object [("run_id", .string started.id)]

def decoder : Decoder StartedRun :=
  Decoder.record fieldNames fun limit slots =>
    match slots with
    | [id] => (Decoder.required Decoder.text limit id).map StartedRun.mk
    | _ => none

end StartedRun

namespace RunSnapshot

def fieldNames : Decoder.FieldNames :=
  [["status"], ["cursor", "offset", "next_offset"], ["items", "progress"],
    ["tokens"], ["metrics_table"], ["error"]]

def encode (snapshot : RunSnapshot) : Json :=
  .object ([
    ("status", snapshot.status.encode),
    ("cursor", .word64 snapshot.cursor),
    ("items", .ofWordMap ItemProgress.encode snapshot.items)]
    ++ Json.optionalMember "tokens"
      (snapshot.tokens.map TokenCounters.encode)
    ++ Json.optionalMember "metrics_table" snapshot.metrics
    ++ Json.optionalMember "error" (snapshot.error.map .string))

def decoder : Decoder RunSnapshot :=
  Decoder.record fieldNames fun limit slots =>
    match slots with
    | [status, cursor, items, tokens, metrics, error] => do
        let status ← Decoder.required EvaluatorStatus.decoder limit status
        let cursor ← Decoder.required Decoder.word64 limit cursor
        let items ←
          Decoder.defaulting .empty ItemProgress.mapDecoder limit items
        let tokens ← Decoder.absentOr TokenCounters.decoder limit tokens
        let metrics ← Decoder.absentOr Decoder.payload limit metrics
        let error ← Decoder.absentOr Decoder.text limit error
        some { status, cursor, items, tokens, metrics, error }
    | _ => none

end RunSnapshot

end AgentPipeline
