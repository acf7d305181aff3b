import AgentPipeline.Codec.Event
import AgentPipeline.Proofs.Codec.Evaluation
import AgentPipeline.Proofs.Codec.Run

/-!
# Restoring events

An event of any kind comes back from its text: its kind finds the reader of
its details, and the details are restored field by field.
Main statement: `Event.decoder_restores`.
-/

namespace AgentPipeline

open Decoder

theorem Stage.decoder_restores (limit : Nat) (stage : Stage) :
    decoder.Restores limit stage.encode stage := by
  cases stage <;> rfl

namespace Event

theorem kindDecoder_restores (limit : Nat) (event : Event) :
    kindDecoder.Restores limit (.string event.kind) event.kind := by
  cases event <;> rfl

/-- An event is restored from its text if it is from its details. -/
theorem restores_of_details {event : Event} {limit : Nat}
    (details : (payloadDecoder event.kind).Restores (limit + 1)
      (.object event.payload) event) :
    decoder.Restores (limit + 2) event.encode event := by
  obtain ⟨document, read, decoded⟩ := details.exists_document
  have kindDecoded : kindDecoder (limit + 1)
      (.string (Json.spelling event.kind)) = some event.kind :=
    kindDecoder_restores (limit + 1) event
  have kindFirst (kind details : Document) :
      payloadFirst (.object [(Json.spelling "type", kind),
        (Json.spelling "payload", details)]) = false := rfl
  have entered (kind details : Document) :
      slotsOfMembers fieldNames [(Json.spelling "type", kind),
        (Json.spelling "payload", details)] =
          some [some kind, some details] := rfl
  have encoded : event.encode.reread = some (.object
      [(Json.spelling "type", .string (Json.spelling event.kind)),
        (Json.spelling "payload", document)]) := by
    rw [encode, Json.reread, Json.rereadMembers, Json.rereadMembers, read]
    rfl
  rw [Restores, encoded, Option.bind_some, decoder, record, entered]
  simp only [Option.bind_some, kindDecoded, Option.bind_eq_bind, kindFirst,
    Bool.false_and]
  exact decoded

theorem details_restore {event : Event} {limit : Nat} (names : List String)
    {build : Nat → List (Option Document) → Option Event}
    (isReader : readers.find? (fun reader => reader.1 == event.kind) =
      some (event.kind, names.map fun name => [name], build))
    {slots : List (Option Json)}
    (built : (rereadSlots slots).bind (build limit) = some event)
    (isPayload : event.payload = membersOfSlots names slots)
    (sameLength : names.length = slots.length)
    (indices : ∀ position (inside : position < names.length),
      fieldIndex? (names.map fun name => [name]) names[position] =
        some position) :
    (payloadDecoder event.kind).Restores (limit + 1) (.object event.payload)
      event := by
  have isDecoder : payloadDecoder event.kind =
      members (names.map fun name => [name]) build := by
    funext limit document
    rw [payloadDecoder, isReader]
  rw [Restores, isDecoder, isPayload]
  exact (members_reread sameLength (List.length_map _).symm indices
    limit).trans built

theorem decoder_restores (limit : Nat) (event : Event) :
    decoder.Restores (limit + 2) event.encode event := by
  apply restores_of_details
  have uuid (identifier : Uuid) := (uuid_restores limit identifier).required
  have stage (stage : Stage) :=
    (Stage.decoder_restores limit stage).required
  have word32 (value : UInt32) := (word32_restores limit value).required
  have word64 (value : UInt64) := (word64_restores limit value).required
  have text (value : String) := (text_restores limit value).required
  have flag (value : Bool) := (flag_restores limit value).required
  cases event with
  | runStarted run attempt =>
      exact details_restore ["run_id", "attempt"] rfl
        ((uuid run).two (word32 attempt) runStarted) rfl rfl (by decide)
  | stageStarted run started =>
      exact details_restore ["run_id", "stage"] rfl
        ((uuid run).two (stage started) stageStarted) rfl rfl (by decide)
  | stageCompleted run completed milliseconds =>
      exact details_restore ["run_id", "stage", "duration_ms"] rfl
        ((uuid run).three (stage completed) (word64 milliseconds)
          stageCompleted) rfl rfl (by decide)
  | stageFailed run failed error =>
      exact details_restore ["run_id", "stage", "error"] rfl
        ((uuid run).three (stage failed) (text error) stageFailed) rfl rfl
        (by decide)
  | stageCancelled run cancelled =>
      exact details_restore ["run_id", "stage"] rfl
        ((uuid run).two (stage cancelled) stageCancelled) rfl rfl
        (by decide)
  | checkpointReached run =>
      exact details_restore ["run_id"] rfl
        ((uuid run).one checkpointReached) rfl rfl (by decide)
  | runCompleted run attempt valid =>
      -- A verdict that is absent is written as `null`.
      have verdict : SlotRestores (absentOr Decoder.flag) limit
          (some (Json.orNull (valid.map .bool))) valid := by
        cases valid <;> rfl
      exact details_restore ["run_id", "attempt", "valid"] rfl
        ((uuid run).three (word32 attempt) verdict runCompleted) rfl rfl
        (by decide)
  | runFailed run error =>
      exact details_restore ["run_id", "error"] rfl
        ((uuid run).two (text error) runFailed) rfl rfl (by decide)
  | runCancelled run reason =>
      exact details_restore ["run_id", "reason"] rfl
        ((uuid run).two (text reason) runCancelled) rfl rfl (by decide)
  | historyRecorded item status =>
      have status := (RunStatus.decoder_restores limit status).required
      exact details_restore ["item_id", "status"] rfl
        ((uuid item).two status historyRecorded) rfl rfl (by decide)
  | evaluatorStarted run kind =>
      exact details_restore ["run_id", "evaluator_kind"] rfl
        ((text run).two (text kind) evaluatorStarted) rfl rfl (by decide)
  | pollTick run cursor itemsSeen =>
      exact details_restore ["run_id", "cursor", "items_seen"] rfl
        ((text run).three (word64 cursor) (word64 itemsSeen) pollTick) rfl
        rfl (by decide)
  | evaluatorStatusChanged run status notify =>
      have status := (EvaluatorStatus.decoder_restores limit status).required
      exact details_restore ["run_id", "status", "notify"] rfl
        ((text run).three status (flag notify) evaluatorStatusChanged) rfl
        rfl (by decide)
  | evaluatorResumed run =>
      exact details_restore ["run_id"] rfl
        ((text run).one evaluatorResumed) rfl rfl (by decide)
  | protocolViolation detail =>
      exact details_restore ["detail"] rfl
        ((text detail).one protocolViolation) rfl rfl (by decide)
  | registryMirrorFailed model error =>
      exact details_restore ["model_id", "error"] rfl
        ((text model).two (text error) registryMirrorFailed) rfl rfl
        (by decide)

end Event

end AgentPipeline
