import AgentPipeline.History.Store
import AgentPipeline.Proofs.Codec.Restore
import AgentPipeline.Proofs.Uuid

/-!
# Restoring runs

A run comes back from its text as it was, but for its temperature and its
outputs: a number is what the reader makes of the printed digits, and an
output comes back if it is not nested too deeply, and not as `null`.  The items
of a history come back together or not at all.
Main statement: `History.parse?_encodeItems`.
-/

namespace AgentPipeline

open Decoder

theorem Decoder.uuid_restores (limit : Nat) (identifier : Uuid) :
    Uuid.decoder.Restores limit identifier.encode identifier := by
  simp only [Restores, Uuid.encode, Json.reread, Option.bind_some,
    Uuid.decoder, text, Json.spelling]
  exact identifier.parse?_print

theorem StageState.decoder_restores (limit : Nat) (state : StageState) :
    StageState.decoder.Restores limit state.encode state := by
  cases state <;> rfl

theorem ProgressionMode.decoder_restores (limit : Nat)
    (mode : ProgressionMode) :
    ProgressionMode.decoder.Restores limit mode.encode mode := by
  cases mode <;> rfl

theorem RunStatus.decoder_restores (limit : Nat) (status : RunStatus) :
    RunStatus.decoder.Restores limit status.encode status := by
  cases status <;> rfl

/-! ## Families by stage -/

namespace PerStage

variable {α : Type} {decoder : Decoder α} {encode : α → Json} {limit : Nat}

theorem total_restores (family : PerStage α)
    (values : ∀ stage, decoder.Restores limit (encode (family.get stage))
      (family.get stage)) :
    (totalDecoder decoder).Restores (limit + 1) (family.encodeTotal encode)
      family := by
  obtain ⟨parse, parseRead, parseDecoded⟩ :=
    (values .parse).required.exists_document
  obtain ⟨reason, reasonRead, reasonDecoded⟩ :=
    (values .reason).required.exists_document
  obtain ⟨generate, generateRead, generateDecoded⟩ :=
    (values .generate).required.exists_document
  obtain ⟨validate, validateRead, validateDecoded⟩ :=
    (values .validate).required.exists_document
  have encoded : family.encodeTotal encode = .object (membersOfSlots
      ["parse", "reason", "generate", "validate"]
      [some (encode (family.get .parse)), some (encode (family.get .reason)),
        some (encode (family.get .generate)),
        some (encode (family.get .validate))]) := rfl
  rw [Restores, encoded, totalDecoder, record_reread rfl rfl (by decide)]
  simp only [rereadSlots, parseRead, reasonRead, generateRead, validateRead,
    Option.bind_some, Option.map_some, parseDecoded, reasonDecoded,
    generateDecoded, validateDecoded, Option.bind_eq_bind]
  rfl

theorem stageKey_spelling (stage : Stage) :
    stageKey (Json.spelling stage.name) = some stage := by
  cases stage <;> rfl

/-- The family with the values that another has for some stages. -/
def filledFrom (start family : PerStage (Option α)) (stages : List Stage) :
    PerStage (Option α) :=
  stages.foldl (fun filled stage =>
    match family.get stage with
    | none => filled
    | some value => filled.set stage (some value)) start

theorem filledFrom_all (family : PerStage (Option α)) :
    filledFrom (all none) family Stage.all = family := by
  obtain ⟨_ | parse, _ | reason, _ | generate, _ | validate⟩ := family <;> rfl

/-- A map by stage is restored if its values are. -/
theorem map_restores (family : PerStage (Option α))
    (values : ∀ stage value, family.get stage = some value →
      decoder.Restores limit (encode value) value) :
    (mapDecoder decoder).Restores (limit + 1) (family.encodePartial encode)
      family := by
  have read : ∀ (stages : List Stage) (start : PerStage (Option α)),
      (Json.rereadMembers (stages.flatMap fun stage =>
        Json.optionalMember stage.name ((family.get stage).map encode))).bind
          (List.foldlM (fun filled (member : Spelling × Document) => do
            let stage ← stageKey member.1
            let value ← decoder limit member.2
            some (filled.set stage (some value))) start) =
        some (filledFrom start family stages) := by
    intro stages
    induction stages with
    | nil =>
        intro start
        rfl
    | cons stage stages ih =>
        intro start
        simp only [List.flatMap_cons, filledFrom, List.foldl_cons]
        cases given : family.get stage with
        | none => exact ih start
        | some value =>
            obtain ⟨document, reread, decoded⟩ :=
              (values stage value given).exists_document
            obtain ⟨members, rereadRest, filled⟩ :=
              Option.bind_eq_some_iff.mp (ih (start.set stage (some value)))
            have member : Json.optionalMember stage.name
                ((some value).map encode) = [(stage.name, encode value)] := rfl
            rw [member, List.singleton_append, Json.rereadMembers, reread,
              Option.bind_some, rereadRest, Option.map_some, Option.bind_some,
              List.foldlM_cons]
            simp only [stageKey_spelling, decoded, Option.bind_eq_bind,
              Option.bind_some]
            exact filled
  obtain ⟨members, reread, filled⟩ :=
    Option.bind_eq_some_iff.mp (read Stage.all (all none))
  simp only [Restores, encodePartial, Json.reread, reread, Option.map_some,
    Option.bind_some, mapDecoder]
  rw [filledFrom_all] at filled
  exact filled

end PerStage

/-! ## What may change -/

/-- What is read back of an output inside a number of brackets. -/
def Json.rereadOutput (limit : Nat) (output : Option Json) :
    Option (Option Json) :=
  (rereadSlot output).bind (absentOr payload limit)

def PerStage.rereadOutputs (limit : Nat)
    (outputs : PerStage (Option Json)) : Option (PerStage (Option Json)) := do
  let parse ← Json.rereadOutput limit outputs.parse
  let reason ← Json.rereadOutput limit outputs.reason
  let generate ← Json.rereadOutput limit outputs.generate
  let validate ← Json.rereadOutput limit outputs.validate
  some { parse, reason, generate, validate }

/-- What is read back of a run. -/
def Run.reread? (limit : Nat) (run : Run) : Option Run := do
  let temperature ← run.temperature.reread?
  let outputs ← run.outputs.rereadOutputs limit
  some { run with temperature, outputs }

theorem PerStage.partial_reread (limit : Nat)
    (outputs : PerStage (Option Json)) :
    (outputs.encodePartial fun output => output).reread.bind
        (partialDecoder payload (limit + 1)) =
      outputs.rereadOutputs limit := by
  have encoded : (outputs.encodePartial fun output => output) =
      .object (membersOfSlots ["parse", "reason", "generate", "validate"]
        [outputs.parse, outputs.reason, outputs.generate,
          outputs.validate]) := by
    obtain ⟨_ | parse, _ | reason, _ | generate, _ | validate⟩ := outputs <;>
      rfl
  rw [encoded, partialDecoder, record_reread rfl rfl (by decide)]
  simp only [rereadOutputs, Json.rereadOutput, rereadSlots]
  cases rereadSlot outputs.parse with
  | none => rfl
  | some parse =>
  cases rereadSlot outputs.reason with
  | none => simp
  | some reason =>
  cases rereadSlot outputs.generate with
  | none => simp
  | some generate =>
  cases rereadSlot outputs.validate with
  | none => simp
  | some validate => rfl

/-- A run is read back up to its temperature and its outputs. -/
theorem Run.decoder_reread (limit : Nat) (run : Run) :
    run.encode.reread.bind (decoder (limit + 2)) = run.reread? limit := by
  obtain ⟨id, idRead, idDecoded⟩ :=
    (uuid_restores (limit + 1) run.id).required.exists_document
  obtain ⟨inputText, inputTextRead, inputTextDecoded⟩ :=
    (text_restores (limit + 1) run.inputText).required.exists_document
  obtain ⟨mode, modeRead, modeDecoded⟩ :=
    (ProgressionMode.decoder_restores (limit + 1)
      run.mode).required.exists_document
  have modelsRestored :
      (PerStage.mapDecoder (Decoder.optional Decoder.text)).Restores
        (limit + 1) (run.models.encodePartial fun model =>
          Json.orNull (model.map .string)) run.models := by
    apply PerStage.map_restores
    intro stage model _
    cases model <;> rfl
  obtain ⟨models, modelsRead, modelsDecoded⟩ :=
    (modelsRestored.defaulting (.all none)).exists_document
  obtain ⟨states, statesRead, statesDecoded⟩ :=
    ((PerStage.total_restores run.states
      fun stage => StageState.decoder_restores limit
        (run.states.get stage)).defaulting (.all .idle)).exists_document
  obtain ⟨attempt, attemptRead, attemptDecoded⟩ :=
    (word32_restores (limit + 1) run.attempt).required.exists_document
  obtain ⟨durations, durationsRead, durationsDecoded⟩ :=
    ((PerStage.map_restores run.durations
      fun _ duration _ => word64_restores limit duration).defaulting
        (.all none)).exists_document
  obtain ⟨status, statusRead, statusDecoded⟩ :=
    (RunStatus.decoder_restores (limit + 1)
      run.status).required.exists_document
  obtain ⟨error, errorRead, errorDecoded⟩ :=
    (optionalText_restores (limit + 1) run.error).exists_document
  have encoded : run.encode = .object (membersOfSlots
      ["id", "input_text", "temperature", "progression_mode", "models",
        "stage_outputs", "stage_states", "attempt_number", "metrics",
        "status", "error"]
      [some run.id.encode, some (.string run.inputText),
        some (.double run.temperature), some run.mode.encode,
        some (run.models.encodePartial fun model =>
          Json.orNull (model.map .string)),
        some (run.outputs.encodePartial fun output => output),
        some (run.states.encodeTotal StageState.encode),
        some (.word32 run.attempt),
        some (run.durations.encodePartial Json.word64),
        some run.status.encode, run.error.map .string]) := by
    simp [encode, membersOfSlots, Json.optionalMember]
  have temperatureSlot : rereadSlot (some (.double run.temperature)) =
      (Json.double run.temperature).reread.map some := rfl
  have outputsSlot : rereadSlot
      (some (run.outputs.encodePartial fun output => output)) =
        (run.outputs.encodePartial fun output => output).reread.map some :=
    rfl
  -- All fields are read before the first is decoded, so the two that may fail
  -- to be read are split off first.
  rw [encoded, decoder, record_reread rfl rfl (by decide), reread?,
    Double.reread?, ← PerStage.partial_reread limit run.outputs]
  simp only [rereadSlots, idRead, inputTextRead, temperatureSlot, modeRead,
    modelsRead, outputsSlot, statesRead, attemptRead, durationsRead,
    statusRead, errorRead, Option.bind_some, Option.map_some]
  cases (Json.double run.temperature).reread with
  | none => rfl
  | some temperature =>
  cases (run.outputs.encodePartial fun output => output).reread with
  | none => simp
  | some outputs =>
    have temperatureDecoded :
        Decoder.required Decoder.double (limit + 1) (some temperature) =
          Decoder.double 0 temperature :=
      congrFun (Decoder.double_eq (limit + 1)) temperature
    have outputsDecoded :
        Decoder.defaulting (.all none) (PerStage.partialDecoder payload)
          (limit + 1) (some outputs) =
            PerStage.partialDecoder payload (limit + 1) outputs := rfl
    simp only [Option.map_some, Option.bind_some, idDecoded,
      inputTextDecoded, temperatureDecoded, modeDecoded, modelsDecoded,
      outputsDecoded, statesDecoded, attemptDecoded, durationsDecoded,
      statusDecoded, errorDecoded, Option.bind_eq_bind]

/-! ## Items -/

/-- What is read back of a stored item. -/
def HistoryItem.reread? (item : HistoryItem) : Option HistoryItem :=
  (item.run.reread? 123).map fun run => { item with run }

theorem HistoryItem.decoder_reread {item : HistoryItem}
    (isMoment : item.recordedAt.IsMoment) :
    item.encode.reread.bind (decoder 126) = item.reread? := by
  obtain ⟨id, idRead, idDecoded⟩ :=
    (uuid_restores 125 item.id).required.exists_document
  obtain ⟨recordedAt, recordedAtRead, recordedAtDecoded⟩ :=
    (timestamp_restores 125 isMoment).required.exists_document
  have encoded : item.encode = .object (membersOfSlots
      ["id", "recorded_at", "run"]
      [some item.id.encode, some item.recordedAt.encode,
        some item.run.encode]) := rfl
  have runSlot : rereadSlot (some item.run.encode) =
      item.run.encode.reread.map some := rfl
  rw [encoded, decoder, record_reread rfl rfl (by decide), reread?,
    ← Run.decoder_reread 123 item.run]
  simp only [rereadSlots, idRead, recordedAtRead, runSlot, Option.bind_some]
  cases item.run.encode.reread with
  | none => rfl
  | some run =>
    have runDecoded : Decoder.required Run.decoder 125 (some run) =
        Run.decoder 125 run := rfl
    simp only [Option.map_some, Option.bind_some, idDecoded,
      recordedAtDecoded, runDecoded, Option.bind_eq_bind]
    cases Run.decoder 125 run <;> rfl

theorem History.parse?_encodeItems {items : List HistoryItem}
    (moments : ∀ item ∈ items, item.recordedAt.IsMoment) :
    History.itemsDecoder.parse? (encodeItems items).text =
      items.mapM HistoryItem.reread? := by
  rw [Decoder.parse?, Json.parse?_text]
  exact Decoder.list_reread fun item isItem =>
    HistoryItem.decoder_reread (moments item isItem)

end AgentPipeline
