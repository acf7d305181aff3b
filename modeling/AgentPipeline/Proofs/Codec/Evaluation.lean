import AgentPipeline.Codec.Evaluation
import AgentPipeline.Proofs.Codec.Restore

/-!
# Restoring dashboards

A dashboard comes back from its text as it was, but for the table of metrics,
which the service gives: the table decides by itself whether it comes back.
Main statements: `Dashboard.parse?_text`, `Dashboard.parse?_text_of_keeps`.
-/

namespace AgentPipeline

open Decoder

theorem EvaluatorStatus.decoder_restores (limit : Nat)
    (status : EvaluatorStatus) :
    EvaluatorStatus.decoder.Restores limit status.encode status := by
  cases status <;> rfl

theorem TokenCounters.decoder_restores (limit : Nat)
    (tokens : TokenCounters) :
    TokenCounters.decoder.Restores (limit + 1) tokens.encode tokens := by
  have word (value : UInt64) :=
    (word64_restores limit value).defaulting 0
  have encoded : tokens.encode = .object (membersOfSlots
      ["prompt_tokens", "completion_tokens", "total_tokens"]
      [some (.word64 tokens.prompt), some (.word64 tokens.completion),
        some (.word64 tokens.total)]) := rfl
  rw [encoded]
  exact record_restores rfl rfl (by decide)
    ((word tokens.prompt).three (word tokens.completion) (word tokens.total)
      TokenCounters.mk)

theorem ItemProgress.decoder_restores (limit : Nat) (item : ItemProgress) :
    ItemProgress.decoder.Restores (limit + 2) item.encode item := by
  have statuses :=
    (textMap_restores item.stageStatuses
      fun entry _ => text_restores limit entry.2).defaulting .empty
  have tokens :=
    (TokenCounters.decoder_restores limit item.tokens).defaulting .zero
  have available :=
    (flag_restores (limit + 1) item.recordAvailable).defaulting false
  have encoded : item.encode = .object (membersOfSlots
      ["stage_statuses", "tokens", "record_available"]
      [some (.ofTextMap .string item.stageStatuses), some item.tokens.encode,
        some (.bool item.recordAvailable)]) := rfl
  rw [encoded]
  exact record_restores rfl rfl (by decide)
    (statuses.three tokens available ItemProgress.mk)

theorem RunProgress.decoder_restores (limit : Nat) (progress : RunProgress) :
    RunProgress.decoder.Restores (limit + 4) progress.encode progress := by
  have items :=
    (wordMap_restores progress.items
      fun entry _ => ItemProgress.decoder_restores limit entry.2).defaulting
        .empty
  have tokens :=
    (TokenCounters.decoder_restores (limit + 2) progress.tokens).defaulting
      .zero
  have encoded : progress.encode = .object (membersOfSlots
      ["items", "tokens"]
      [some (.ofWordMap ItemProgress.encode progress.items),
        some progress.tokens.encode]) := rfl
  rw [encoded]
  exact record_restores rfl rfl (by decide) (items.two tokens RunProgress.mk)

/-- The name of a moment is read back, and may or may not name a moment. -/
private theorem exists_document_timestamp (limit : Nat) (moment : Timestamp) :
    ∃ document, rereadSlot (some moment.encode) = some document ∧
      required Timestamp.decoder limit document =
        Timestamp.parse? moment.print := by
  refine ⟨some (.string (Json.spelling moment.print)), rfl, ?_⟩
  simp only [required, Option.bind_some, Timestamp.decoder, text,
    Json.spelling]

namespace EvaluatorRun

/-- What is read back of the table of metrics of a run, inside a number of
brackets. -/
def rereadMetrics (limit : Nat) (metrics : Option Json) :
    Option (Option Json) :=
  (rereadSlot metrics).bind (Decoder.absentOr Decoder.payload limit)

structure HasTimes (run : EvaluatorRun) : Prop where
  startedAt : run.startedAt.IsNameable
  updatedAt : run.updatedAt.IsNameable

/-- What is read back of a run, inside a number of brackets. -/
def reread? (limit : Nat) (run : EvaluatorRun) : Option EvaluatorRun :=
  run.encode.reread.bind (decoder limit)

/-- A run is read back up to its table of metrics and its times. -/
theorem reread?_eq (run : EvaluatorRun) (limit : Nat) :
    run.reread? (limit + 5) =
      (rereadMetrics (limit + 4) run.metrics).bind fun metrics =>
        (Timestamp.parse? run.startedAt.print).bind fun startedAt =>
          (Timestamp.parse? run.updatedAt.print).map fun updatedAt =>
            { run with metrics, startedAt, updatedAt } := by
  obtain ⟨kind, kindRead, kindDecoded⟩ :=
    (text_restores (limit + 4) run.kind).required.exists_document
  obtain ⟨id, idRead, idDecoded⟩ :=
    (text_restores (limit + 4) run.id).required.exists_document
  obtain ⟨status, statusRead, statusDecoded⟩ :=
    (EvaluatorStatus.decoder_restores (limit + 4)
      run.status).required.exists_document
  obtain ⟨cursor, cursorRead, cursorDecoded⟩ :=
    (word64_restores (limit + 4) run.cursor).required.exists_document
  obtain ⟨progress, progressRead, progressDecoded⟩ :=
    ((RunProgress.decoder_restores limit run.progress).defaulting
      .empty).exists_document
  obtain ⟨itemLimit, itemLimitRead, itemLimitDecoded⟩ :=
    (word32_restores (limit + 4) run.itemLimit).required.exists_document
  obtain ⟨model, modelRead, modelDecoded⟩ :=
    (optionalText_restores (limit + 4) run.model).exists_document
  obtain ⟨automatic, automaticRead, automaticDecoded⟩ :=
    ((flag_restores (limit + 4) run.autoSuspended).defaulting
      false).exists_document
  obtain ⟨error, errorRead, errorDecoded⟩ :=
    (optionalText_restores (limit + 4) run.error).exists_document
  obtain ⟨started, startedRead, startedDecoded⟩ :=
    exists_document_timestamp (limit + 4) run.startedAt
  obtain ⟨updated, updatedRead, updatedDecoded⟩ :=
    exists_document_timestamp (limit + 4) run.updatedAt
  have encoded : run.encode = .object (membersOfSlots
      ["evaluator_kind", "run_id", "status", "cursor", "progress",
        "metrics_table", "item_limit", "model", "auto_suspended", "error",
        "started_at", "updated_at"]
      [some (.string run.kind), some (.string run.id),
        some run.status.encode, some (.word64 run.cursor),
        some run.progress.encode, run.metrics, some (.word32 run.itemLimit),
        run.model.map .string, some (.bool run.autoSuspended),
        run.error.map .string, some run.startedAt.encode,
        some run.updatedAt.encode]) := by
    simp [encode, membersOfSlots, Json.optionalMember]
  rw [reread?, encoded, decoder, record_reread rfl rfl (by decide),
    rereadMetrics]
  cases metricsRead : rereadSlot run.metrics with
  | none =>
      simp [rereadSlots, kindRead, idRead, statusRead, cursorRead,
        progressRead, metricsRead]
  | some metrics =>
      simp only [rereadSlots, kindRead, idRead, statusRead, cursorRead,
        progressRead, metricsRead, itemLimitRead, modelRead, automaticRead,
        errorRead, startedRead, updatedRead, Option.bind_some,
        Option.map_some, kindDecoded, idDecoded, statusDecoded,
        cursorDecoded, progressDecoded, itemLimitDecoded, modelDecoded,
        automaticDecoded, errorDecoded, startedDecoded, updatedDecoded,
        Option.bind_eq_bind]
      generalize Decoder.absentOr Decoder.payload (limit + 4) metrics = table
      generalize Timestamp.parse? run.startedAt.print = startedAt
      generalize Timestamp.parse? run.updatedAt.print = updatedAt
      cases table <;> cases startedAt <;> cases updatedAt <;> rfl

/-- A run is read back up to its table of metrics. -/
theorem decoder_reread {run : EvaluatorRun} (times : run.HasTimes)
    (limit : Nat) :
    run.encode.reread.bind (decoder (limit + 5)) =
      (rereadMetrics (limit + 4) run.metrics).map fun metrics =>
        { run with metrics } := by
  have read := run.reread?_eq limit
  rw [Timestamp.parse?_print times.startedAt,
    Timestamp.parse?_print times.updatedAt] at read
  exact read.trans (by cases rereadMetrics (limit + 4) run.metrics <;> rfl)

end EvaluatorRun

theorem RunSnapshot.encode_eq (snapshot : RunSnapshot) :
    snapshot.encode = .object (membersOfSlots
      ["status", "cursor", "items", "tokens", "metrics_table", "error"]
      [some snapshot.status.encode, some (.word64 snapshot.cursor),
        some (.ofWordMap ItemProgress.encode snapshot.items),
        snapshot.tokens.map TokenCounters.encode, snapshot.metrics,
        snapshot.error.map .string]) := by
  simp [encode, membersOfSlots, Json.optionalMember]

/-- The answer to a poll is read back up to its table of metrics. -/
theorem RunSnapshot.decoder_reread (snapshot : RunSnapshot) (limit : Nat) :
    snapshot.encode.reread.bind (decoder (limit + 4)) =
      (EvaluatorRun.rereadMetrics (limit + 3) snapshot.metrics).map
        fun metrics => { snapshot with metrics } := by
  obtain ⟨status, statusRead, statusDecoded⟩ :=
    (EvaluatorStatus.decoder_restores (limit + 3)
      snapshot.status).required.exists_document
  obtain ⟨cursor, cursorRead, cursorDecoded⟩ :=
    (word64_restores (limit + 3) snapshot.cursor).required.exists_document
  obtain ⟨items, itemsRead, itemsDecoded⟩ :=
    ((wordMap_restores snapshot.items
      fun entry _ => ItemProgress.decoder_restores limit entry.2).defaulting
        .empty).exists_document
  have tokensRestored : SlotRestores (absentOr TokenCounters.decoder)
      (limit + 3) (snapshot.tokens.map TokenCounters.encode)
      snapshot.tokens :=
    optional_restores
      (fun tokens _ => TokenCounters.decoder_restores (limit + 2) tokens)
      (by rintro _ _ ⟨⟩)
  obtain ⟨tokens, tokensRead, tokensDecoded⟩ :=
    tokensRestored.exists_document
  obtain ⟨error, errorRead, errorDecoded⟩ :=
    (optionalText_restores (limit + 3) snapshot.error).exists_document
  rw [snapshot.encode_eq, decoder, record_reread rfl rfl (by decide),
    EvaluatorRun.rereadMetrics]
  cases metricsRead : rereadSlot snapshot.metrics with
  | none =>
      simp [rereadSlots, statusRead, cursorRead, itemsRead, tokensRead,
        metricsRead]
  | some metrics =>
      simp only [rereadSlots, statusRead, cursorRead, itemsRead, tokensRead,
        metricsRead, errorRead, Option.bind_some, Option.map_some,
        statusDecoded, cursorDecoded, ItemProgress.mapDecoder, itemsDecoded,
        tokensDecoded, errorDecoded, Option.bind_eq_bind]
      generalize Decoder.absentOr Decoder.payload (limit + 3) metrics = table
      cases table <;> rfl

namespace Dashboard

/-- The times of the run have texts. -/
def HasTimes (dashboard : Dashboard) : Prop :=
  ∀ run, dashboard.run = some run → run.HasTimes

/-- The table of metrics comes back from a stored dashboard as it was. -/
def KeepsMetrics (metrics : Option Json) : Prop :=
  EvaluatorRun.rereadMetrics 125 metrics = some metrics

/-- What is read back of the run of a stored dashboard. -/
def rereadRun : Option EvaluatorRun → Option (Option EvaluatorRun)
  | none => some none
  | some run => (EvaluatorRun.rereadMetrics 125 run.metrics).map
      fun metrics => some { run with metrics }

/-- What a session finds of the run of a stored dashboard, whatever its
times. -/
def foundRun : Option EvaluatorRun → Option (Option EvaluatorRun)
  | none => some none
  | some run => (run.reread? 126).map some

private theorem rereadSlot_run (run : Option EvaluatorRun) :
    (rereadSlot (run.map EvaluatorRun.encode)).bind
      (absentOr EvaluatorRun.decoder 126) = foundRun run := by
  cases run with
  | none => rfl
  | some run => exact absentOr_reread (by rintro ⟨⟩) EvaluatorRun.decoder 126

theorem parse?_text_eq (dashboard : Dashboard) :
    decoder.parse? dashboard.encode.text =
      (foundRun dashboard.run).map fun run => { dashboard with run } := by
  obtain ⟨selected, itemLimits, run⟩ := dashboard
  obtain ⟨selectedSlot, selectedRead, selectedDecoded⟩ :=
    (optionalText_restores 126 selected).exists_document
  obtain ⟨limits, limitsRead, limitsDecoded⟩ :=
    ((textMap_restores itemLimits
      fun entry _ => word32_restores 125 entry.2).defaulting
        .empty).exists_document
  have encoded : encode ⟨selected, itemLimits, run⟩ =
      .object (membersOfSlots ["selected_evaluator", "item_limits", "run"]
        [selected.map .string, some (.ofTextMap .word32 itemLimits),
          run.map EvaluatorRun.encode]) := by
    simp [encode, membersOfSlots, Json.optionalMember]
  have runDecoded := rereadSlot_run run
  rw [Decoder.parse?, Json.parse?_text, encoded, decoder,
    show Json.depthLimit = 126 + 1 from rfl,
    record_reread rfl rfl (by decide)]
  simp only [rereadSlots, selectedRead, limitsRead, Option.bind_some,
    ← runDecoded]
  cases rereadSlot (run.map EvaluatorRun.encode) with
  | none => rfl
  | some slot =>
      simp only [Option.map_some, Option.bind_some, selectedDecoded,
        limitsDecoded, Option.bind_eq_bind]
      cases absentOr EvaluatorRun.decoder 126 slot <;> rfl

/-- The run that a session finds is the one that was stored, up to its table
of metrics and its times. -/
theorem run_parse?_text {dashboard : Dashboard} {run : EvaluatorRun}
    (isRun : ((decoder.parse? dashboard.encode.text).getD .empty).run =
      some run) :
    ∃ kept metrics startedAt updatedAt, dashboard.run = some kept ∧
      EvaluatorRun.rereadMetrics 125 kept.metrics = some metrics ∧
      Timestamp.parse? kept.startedAt.print = some startedAt ∧
      Timestamp.parse? kept.updatedAt.print = some updatedAt ∧
      run = { kept with metrics, startedAt, updatedAt } := by
  rw [parse?_text_eq] at isRun
  cases present : dashboard.run with
  | none =>
      rw [present] at isRun
      cases isRun
  | some kept =>
      have read := kept.reread?_eq 121
      rw [present, foundRun] at isRun
      cases found : kept.reread? 126 with
      | none =>
          rw [found] at isRun
          cases isRun
      | some other =>
          rw [found] at isRun read
          cases isRun
          obtain ⟨metrics, isMetrics, read⟩ :=
            Option.bind_eq_some_iff.mp read.symm
          obtain ⟨startedAt, isStarted, read⟩ :=
            Option.bind_eq_some_iff.mp read
          obtain ⟨updatedAt, isUpdated, read⟩ :=
            Option.map_eq_some_iff.mp read
          exact ⟨kept, metrics, startedAt, updatedAt, rfl, isMetrics,
            isStarted, isUpdated, read.symm⟩

/-- A dashboard is read back up to the table of metrics of its run. -/
theorem parse?_text {dashboard : Dashboard} (times : dashboard.HasTimes) :
    decoder.parse? dashboard.encode.text =
      (rereadRun dashboard.run).map fun run => { dashboard with run } := by
  have isFound : foundRun dashboard.run = rereadRun dashboard.run := by
    cases present : dashboard.run with
    | none => rfl
    | some run =>
        rw [foundRun, EvaluatorRun.reread?,
          EvaluatorRun.decoder_reread (times run present) 121, Option.map_map]
        rfl
  rw [parse?_text_eq, isFound]

/-- A dashboard whose table of metrics comes back comes back whole. -/
theorem parse?_text_of_keeps
    {dashboard : Dashboard} (times : dashboard.HasTimes)
    (keeps : ∀ run, dashboard.run = some run → KeepsMetrics run.metrics) :
    decoder.parse? dashboard.encode.text = some dashboard := by
  rw [parse?_text times]
  obtain ⟨selected, itemLimits, run⟩ := dashboard
  cases run with
  | none => rfl
  | some run =>
      have kept : EvaluatorRun.rereadMetrics 125 run.metrics =
          some run.metrics := keeps run rfl
      simp only [rereadRun, kept, Option.map_some]

end Dashboard

end AgentPipeline
