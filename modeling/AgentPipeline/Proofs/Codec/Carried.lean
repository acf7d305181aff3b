import AgentPipeline.Proofs.Codec.Evaluation
import AgentPipeline.Proofs.Codec.Gives
import AgentPipeline.Proofs.History.Reopen

/-!
# Records that carry payloads

The outputs of a run and the table of metrics of an evaluator run are payloads.
A record is held if what it carries are payloads and its times are moments of
the calendar.  It is then restored from its text, if its floating-point
numbers are, and is nested too deeply only if a payload is; and what was
decoded is held.
-/

namespace AgentPipeline

open Decoder

/-! ## Runs -/

namespace PerStage

variable {α : Type} {encode : α → Json} {limit : Nat}

theorem nests_encodePartial {family : PerStage (Option α)} :
    (family.encodePartial encode).Nests (limit + 1) ↔
      ∀ stage value, family.get stage = some value →
        (encode value).Nests limit := by
  rw [encodePartial, Json.nests_object, List.forall_mem_flatMap]
  simp only [Json.forall_mem_optionalMember, Stage.mem_all, forall_const,
    Option.map_eq_some_iff, forall_exists_index, and_imp,
    forall_apply_eq_imp_iff₂]

theorem nests_encodeTotal {family : PerStage α} :
    (family.encodeTotal encode).Nests (limit + 1) ↔
      ∀ stage, (encode (family.get stage)).Nests limit := by
  rw [encodeTotal, Json.nests_object, List.forall_mem_map]
  simp only [Stage.mem_all, forall_const]

/-- The outputs that a decoder gives are payloads. -/
theorem partial_gives :
    (partialDecoder payload).Gives (limit + 1) fun outputs =>
      ∀ stage output, outputs.get stage = some output →
        output.IsPayload ∧ output.Nests limit := by
  refine record_gives fun slots outputs slotsHeld built => ?_
  split at built
  next parse reason generate validate =>
    simp only [Option.bind_eq_bind, Option.bind_eq_some_iff] at built
    obtain ⟨parsed, isParsed, reasoned, isReasoned, generated, isGenerated,
      validated, isValidated, same⟩ := built
    cases same
    intro stage
    cases stage with
    | parse => exact optionalPayload_gives (slotsHeld parse (by simp)) isParsed
    | reason =>
        exact optionalPayload_gives (slotsHeld reason (by simp)) isReasoned
    | generate =>
        exact optionalPayload_gives (slotsHeld generate (by simp)) isGenerated
    | validate =>
        exact optionalPayload_gives (slotsHeld validate (by simp)) isValidated
  next => cases built

end PerStage

namespace Run

def floats (run : Run) : List Double :=
  run.temperature :: Stage.all.flatMap fun stage =>
    Json.optionalFloats (run.outputs.get stage)

def IsHeld (run : Run) : Prop :=
  ∀ stage output, run.outputs.get stage = some output → output.IsPayload

theorem nests_encode {run : Run} {limit : Nat} :
    run.encode.Nests (limit + 2) ↔
      ∀ stage output, run.outputs.get stage = some output →
        output.Nests limit := by
  have models : (run.models.encodePartial fun model =>
      Json.orNull (model.map .string)).Nests (limit + 1) := by
    refine PerStage.nests_encodePartial.mpr fun stage model _ => ?_
    cases model <;> simp [Json.orNull]
  have states : (run.states.encodeTotal StageState.encode).Nests
      (limit + 1) :=
    PerStage.nests_encodeTotal.mpr fun stage => Json.nests_string _
  have durations : (run.durations.encodePartial Json.word64).Nests
      (limit + 1) :=
    PerStage.nests_encodePartial.mpr fun stage duration _ =>
      Json.nests_word64 duration
  have outputs : (run.outputs.encodePartial fun output => output).Nests
      (limit + 1) ↔ ∀ stage output, run.outputs.get stage = some output →
        output.Nests limit := PerStage.nests_encodePartial
  rw [encode, Json.nests_object, ← outputs]
  simp only [List.forall_mem_append, List.forall_mem_cons,
    Json.forall_mem_optionalMember]
  simp [models, states, durations, Uuid.encode, ProgressionMode.encode,
    RunStatus.encode]

/-- A run whose outputs can be carried is read back from a stored history as
it was. -/
theorem IsHeld.isKept {run : Run} (isHeld : run.IsHeld)
    (readsBack : ∀ number ∈ run.floats, number.ReadsBack)
    (nests : run.encode.Nests 125) : run.IsKept := by
  rw [floats, List.forall_mem_cons] at readsBack
  refine ⟨double_restores 0 readsBack.1, fun stage output present => ?_⟩
  have isPayload := isHeld stage output present
  have floatsReadBack : ∀ number ∈ output.floats, number.ReadsBack := by
    intro number isNumber
    refine readsBack.2 number (List.mem_flatMap.mpr
      ⟨stage, stage.mem_all, ?_⟩)
    simpa [Json.optionalFloats, present] using isNumber
  exact ⟨isPayload.given, payload_restores isPayload.isHeld floatsReadBack
    (nests_encode.mp nests stage output present)⟩

theorem decoder_gives {limit : Nat} :
    decoder.Gives (limit + 2) fun run =>
      run.IsHeld ∧ run.encode.Nests (limit + 2) := by
  have outputsGiven : decoder.Gives (limit + 2) fun run =>
      ∀ stage output, run.outputs.get stage = some output →
        output.IsPayload ∧ output.Nests limit := by
    refine record_gives fun slots run slotsHeld built => ?_
    split at built
    next _ _ _ _ _ outputs _ _ _ _ _ =>
      simp only [Option.bind_eq_bind, Option.bind_eq_some_iff] at built
      obtain ⟨_, -, _, -, _, -, _, -, _, -, given, isGiven, _, -, _, -, _, -,
        _, -, _, -, same⟩ := built
      cases same
      refine PerStage.partial_gives.defaulting ?_
        (slotsHeld outputs (by simp)) isGiven
      intro stage output present
      cases stage <;> cases present
    next => cases built
  intro document run isHeld decoded
  have given := outputsGiven isHeld decoded
  exact ⟨fun stage output present => (given stage output present).1,
    nests_encode.mpr fun stage output present =>
      (given stage output present).2⟩

end Run

namespace HistoryItem

def floats (item : HistoryItem) : List Double :=
  item.run.floats

structure IsHeld (item : HistoryItem) : Prop where
  recordedAt : item.recordedAt.IsMoment
  run : item.run.IsHeld

theorem nests_encode {item : HistoryItem} {limit : Nat} :
    item.encode.Nests (limit + 1) ↔ item.run.encode.Nests limit := by
  rw [encode, Json.nests_object]
  simp [Uuid.encode, Timestamp.encode]

theorem decoder_gives {limit : Nat} :
    decoder.Gives (limit + 3) fun item =>
      item.IsHeld ∧ item.encode.Nests (limit + 3) := by
  refine record_gives fun slots item slotsHeld built => ?_
  split at built
  next id recordedAt run =>
    simp only [Option.bind_eq_bind, Option.bind_eq_some_iff] at built
    obtain ⟨_, -, moment, isMoment, given, isGiven, same⟩ := built
    cases same
    have recordedAtHeld := timestamp_gives.required
      (slotsHeld recordedAt (by simp)) isMoment
    obtain ⟨runHeld, runNests⟩ := Run.decoder_gives.required
      (slotsHeld run (by simp)) isGiven
    exact ⟨⟨recordedAtHeld, runHeld⟩, nests_encode.mpr runNests⟩
  next => cases built

end HistoryItem

theorem History.parse?_encodeItems_of_isHeld {items : List HistoryItem}
    (isHeld : ∀ item ∈ items, item.IsHeld)
    (readsBack : ∀ number ∈ items.flatMap HistoryItem.floats,
      number.ReadsBack)
    (nests : (encodeItems items).Nests Json.depthLimit) :
    itemsDecoder.parse? (encodeItems items).text = some items := by
  rw [parse?_encodeItems fun item isItem => (isHeld item isItem).recordedAt]
  refine mapM_eq_self_iff.mpr fun item isItem => ?_
  have itemNests : item.encode.Nests 126 :=
    Json.nests_array.mp nests item.encode (List.mem_map_of_mem isItem)
  exact (HistoryItem.reread?_eq_self_iff item).mpr
    ((isHeld item isItem).run.isKept
      (fun number isNumber =>
        readsBack number (List.mem_flatMap.mpr ⟨item, isItem, isNumber⟩))
      (HistoryItem.nests_encode.mp itemNests))

/-! ## Evaluator runs -/

theorem TokenCounters.nests_encode (tokens : TokenCounters) (limit : Nat) :
    tokens.encode.Nests (limit + 1) := by
  rw [encode, Json.nests_object]
  simp

theorem ItemProgress.nests_encode (item : ItemProgress) (limit : Nat) :
    item.encode.Nests (limit + 2) := by
  rw [encode, Json.nests_object]
  simp [Json.nests_ofTextMap, item.tokens.nests_encode]

theorem ItemProgress.nests_ofWordMap (items : SortedMap UInt32 ItemProgress)
    (limit : Nat) : (Json.ofWordMap encode items).Nests (limit + 3) :=
  Json.nests_ofWordMap.mpr fun entry _ => entry.2.nests_encode limit

theorem RunProgress.nests_encode (progress : RunProgress) (limit : Nat) :
    progress.encode.Nests (limit + 4) := by
  rw [encode, Json.nests_object]
  simp [ItemProgress.nests_ofWordMap, progress.tokens.nests_encode]

namespace EvaluatorRun

def floats (run : EvaluatorRun) : List Double :=
  Json.optionalFloats run.metrics

structure IsHeld (run : EvaluatorRun) : Prop where
  metrics : ∀ table, run.metrics = some table → table.IsPayload
  startedAt : run.startedAt.IsMoment
  updatedAt : run.updatedAt.IsMoment

theorem nests_encode {run : EvaluatorRun} {limit : Nat} :
    run.encode.Nests (limit + 5) ↔
      ∀ table, run.metrics = some table → table.Nests (limit + 4) := by
  rw [encode, Json.nests_object]
  simp only [List.forall_mem_append, List.forall_mem_cons,
    Json.forall_mem_optionalMember]
  simp [EvaluatorStatus.encode, Timestamp.encode,
    run.progress.nests_encode]

theorem decoder_restores {run : EvaluatorRun} {limit : Nat}
    (isHeld : run.IsHeld)
    (readsBack : ∀ number ∈ run.floats, number.ReadsBack)
    (nests : run.encode.Nests (limit + 5)) :
    run.reread? (limit + 5) = some run := by
  have metrics : rereadMetrics (limit + 4) run.metrics = some run.metrics :=
    optionalPayload_restores isHeld.metrics readsBack
      (nests_encode.mp nests)
  rw [reread?_eq, metrics,
    Timestamp.parse?_print_of_isMoment isHeld.startedAt,
    Timestamp.parse?_print_of_isMoment isHeld.updatedAt]
  rfl

theorem decoder_gives {limit : Nat} :
    decoder.Gives (limit + 5) fun run =>
      run.IsHeld ∧ run.encode.Nests (limit + 5) := by
  refine record_gives fun slots run slotsHeld built => ?_
  split at built
  next _ _ _ _ _ metrics _ _ _ _ startedAt updatedAt =>
    simp only [Option.bind_eq_bind, Option.bind_eq_some_iff] at built
    obtain ⟨_, -, _, -, _, -, _, -, _, -, table, isTable, _, -, _, -, _, -,
      _, -, started, isStarted, updated, isUpdated, same⟩ := built
    cases same
    have tableGiven := optionalPayload_gives
      (slotsHeld metrics (by simp)) isTable
    have startedGiven := timestamp_gives.required
      (slotsHeld startedAt (by simp)) isStarted
    have updatedGiven := timestamp_gives.required
      (slotsHeld updatedAt (by simp)) isUpdated
    exact ⟨⟨fun value present => (tableGiven value present).1, startedGiven,
      updatedGiven⟩, nests_encode.mpr fun value present =>
        (tableGiven value present).2⟩
  next => cases built

end EvaluatorRun

namespace Dashboard

def floats (dashboard : Dashboard) : List Double :=
  dashboard.run.toList.flatMap EvaluatorRun.floats

def IsHeld (dashboard : Dashboard) : Prop :=
  ∀ run, dashboard.run = some run → run.IsHeld

theorem nests_encode {dashboard : Dashboard} {limit : Nat} :
    dashboard.encode.Nests (limit + 2) ↔
      ∀ run, dashboard.run = some run → run.encode.Nests (limit + 1) := by
  rw [encode, Json.nests_object]
  simp only [List.forall_mem_append, List.forall_mem_cons,
    Json.forall_mem_optionalMember]
  simp [Json.nests_ofTextMap]

theorem parse?_text_of_isHeld {dashboard : Dashboard}
    (isHeld : dashboard.IsHeld)
    (readsBack : ∀ number ∈ dashboard.floats, number.ReadsBack)
    (nests : dashboard.encode.Nests Json.depthLimit) :
    decoder.parse? dashboard.encode.text = some dashboard := by
  rw [parse?_text_eq]
  obtain ⟨selected, itemLimits, run⟩ := dashboard
  cases run with
  | none => rfl
  | some run =>
      have read : run.reread? (121 + 5) = some run :=
        EvaluatorRun.decoder_restores (isHeld run rfl)
          (by simpa [floats] using readsBack) (nests_encode.mp nests run rfl)
      simp only [foundRun, read, Option.map_some]

theorem decoder_gives {limit : Nat} :
    decoder.Gives (limit + 6) fun dashboard =>
      dashboard.IsHeld ∧ dashboard.encode.Nests (limit + 6) := by
  refine record_gives fun slots dashboard slotsHeld built => ?_
  split at built
  next selected itemLimits run =>
    simp only [Option.bind_eq_bind, Option.bind_eq_some_iff] at built
    obtain ⟨_, -, _, -, given, isGiven, same⟩ := built
    cases same
    have runGiven := EvaluatorRun.decoder_gives.absentOr
      (slotsHeld run (by simp)) isGiven
    exact ⟨fun run present => (runGiven run present).1,
      nests_encode.mpr fun run present => (runGiven run present).2⟩
  next => cases built

end Dashboard

namespace RunSnapshot

def floats (snapshot : RunSnapshot) : List Double :=
  Json.optionalFloats snapshot.metrics

def IsHeld (snapshot : RunSnapshot) : Prop :=
  ∀ table, snapshot.metrics = some table → table.IsPayload

theorem nests_encode {snapshot : RunSnapshot} {limit : Nat} :
    snapshot.encode.Nests (limit + 4) ↔
      ∀ table, snapshot.metrics = some table → table.Nests (limit + 3) := by
  rw [encode, Json.nests_object]
  simp only [List.forall_mem_append, List.forall_mem_cons,
    Json.forall_mem_optionalMember]
  simp [EvaluatorStatus.encode, ItemProgress.nests_ofWordMap,
    TokenCounters.nests_encode]

theorem decoder_restores {snapshot : RunSnapshot} {limit : Nat}
    (isHeld : snapshot.IsHeld)
    (readsBack : ∀ number ∈ snapshot.floats, number.ReadsBack)
    (nests : snapshot.encode.Nests (limit + 4)) :
    decoder.Restores (limit + 4) snapshot.encode snapshot := by
  have metrics : EvaluatorRun.rereadMetrics (limit + 3) snapshot.metrics =
      some snapshot.metrics :=
    optionalPayload_restores isHeld readsBack (nests_encode.mp nests)
  rw [Restores, decoder_reread, metrics]
  rfl

theorem decoder_gives {limit : Nat} :
    decoder.Gives (limit + 4) fun snapshot =>
      snapshot.IsHeld ∧ snapshot.encode.Nests (limit + 4) := by
  refine record_gives fun slots snapshot slotsHeld built => ?_
  split at built
  next _ _ _ _ metrics _ =>
    simp only [Option.bind_eq_bind, Option.bind_eq_some_iff] at built
    obtain ⟨_, -, _, -, _, -, _, -, table, isTable, _, -, same⟩ := built
    cases same
    have tableGiven := optionalPayload_gives
      (slotsHeld metrics (by simp)) isTable
    exact ⟨fun value present => (tableGiven value present).1,
      nests_encode.mpr fun value present => (tableGiven value present).2⟩
  next => cases built

end RunSnapshot

end AgentPipeline
