import AgentPipeline.Proofs.Codec.Run
import AgentPipeline.Proofs.Json.Nesting
import AgentPipeline.Proofs.Store.Faultless
import AgentPipeline.Run.Lifecycle

/-!
# Reopening a history

A history that is opened again over the same store finds the items that it had
exactly when each of them is read back as it was.  A single item that cannot
be read back takes all others with it.  Main statement: `reopen_recordAll`.
-/

namespace AgentPipeline

open Decoder

/-! ## What is kept -/

/-- The output is read back from a stored history as it was. -/
def Json.IsKept (output : Json) : Prop :=
  output ≠ .null ∧ output.reread.bind (payload 123) = some output

/-- The run is read back from a stored history as it was. -/
structure Run.IsKept (run : Run) : Prop where
  temperature : run.temperature.reread? = some run.temperature
  outputs : ∀ stage output, run.outputs.get stage = some output →
    output.IsKept

/-- An output of `null` is not read back as an output. -/
theorem Json.rereadOutput_null (limit : Nat) :
    Json.rereadOutput limit (some .null) = some none := rfl

theorem Json.rereadOutput_of_ne_null {output : Json} (given : output ≠ .null)
    (limit : Nat) :
    Json.rereadOutput limit (some output) =
      (output.reread.bind (payload limit)).map some :=
  absentOr_reread given payload limit

theorem Json.rereadOutput_eq_self_iff (output : Option Json) :
    Json.rereadOutput 123 output = some output ↔
      ∀ value, output = some value → value.IsKept := by
  cases output with
  | none =>
      constructor
      · rintro _ _ ⟨⟩
      · intro _
        rfl
  | some value =>
      simp only [Option.some.injEq, forall_eq']
      by_cases isNull : value = .null
      · subst isNull
        simp [rereadOutput_null, IsKept]
      · rw [rereadOutput_of_ne_null isNull, IsKept, and_iff_right isNull]
        cases value.reread.bind (payload 123) <;> simp

theorem PerStage.rereadOutputs_eq_self_iff (outputs : PerStage (Option Json)) :
    outputs.rereadOutputs 123 = some outputs ↔
      ∀ stage, Json.rereadOutput 123 (outputs.get stage) =
        some (outputs.get stage) := by
  constructor
  · intro read
    simp only [rereadOutputs, Option.bind_eq_bind,
      Option.bind_eq_some_iff] at read
    obtain ⟨parse, parseRead, reason, reasonRead, generate, generateRead,
      validate, validateRead, same⟩ := read
    obtain rfl := Option.some.inj same
    intro stage
    cases stage with
    | parse => exact parseRead
    | reason => exact reasonRead
    | generate => exact generateRead
    | validate => exact validateRead
  · intro each
    have parse := each .parse
    have reason := each .reason
    have generate := each .generate
    have validate := each .validate
    simp only [get] at parse reason generate validate
    simp [rereadOutputs, parse, reason, generate, validate]

theorem Run.reread?_eq_self_iff (run : Run) :
    run.reread? 123 = some run ↔ run.IsKept := by
  constructor
  · intro read
    simp only [reread?, Option.bind_eq_bind, Option.bind_eq_some_iff] at read
    obtain ⟨temperature, temperatureRead, outputs, outputsRead, same⟩ := read
    have sameTemperature := congrArg Run.temperature (Option.some.inj same)
    have sameOutputs := congrArg Run.outputs (Option.some.inj same)
    dsimp only at sameTemperature sameOutputs
    subst sameTemperature sameOutputs
    have each := (PerStage.rereadOutputs_eq_self_iff _).mp outputsRead
    exact ⟨temperatureRead, fun stage =>
      (Json.rereadOutput_eq_self_iff _).mp (each stage)⟩
  · rintro ⟨temperature, outputs⟩
    have outputsRead : run.outputs.rereadOutputs 123 = some run.outputs :=
      (PerStage.rereadOutputs_eq_self_iff _).mpr fun stage =>
        (Json.rereadOutput_eq_self_iff _).mpr (outputs stage)
    simp [reread?, temperature, outputsRead]

theorem HistoryItem.reread?_eq_self_iff (item : HistoryItem) :
    item.reread? = some item ↔ item.run.IsKept := by
  rw [← Run.reread?_eq_self_iff, reread?, Option.map_eq_some_iff]
  constructor
  · rintro ⟨run, read, same⟩
    rw [read, ← congrArg HistoryItem.run same]
  · intro read
    exact ⟨item.run, read, rfl⟩

/-! ## What makes a history unreadable -/

/-- An output that is nested too deeply is not read back. -/
theorem Json.rereadOutput_of_deep {output : Json} {limit : Nat}
    (deep : limit < (Document.ofJson output).depth) :
    Json.rereadOutput limit (some output) = none := by
  have given : output ≠ .null := by
    rintro rfl
    exact absurd deep (Nat.not_lt_zero limit)
  rw [rereadOutput_of_ne_null given, Option.map_eq_none_iff,
    Option.bind_eq_none_iff]
  intro document read
  rw [Option.eq_none_iff_forall_ne_some]
  intro value valueRead
  have bounded := Document.depth_le_of_value? valueRead
  rw [depth_of_reread read] at bounded
  omega

/-- The run has a temperature that is not finite, or an output that is nested
too deeply. -/
def Run.IsUnreadable (run : Run) : Prop :=
  run.temperature.isFinite = false ∨
    ∃ stage output, run.outputs.get stage = some output ∧
      123 < (Document.ofJson output).depth

theorem Run.IsUnreadable.reread? {run : Run} (unreadable : run.IsUnreadable) :
    run.reread? 123 = none := by
  rcases unreadable with notFinite | ⟨stage, output, present, deep⟩
  · simp [Run.reread?, Double.reread?_of_not_finite notFinite]
  · have lost : Json.rereadOutput 123 (run.outputs.get stage) = none := by
      rw [present]
      exact Json.rereadOutput_of_deep deep
    have noOutputs : run.outputs.rereadOutputs 123 = none := by
      cases stage <;> simp only [PerStage.get] at lost <;>
        simp [PerStage.rereadOutputs, lost]
    simp [Run.reread?, noOutputs]

/-! ## Lists of values -/

theorem length_of_mapM {α β : Type} {read? : α → Option β} {values : List α}
    {results : List β} (read : values.mapM read? = some results) :
    results.length = values.length := by
  induction values generalizing results with
  | nil =>
      cases read
      rfl
  | cons value values ih =>
      rw [List.mapM_cons] at read
      obtain ⟨result, _, rest⟩ := Option.bind_eq_some_iff.mp read
      obtain ⟨others, restRead, same⟩ := Option.bind_eq_some_iff.mp rest
      obtain rfl := Option.some.inj same
      simp [ih restRead]

theorem mapM_eq_self_iff {α : Type} {read? : α → Option α}
    {values : List α} :
    values.mapM read? = some values ↔
      ∀ value ∈ values, read? value = some value := by
  induction values with
  | nil => simp
  | cons value values ih =>
      rw [List.forall_mem_cons, ← ih, List.mapM_cons]
      constructor
      · intro read
        obtain ⟨result, first, rest⟩ := Option.bind_eq_some_iff.mp read
        obtain ⟨others, restRead, same⟩ := Option.bind_eq_some_iff.mp rest
        obtain ⟨rfl, rfl⟩ := List.cons.inj (Option.some.inj same)
        exact ⟨first, restRead⟩
      · rintro ⟨first, rest⟩
        rw [first, rest]
        rfl

theorem mapM_eq_none {α β : Type} {read? : α → Option β} {values : List α}
    {value : α} (isValue : value ∈ values) (unread : read? value = none) :
    values.mapM read? = none := by
  induction values with
  | nil => cases isValue
  | cons first values ih =>
      rw [List.mapM_cons]
      rcases List.mem_cons.mp isValue with rfl | isLater
      · rw [unread]
        rfl
      · rw [ih isLater]
        cases read? first <;> rfl

/-! ## Recording and reopening -/

namespace History

variable {σ : Type} [KeyValueStore σ]

/-- The history when runs have been recorded one after another. -/
def recordAll (history : History σ) (supply : Supply) :
    List Run → History σ
  | [] => history
  | run :: later =>
      let (_, _, recorded, supply) := history.record supply run
      recorded.recordAll supply later

/-- A history is loaded from what the store holds, up to the capacity. -/
theorem exists_stored_of_load {store : σ} {capacity : Nat}
    {history : History σ} (loaded : load store capacity = .ok history) :
    ∃ stored, KeyValueStore.read itemsDecoder store StoreKey.history.name =
        .ok stored ∧
      history = ⟨store, capacity, (stored.getD []).take capacity⟩ := by
  unfold load at loaded
  cases found : KeyValueStore.read itemsDecoder store
      StoreKey.history.name with
  | error error =>
      rw [found] at loaded
      cases loaded
  | ok stored =>
      rw [found] at loaded
      cases loaded
      exact ⟨stored, rfl, rfl⟩

/-- The store holds the items of the history, which are no more than the
capacity allows. -/
structure IsStored (history : History σ) (capacity : Nat) : Prop where
  sameCapacity : history.capacity = capacity
  fits : history.items.length ≤ capacity
  stored : KeyValueStore.read itemsDecoder history.store
      StoreKey.history.name =
    .ok (itemsDecoder.parse? (encodeItems history.items).text)

variable {works : σ → Prop} (faultless : KeyValueStore.Faultless works)
include faultless

theorem record_isStored {history : History σ} (working : works history.store)
    (supply : Supply) (run : Run) :
    works (history.record supply run).2.2.1.store ∧
      (history.record supply run).2.2.1.IsStored history.capacity :=
  ⟨faultless.works_write working _ _, rfl, List.length_take_le _ _,
    faultless.read_write working _ _ _⟩

/-- Behind the last of some runs everything is stored. -/
theorem recordAll_isStored {history : History σ} {capacity : Nat}
    (sameCapacity : history.capacity = capacity)
    (working : works history.store) (supply : Supply) {runs : List Run}
    (notNil : runs ≠ []) :
    (history.recordAll supply runs).IsStored capacity := by
  -- Each record writes all items, so it does not matter what was stored
  -- before.
  induction runs generalizing history supply with
  | nil => exact absurd rfl notNil
  | cons run later ih =>
      obtain ⟨nextWorks, isStored⟩ :=
        record_isStored faultless working supply run
      rw [sameCapacity] at isStored
      cases later with
      | nil => exact isStored
      | cons next others =>
          exact ih isStored.sameCapacity nextWorks _ (by simp)

omit faultless

/-- What a stored history with some items is when it is opened again: the
items come back as they are read back, and all of them or none. -/
structure ComesBack (items reopened : List HistoryItem) : Prop where
  reread : reopened = (items.mapM HistoryItem.reread?).getD []
  same_iff : reopened = items ↔ ∀ item ∈ items, item.run.IsKept
  lost : (∃ item ∈ items, item.run.IsUnreadable) → reopened = []

theorem comesBack_of_reread {items reopened : List HistoryItem}
    (reread : reopened = (items.mapM HistoryItem.reread?).getD []) :
    ComesBack items reopened := by
  refine ⟨reread, ?_, ?_⟩
  · have same_iff : reopened = items ↔
        items.mapM HistoryItem.reread? = some items := by
      rw [reread]
      cases read : items.mapM HistoryItem.reread? with
      | some others => simp
      | none =>
          constructor
          · rintro ⟨⟩
            cases read
          · rintro ⟨⟩
    rw [same_iff, mapM_eq_self_iff]
    exact forall₂_congr fun item _ => item.reread?_eq_self_iff
  · rintro ⟨item, isItem, unreadable⟩
    have unread : item.reread? = none := by
      rw [HistoryItem.reread?, unreadable.reread?]
      rfl
    rw [reread, mapM_eq_none isItem unread]
    rfl

theorem load_of_isStored {history : History σ} {capacity : Nat}
    (isStored : history.IsStored capacity)
    (nameable : ∀ item ∈ history.items, item.recordedAt.IsNameable) :
    ∃ reopened, load history.store capacity = .ok reopened ∧
      ComesBack history.items reopened.items := by
  have loaded : load history.store capacity = .ok ⟨history.store, capacity,
      ((history.items.mapM HistoryItem.reread?).getD []).take capacity⟩ := by
    rw [load, isStored.stored, parse?_encodeItems fun item isItem =>
      (nameable item isItem).isMoment]
    rfl
  refine ⟨_, loaded, comesBack_of_reread ?_⟩
  apply List.take_of_length_le
  cases read : history.items.mapM HistoryItem.reread? with
  | none => exact Nat.zero_le capacity
  | some items =>
      rw [Option.getD_some, length_of_mapM read]
      exact isStored.fits

include faultless

/-- A history in which some runs have been recorded is the same when it is
opened again exactly if all of its items are kept; a single one that is
unreadable takes all of them. -/
theorem reopen_recordAll {store : σ} (working : works store) {capacity : Nat}
    {history : History σ} (loaded : load store capacity = .ok history)
    (supply : Supply) (runs : List Run)
    (nameable : ∀ item ∈ (history.recordAll supply runs).items,
      item.recordedAt.IsNameable) :
    ∃ reopened,
      load (history.recordAll supply runs).store capacity = .ok reopened ∧
      (runs = [] → reopened.items = history.items) ∧
      (runs ≠ [] →
        ComesBack (history.recordAll supply runs).items reopened.items) := by
  obtain ⟨stored, read, rfl⟩ := exists_stored_of_load loaded
  by_cases isNil : runs = []
  · subst isNil
    exact ⟨_, loaded, fun _ => rfl, fun notNil => absurd rfl notNil⟩
  · have isStored : (recordAll ⟨store, capacity,
        (stored.getD []).take capacity⟩ supply runs).IsStored capacity :=
      recordAll_isStored faultless rfl working supply isNil
    obtain ⟨reopened, opened, comesBack⟩ :=
      load_of_isStored isStored nameable
    exact ⟨reopened, opened, fun nil => absurd nil isNil, fun _ => comesBack⟩

omit faultless

/-- A run that is cancelled as soon as it is started. -/
def stoppedRun (temperature : Double) : Run :=
  ((Run.new ⟨1⟩ "Users can read." temperature .auto
    (.all (some none))).cancel "stop").1

/-- A temperature that is not a number takes the run before with it. -/
theorem reopen_recordAll_nan :
    ∃ reopened,
      load (recordAll ⟨MemoryStore.empty, 10, []⟩ ⟨0, 0, ⟨0, 0⟩⟩
        [stoppedRun ⟨0⟩, stoppedRun .nan]).store 10 = .ok reopened ∧
      reopened.items = [] ∧
      (recordAll ⟨MemoryStore.empty, 10, []⟩ ⟨0, 0, ⟨0, 0⟩⟩
        [stoppedRun ⟨0⟩, stoppedRun .nan]).items.length = 2 := by
  have loaded : load MemoryStore.empty 10 =
      .ok ⟨MemoryStore.empty, 10, []⟩ := rfl
  have second : (⟨0, 1000⟩ : Timestamp).IsNameable := ⟨by decide, by decide⟩
  have first : (⟨0, 0⟩ : Timestamp).IsNameable := ⟨by decide, by decide⟩
  have nameable : ∀ item ∈ (recordAll ⟨MemoryStore.empty, 10, []⟩
      ⟨0, 0, ⟨0, 0⟩⟩ [stoppedRun ⟨0⟩, stoppedRun .nan]).items,
        item.recordedAt.IsNameable :=
    List.forall_mem_cons.mpr ⟨second,
      List.forall_mem_cons.mpr ⟨first, by simp⟩⟩
  obtain ⟨reopened, opened, _, comesBack⟩ := reopen_recordAll
    MemoryStore.faultless rfl loaded ⟨0, 0, ⟨0, 0⟩⟩
    [stoppedRun ⟨0⟩, stoppedRun .nan] nameable
  have unreadable : (stoppedRun .nan).IsUnreadable := .inl (by decide)
  exact ⟨reopened, opened, (comesBack (by simp)).lost
    ⟨_, List.mem_cons_self, unreadable⟩, rfl⟩

end History

end AgentPipeline
