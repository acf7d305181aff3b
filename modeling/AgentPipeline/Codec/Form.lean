import AgentPipeline.Codec.Event
import AgentPipeline.Codec.Settings
import AgentPipeline.Codec.Model
import AgentPipeline.Json.Printer

/-!
# Types with a JSON form

The encoder and the decoder of a value are found by its type.
-/

namespace AgentPipeline

/-- A type whose values are written as JSON. -/
class JsonEncode (α : Type) where
  encode : α → Json

/-- A type whose values are read from JSON. -/
class JsonDecode (α : Type) where
  decoder : Decoder α

export JsonEncode (encode)

namespace JsonForm

variable {α : Type}

instance : JsonEncode Json := ⟨id⟩
instance : JsonDecode Json := ⟨Decoder.payload⟩
instance : JsonEncode Unit := ⟨fun _ => .null⟩
instance : JsonEncode String := ⟨.string⟩
instance : JsonDecode String := ⟨Decoder.text⟩
instance : JsonEncode Bool := ⟨.bool⟩
instance : JsonDecode Bool := ⟨Decoder.flag⟩
instance : JsonEncode Nat := ⟨.nat⟩
instance : JsonDecode Nat := ⟨Decoder.natural UInt64.size⟩
instance : JsonEncode UInt32 := ⟨.word32⟩
instance : JsonDecode UInt32 := ⟨Decoder.word32⟩
instance : JsonEncode UInt64 := ⟨.word64⟩
instance : JsonDecode UInt64 := ⟨Decoder.word64⟩
instance : JsonEncode Double := ⟨.double⟩
instance : JsonDecode Double := ⟨Decoder.double⟩

instance [JsonEncode α] : JsonEncode (Option α) :=
  ⟨fun value => Json.orNull (value.map encode)⟩

instance [JsonDecode α] : JsonDecode (Option α) :=
  ⟨Decoder.optional JsonDecode.decoder⟩

instance [JsonEncode α] : JsonEncode (List α) :=
  ⟨fun values => .array (values.map encode)⟩

instance [JsonDecode α] : JsonDecode (List α) :=
  ⟨Decoder.list JsonDecode.decoder⟩

instance : JsonDecode (SortedMap String String) :=
  ⟨Decoder.keyed Decoder.textKey Decoder.text⟩

instance : JsonEncode Uuid := ⟨Uuid.encode⟩
instance : JsonDecode Uuid := ⟨Uuid.decoder⟩
instance : JsonEncode Timestamp := ⟨Timestamp.encode⟩
instance : JsonDecode Timestamp := ⟨Timestamp.decoder⟩
instance : JsonEncode Stage := ⟨Stage.encode⟩
instance : JsonDecode Stage := ⟨Stage.decoder⟩
instance : JsonEncode StageState := ⟨StageState.encode⟩
instance : JsonDecode StageState := ⟨StageState.decoder⟩
instance : JsonEncode RunStatus := ⟨RunStatus.encode⟩
instance : JsonDecode RunStatus := ⟨RunStatus.decoder⟩
instance : JsonEncode ProgressionMode := ⟨ProgressionMode.encode⟩
instance : JsonDecode ProgressionMode := ⟨ProgressionMode.decoder⟩
instance : JsonEncode (PerStage (Option Json)) :=
  ⟨PerStage.encodePartial id⟩
instance : JsonDecode (PerStage (Option Json)) :=
  ⟨PerStage.partialDecoder Decoder.payload⟩
instance : JsonEncode (PerStage StageState) :=
  ⟨PerStage.encodeTotal StageState.encode⟩
instance : JsonDecode (PerStage StageState) :=
  ⟨PerStage.totalDecoder StageState.decoder⟩
instance : JsonDecode (PerStage (Option (Option String))) :=
  ⟨PerStage.mapDecoder (Decoder.optional Decoder.text)⟩
instance : JsonEncode Run := ⟨Run.encode⟩
instance : JsonDecode Run := ⟨Run.decoder⟩
instance : JsonEncode HistoryItem := ⟨HistoryItem.encode⟩
instance : JsonDecode HistoryItem := ⟨HistoryItem.decoder⟩
instance : JsonEncode EvaluatorStatus := ⟨EvaluatorStatus.encode⟩
instance : JsonDecode EvaluatorStatus := ⟨EvaluatorStatus.decoder⟩
instance : JsonEncode TokenCounters := ⟨TokenCounters.encode⟩
instance : JsonDecode TokenCounters := ⟨TokenCounters.decoder⟩
instance : JsonEncode ItemProgress := ⟨ItemProgress.encode⟩
instance : JsonDecode ItemProgress := ⟨ItemProgress.decoder⟩
instance : JsonEncode RunProgress := ⟨RunProgress.encode⟩
instance : JsonDecode RunProgress := ⟨RunProgress.decoder⟩
instance : JsonEncode EvaluatorRun := ⟨EvaluatorRun.encode⟩
instance : JsonDecode EvaluatorRun := ⟨EvaluatorRun.decoder⟩
instance : JsonEncode Dashboard := ⟨Dashboard.encode⟩
instance : JsonDecode Dashboard := ⟨Dashboard.decoder⟩
instance : JsonEncode StartedRun := ⟨StartedRun.encode⟩
instance : JsonDecode StartedRun := ⟨StartedRun.decoder⟩
instance : JsonEncode RunSnapshot := ⟨RunSnapshot.encode⟩
instance : JsonDecode RunSnapshot := ⟨RunSnapshot.decoder⟩
instance : JsonEncode ProviderKind := ⟨ProviderKind.encode⟩
instance : JsonDecode ProviderKind := ⟨ProviderKind.decoder⟩
instance : JsonEncode ModelConnection := ⟨ModelConnection.encode⟩
instance : JsonDecode ModelConnection := ⟨ModelConnection.decoder⟩
instance : JsonEncode CustomModel := ⟨CustomModel.encode⟩
instance : JsonDecode CustomModel := ⟨CustomModel.decoder⟩
instance : JsonEncode Provider := ⟨Provider.encode⟩
instance : JsonDecode Provider := ⟨Provider.decoder⟩
instance : JsonEncode Catalog := ⟨Catalog.encode⟩
instance : JsonDecode Catalog := ⟨Catalog.decoder⟩
instance : JsonEncode ModelConfig := ⟨ModelConfig.encode⟩
instance : JsonDecode ModelConfig := ⟨ModelConfig.decoder⟩
instance : JsonEncode SelectionMode := ⟨SelectionMode.encode⟩
instance : JsonDecode SelectionMode := ⟨SelectionMode.decoder⟩
instance : JsonEncode ModelSelections := ⟨ModelSelections.encode⟩
instance : JsonDecode ModelSelections := ⟨ModelSelections.decoder⟩
instance : JsonEncode Event := ⟨Event.encode⟩
instance : JsonDecode Event := ⟨Event.decoder⟩
instance : JsonEncode SyncMode := ⟨SyncMode.encode⟩
instance : JsonDecode SyncMode := ⟨SyncMode.decoder⟩
instance : JsonEncode ServiceSettings := ⟨ServiceSettings.encode⟩
instance : JsonDecode ServiceSettings := ⟨ServiceSettings.decoder⟩
instance : JsonEncode PipelineSettings := ⟨PipelineSettings.encode⟩
instance : JsonDecode PipelineSettings := ⟨PipelineSettings.decoder⟩
instance : JsonEncode EvaluatorSettings := ⟨EvaluatorSettings.encode⟩
instance : JsonDecode EvaluatorSettings := ⟨EvaluatorSettings.decoder⟩
instance : JsonEncode StorageSettings := ⟨StorageSettings.encode⟩
instance : JsonDecode StorageSettings := ⟨StorageSettings.decoder⟩
instance : JsonEncode RegistrySettings := ⟨RegistrySettings.encode⟩
instance : JsonDecode RegistrySettings := ⟨RegistrySettings.decoder⟩
instance : JsonEncode Settings := ⟨Settings.encode⟩
instance : JsonDecode Settings := ⟨Settings.decoder⟩

end JsonForm

/-- The text that a value is written as, given a text that it is read from. -/
def canonicalText? (α : Type) [JsonEncode α] [JsonDecode α] (text : String) :
    Option String :=
  ((JsonDecode.decoder : Decoder α).parse? text).map fun value =>
    (encode value).text

end AgentPipeline
