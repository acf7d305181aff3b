import AgentPipeline.Codec.Form
import AgentPipeline.Proofs.Codec.Carried
import AgentPipeline.Proofs.Codec.Event
import AgentPipeline.Proofs.Codec.Model

/-!
# Round trips

A value that is stored or sent comes back from its text, and a text that was
read and written again does not change any more.  A value comes back under
three conditions: it is held as the program holds such values, its
floating-point numbers are read back, and it is not nested too deeply.  Of what
was read only the second can fail.
Main statement: `formsRoundTrip`.
-/

namespace AgentPipeline

open Decoder

/-- The values of a type come back from their texts: those that are held, with
the floating-point numbers in them, and those that were read from a text. -/
structure RoundTrips (α : Type) [JsonEncode α] [JsonDecode α]
    (isHeld : α → Prop) (floats : α → List Double) : Prop where
  comesBack : ∀ value, isHeld value →
    (∀ number ∈ floats value, number.ReadsBack) →
      (encode value).Nests Json.depthLimit →
        JsonDecode.decoder.parse? (encode value).text = some value
  again : ∀ text value, JsonDecode.decoder.parse? text = some value →
    (∀ number ∈ floats value, number.ReadsBack) →
      JsonDecode.decoder.parse? (encode value).text = some value ∧
        canonicalText? α (encode value).text = some (encode value).text

/-- What was read comes back as well if it is held and not nested too
deeply. -/
theorem RoundTrips.of_gives {α : Type} [JsonEncode α] [JsonDecode α]
    {isHeld : α → Prop} {floats : α → List Double}
    (comesBack : ∀ value, isHeld value →
      (∀ number ∈ floats value, number.ReadsBack) →
        (encode value).Nests Json.depthLimit →
          JsonDecode.decoder.parse? (encode value).text = some value)
    (gives : (JsonDecode.decoder : Decoder α).Gives Json.depthLimit
      fun value => isHeld value ∧ (encode value).Nests Json.depthLimit) :
    RoundTrips α isHeld floats where
  comesBack := comesBack
  again := by
    intro text value parsed readsBack
    obtain ⟨held, nests⟩ := gives.of_parse? parsed
    have back := comesBack value held readsBack nests
    exact ⟨back, by rw [canonicalText?, back, Option.map_some]⟩

/-- Every value comes back of a type whose values are not nested deeply. -/
theorem RoundTrips.of_restores {α : Type} [JsonEncode α] [JsonDecode α]
    {floats : α → List Double}
    (restores : ∀ value, (∀ number ∈ floats value, number.ReadsBack) →
      JsonDecode.decoder.Restores Json.depthLimit (encode value) value) :
    RoundTrips α (fun _ => True) floats where
  comesBack value _ readsBack _ := (restores value readsBack).parse?
  again := by
    intro text value _ readsBack
    have back := (restores value readsBack).parse?
    exact ⟨back, by rw [canonicalText?, back, Option.map_some]⟩

/-- Everything that is stored or sent makes round trips. -/
structure FormsRoundTrip : Prop where
  history : RoundTrips (List HistoryItem) (∀ item ∈ ·, item.IsHeld)
    (·.flatMap HistoryItem.floats)
  dashboard : RoundTrips Dashboard Dashboard.IsHeld Dashboard.floats
  models : RoundTrips (List CustomModel) (∀ model ∈ ·, model.IsHeld)
    (·.flatMap CustomModel.floats)
  snapshot : RoundTrips RunSnapshot RunSnapshot.IsHeld RunSnapshot.floats
  selections : RoundTrips ModelSelections (fun _ => True) (fun _ => [])
  config : RoundTrips ModelConfig (fun _ => True) ModelConfig.floats
  catalog : RoundTrips Catalog (fun _ => True) (fun _ => [])
  event : RoundTrips Event (fun _ => True) (fun _ => [])

theorem formsRoundTrip : FormsRoundTrip where
  history := by
    refine .of_gives (fun _ => History.parse?_encodeItems_of_isHeld) ?_
    intro document items isHeld decoded
    have given := list_gives HistoryItem.decoder_gives isHeld decoded
    exact ⟨fun item isItem => (given item isItem).1,
      Json.nests_list.mpr fun item isItem => (given item isItem).2⟩
  dashboard :=
    .of_gives (fun _ => Dashboard.parse?_text_of_isHeld)
      Dashboard.decoder_gives
  models := by
    refine .of_gives ?_ ?_
    · intro models isHeld readsBack _
      refine Restores.parse? (list_restores fun model isModel => ?_)
      refine CustomModel.decoder_restores 125 (isHeld model isModel) ?_
      exact fun number isNumber =>
        readsBack number (List.mem_flatMap.mpr ⟨model, isModel, isNumber⟩)
    · intro document models isHeld decoded
      exact ⟨list_gives CustomModel.decoder_gives isHeld decoded,
        Json.nests_list.mpr fun model _ => model.encode_nests 125⟩
  snapshot :=
    .of_gives (fun _ isHeld readsBack nests =>
        (RunSnapshot.decoder_restores isHeld readsBack nests).parse?)
      RunSnapshot.decoder_gives
  selections :=
    .of_restores fun selections _ => selections.decoder_restores 125
  config :=
    .of_restores fun _ readsBack => ModelConfig.decoder_restores 125 readsBack
  catalog := .of_restores fun catalog _ => catalog.decoder_restores 123
  event := .of_restores fun event _ => event.decoder_restores 125

/-- A dashboard with the table of a run that ended in a leap second. -/
def Dashboard.ofLeapSecond : Dashboard where
  selected := some "alpha"
  itemLimits := .ofList [("alpha", 5)]
  run := some
    { EvaluatorRun.start "alpha" "run-1" 5 none ⟨1483228700, 0⟩ with
      status := .completed
      metrics := some (.object
        [("passed", .number (.integer 3)), ("rows", .array [.null])])
      updatedAt := ⟨1483228799, 1500000000⟩ }

theorem formsRoundTrip_ofLeapSecond :
    Dashboard.decoder.parse? Dashboard.ofLeapSecond.encode.text =
        some Dashboard.ofLeapSecond ∧
      canonicalText? Dashboard Dashboard.ofLeapSecond.encode.text =
        some Dashboard.ofLeapSecond.encode.text := by
  have isHeld : Dashboard.ofLeapSecond.IsHeld := by
    rintro run ⟨⟩
    refine ⟨?_, ⟨by decide, .inl (by decide)⟩,
      ⟨by decide, .inr ⟨by decide, by decide⟩⟩⟩
    rintro table ⟨⟩
    refine ⟨by simp, ⟨rfl, ?_⟩⟩
    intro number isNumber
    obtain rfl := List.mem_singleton.mp isNumber
    exact ⟨by decide, by decide⟩
  have noFloats : ∀ number ∈ Dashboard.ofLeapSecond.floats,
      number.ReadsBack := by
    rintro number ⟨⟩
  have nests : Dashboard.ofLeapSecond.encode.Nests Json.depthLimit := by
    unfold Json.Nests
    decide
  have back := formsRoundTrip.dashboard.comesBack Dashboard.ofLeapSecond
    isHeld noFloats nests
  exact ⟨back, (formsRoundTrip.dashboard.again _ _ back noFloats).2⟩

end AgentPipeline
