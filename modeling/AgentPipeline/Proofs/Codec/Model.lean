import AgentPipeline.Codec.Model
import AgentPipeline.Proofs.Codec.Gives

/-!
# Restoring models

The models of the user, the catalog of the service and what the user has
chosen come back from their texts.  The members of a connection stand among
those of its model, where all of them must have values.
Main statement: `CustomModel.decoder_restores`.
-/

namespace AgentPipeline

open Decoder

/-! ## Connections -/

namespace ProviderKind

theorem decoder_restores (limit : Nat) (kind : ProviderKind) :
    decoder.Restores limit kind.encode kind := by
  cases kind <;> rfl

theorem embeddedDecoder_restores (limit : Nat) (kind : ProviderKind) :
    embeddedDecoder.Restores limit kind.encode kind := by
  cases kind <;> rfl

end ProviderKind

namespace ModelConnection

def floats (connection : ModelConnection) : List Double :=
  connection.defaultTemperature.toList

/-- The names of the members of a connection. -/
def memberNames : List String :=
  ["provider_type", "base_url", "model_id", "api_key", "context_length",
    "temperature_default"]

/-- The values of the members of a connection. -/
def encodeSlots (connection : ModelConnection) : List (Option Json) :=
  [some connection.provider.encode, some (.string connection.baseUrl),
    some (.string connection.modelId), connection.apiKey.map .string,
    connection.contextLength.map .word32,
    connection.defaultTemperature.map .double]

theorem encodeMembers_eq (connection : ModelConnection) :
    connection.encodeMembers =
      membersOfSlots memberNames connection.encodeSlots := by
  simp [encodeMembers, memberNames, encodeSlots, membersOfSlots,
    Json.optionalMember]

theorem nests_encodeMembers (connection : ModelConnection) (limit : Nat) :
    ∀ member ∈ connection.encodeMembers, member.2.Nests limit := by
  simp only [encodeMembers, List.forall_mem_append, List.forall_mem_cons,
    Json.forall_mem_optionalMember]
  simp [ProviderKind.encode]

/-- What is read back of a connection: its default temperature is what the
reader makes of the printed digits. -/
def reread? (connection : ModelConnection) : Option ModelConnection :=
  (Double.rereadOptional? connection.defaultTemperature).map
    fun defaultTemperature => { connection with defaultTemperature }

theorem reread?_eq_self_iff (connection : ModelConnection) :
    connection.reread? = some connection ↔
      ∀ number ∈ connection.floats, number.reread? = some number := by
  have temperature := Double.rereadOptional?_eq_self_iff
    connection.defaultTemperature
  simp only [floats, Option.mem_toList]
  rw [← temperature, reread?, Option.map_eq_some_iff]
  constructor
  · rintro ⟨defaultTemperature, read, same⟩
    rw [read, ← congrArg ModelConnection.defaultTemperature same]
  · intro read
    exact ⟨connection.defaultTemperature, read, rfl⟩

/-- A connection is read back from its members, wherever they stand, up to its
default temperature. -/
theorem ofSlots_reread
    {connection : ModelConnection} {kindDecoder : Decoder ProviderKind}
    {limit : Nat}
    (kind : kindDecoder.Restores limit connection.provider.encode
      connection.provider) :
    (rereadSlots connection.encodeSlots).bind (ofSlots kindDecoder limit) =
      connection.reread? := by
  obtain ⟨provider, providerRead, providerDecoded⟩ :=
    kind.required.exists_document
  obtain ⟨baseUrl, baseUrlRead, baseUrlDecoded⟩ :=
    (text_restores limit connection.baseUrl).required.exists_document
  obtain ⟨modelId, modelIdRead, modelIdDecoded⟩ :=
    (text_restores limit connection.modelId).required.exists_document
  obtain ⟨apiKey, apiKeyRead, apiKeyDecoded⟩ :=
    (optionalText_restores limit connection.apiKey).exists_document
  have contextLengthRestored : SlotRestores (absentOr word32) limit
      (connection.contextLength.map .word32) connection.contextLength :=
    optional_restores (fun length _ => word32_restores limit length)
      (by rintro _ _ ⟨⟩)
  obtain ⟨contextLength, contextLengthRead, contextLengthDecoded⟩ :=
    contextLengthRestored.exists_document
  simp only [encodeSlots, rereadSlots, providerRead, baseUrlRead,
    modelIdRead, apiKeyRead, contextLengthRead, Option.bind_some,
    Option.map_some, reread?, Double.rereadOptional?]
  cases rereadSlot (connection.defaultTemperature.map Json.double) with
  | none => rfl
  | some temperature =>
      simp only [Option.bind_some, Option.map_some, ofSlots, providerDecoded,
        baseUrlDecoded, modelIdDecoded, apiKeyDecoded, contextLengthDecoded,
        absentOr_double limit temperature, Option.bind_eq_bind]
      cases absentOr double 0 temperature <;> rfl

theorem decoder_restores (limit : Nat) {connection : ModelConnection}
    (readsBack : ∀ number ∈ connection.floats, number.ReadsBack) :
    decoder.Restores (limit + 1) connection.encode connection := by
  rw [Restores, encode, encodeMembers_eq, decoder,
    record_reread rfl rfl (by decide)]
  rw [ofSlots_reread
    (ProviderKind.decoder_restores limit connection.provider)]
  exact connection.reread?_eq_self_iff.mpr fun number isNumber =>
    (readsBack number isNumber).reread?

end ModelConnection

/-! ## Models of the user -/

theorem Json.rereadMembers_append (first second : List (String × Json)) :
    rereadMembers (first ++ second) =
      (rereadMembers first).bind fun documents =>
        (rereadMembers second).map (documents ++ ·) := by
  induction first with
  | nil => simp [rereadMembers]
  | cons member first ih =>
      obtain ⟨key, value⟩ := member
      rw [List.cons_append, rereadMembers, rereadMembers, ih]
      cases value.reread <;> cases rereadMembers first <;>
        cases rereadMembers second <;> rfl

/-- Fields that are not all read back leave members that are not. -/
theorem Decoder.rereadMembers_membersOfSlots_eq_none
    {names : List String} {slots : List (Option Json)}
    (sameLength : names.length = slots.length)
    (unread : rereadSlots slots = none) :
    Json.rereadMembers (membersOfSlots names slots) = none := by
  induction names generalizing slots with
  | nil =>
      obtain rfl := List.length_eq_zero_iff.mp sameLength.symm
      cases unread
  | cons name names ih =>
      cases slots with
      | nil => simp at sameLength
      | cons slot slots =>
          have restLength : names.length = slots.length := by
            simpa using sameLength
          cases slot with
          | none =>
              have restUnread : rereadSlots slots = none := by
                simpa [rereadSlots, rereadSlot] using unread
              exact ih restLength restUnread
          | some value =>
              rw [membersOfSlots, Json.optionalMember, List.singleton_append,
                Json.rereadMembers]
              cases valueRead : value.reread with
              | none => rfl
              | some document =>
                  have restUnread : rereadSlots slots = none := by
                    simpa [rereadSlots, rereadSlot, valueRead] using unread
                  rw [Option.bind_some, ih restLength restUnread]
                  rfl

/-- The document that is read back of the value has a value. -/
def Json.KeepsValue (limit : Nat) (value : Json) : Prop :=
  ∀ document, value.reread = some document → document.hasValue limit = true

theorem Json.keepsValue_of_readsBack {limit : Nat} {value : Json}
    (readsBack : value.ReadsBack) (nests : value.Nests limit) :
    value.KeepsValue limit := by
  intro document read
  have hasValue := reread_bind_value? readsBack nests
  rw [read, Option.bind_some] at hasValue
  rw [Document.hasValue, hasValue]
  rfl

/-- A number that is read back has a value. -/
theorem Json.keepsValue_double {number : Double}
    (isRead : (Double.rereadOptional? (some number)).isSome) (limit : Nat) :
    (double number).KeepsValue limit := by
  intro document read
  cases isFinite : number.isFinite with
  | false =>
      rw [double, isFinite] at read
      cases read
      rfl
  | true =>
      rw [Double.rereadOptional?_of_finite isFinite, Double.reread?, read,
        Option.bind_some, Option.isSome_map] at isRead
      rw [double, isFinite, if_pos rfl, reread, Option.map_eq_some_iff] at read
      obtain ⟨parts, -, rfl⟩ := read
      cases value : parts.value? with
      | none =>
          rw [value] at isRead
          cases isRead
      | some number => rfl

theorem Json.hasValue_of_rereadMembers {limit : Nat}
    {members : List (String × Json)}
    (keepValues : ∀ member ∈ members, member.2.KeepsValue limit)
    {documents : List (Spelling × Document)}
    (read : rereadMembers members = some documents) :
    ∀ entry ∈ documents, entry.2.hasValue limit = true := by
  induction members generalizing documents with
  | nil =>
      cases read
      simp
  | cons member members ih =>
      obtain ⟨first, rest⟩ := List.forall_mem_cons.mp keepValues
      obtain ⟨document, firstRead, restMapped⟩ :=
        Option.bind_eq_some_iff.mp read
      obtain ⟨others, restRead, rfl⟩ := Option.map_eq_some_iff.mp restMapped
      exact List.forall_mem_cons.mpr
        ⟨first document firstRead, ih rest restRead⟩

/-- Fields in a row that are read back are entered between those around
them. -/
theorem Decoder.exists_entered
    (fields : FieldNames) (names : List String)
    (filled back : List (Option Document)) (start : Nat)
    (starts : filled.length = start) {slots : List (Option Json)}
    {documents : List (Option Document)}
    (sameLength : names.length = slots.length)
    (read : rereadSlots slots = some documents)
    (indices : ∀ position (inside : position < names.length),
      fieldIndex? fields names[position] = some (start + position)) :
    ∃ members,
      Json.rereadMembers (membersOfSlots names slots) = some members ∧
        members.foldlM (enterMember fields)
            (filled ++ List.replicate names.length none ++ back) =
          some (filled ++ documents ++ back) := by
  subst starts
  have entered := enterMembers sameLength filled back indices
  rw [read] at entered
  exact Option.bind_eq_some_iff.mp entered

namespace CustomModel

def floats (model : CustomModel) : List Double :=
  model.connection.floats

/-- The time of the last change is a moment of the calendar. -/
def IsHeld (model : CustomModel) : Prop :=
  ∀ moment, model.updatedAt = some moment → moment.IsMoment

def allFieldNames : FieldNames :=
  ownFieldNames ++ ModelConnection.fieldNames

theorem encode_nests (model : CustomModel) (limit : Nat) :
    model.encode.Nests (limit + 1) := by
  rw [encode, Json.nests_object]
  simp only [List.forall_mem_append, List.forall_mem_cons,
    Json.forall_mem_optionalMember]
  refine ⟨⟨by simp, model.connection.nests_encodeMembers limit⟩, ?_⟩
  simp [Timestamp.encode]

private theorem encode_eq (model : CustomModel) :
    model.encode = .object (
      membersOfSlots ["id", "display_name"]
          [some (.string model.id), some (.string model.displayName)]
        ++ membersOfSlots ModelConnection.memberNames
          model.connection.encodeSlots
        ++ membersOfSlots ["updated_at"]
          [model.updatedAt.map Timestamp.encode]) := by
  rw [← ModelConnection.encodeMembers_eq]
  simp [encode, membersOfSlots, Json.optionalMember]

/-- A model whose connection is not read back is not read back. -/
private theorem encode_unread {model : CustomModel}
    (unread : rereadSlots model.connection.encodeSlots = none) :
    model.encode.reread = none := by
  have connection : Json.rereadMembers (membersOfSlots
      ModelConnection.memberNames model.connection.encodeSlots) = none :=
    rereadMembers_membersOfSlots_eq_none rfl unread
  rw [encode_eq, Json.reread, Json.rereadMembers_append,
    Json.rereadMembers_append, connection]
  simp

/-- The members of a model are entered into the slots of all its fields. -/
private theorem exists_members {model : CustomModel}
    {updated : Option Document} {connection : List (Option Document)}
    (updatedRead : rereadSlot (model.updatedAt.map Timestamp.encode) =
      some updated)
    (connectionRead : rereadSlots model.connection.encodeSlots =
      some connection) :
    ∃ members, model.encode.reread = some (.object members) ∧
      slotsOfMembers allFieldNames members =
        some (some (.string (Json.spelling model.id)) ::
          some (.string (Json.spelling model.displayName)) :: updated ::
            connection) := by
  -- The rows of members are entered one after the other, each between what
  -- was entered before it and the slots that are still empty.
  let front : List (Option Document) :=
    [some (.string (Json.spelling model.id)),
      some (.string (Json.spelling model.displayName))]
  have firstSlots : rereadSlots
      [some (.string model.id), some (.string model.displayName)] =
        some front := rfl
  have lastSlots : rereadSlots [model.updatedAt.map Timestamp.encode] =
      some [updated] := by
    rw [rereadSlots, updatedRead]
    rfl
  obtain ⟨first, firstRead, firstEntered⟩ := exists_entered allFieldNames
    ["id", "display_name"] [] (.replicate 7 none) 0 rfl rfl firstSlots
    (by decide)
  obtain ⟨middle, middleRead, middleEntered⟩ := exists_entered allFieldNames
    ModelConnection.memberNames (front ++ [none]) [] 3 rfl rfl connectionRead
    (by decide)
  obtain ⟨last, lastRead, lastEntered⟩ := exists_entered allFieldNames
    ["updated_at"] front connection 2 rfl rfl lastSlots (by decide)
  refine ⟨first ++ middle ++ last, ?_, ?_⟩
  · simp [encode_eq, Json.reread, Json.rereadMembers_append, firstRead,
      middleRead, lastRead]
  · simp only [List.append_nil] at middleEntered
    rw [slotsOfMembers, List.append_assoc, List.foldlM_append]
    refine Option.bind_eq_some_iff.mpr ⟨_, firstEntered, ?_⟩
    rw [List.foldlM_append]
    exact Option.bind_eq_some_iff.mpr ⟨_, middleEntered, lastEntered⟩

/-- What is read back of a model. -/
def reread? (model : CustomModel) : Option CustomModel :=
  model.connection.reread?.map fun connection => { model with connection }

theorem reread?_eq_self_iff (model : CustomModel) :
    model.reread? = some model ↔
      ∀ number ∈ model.floats, number.reread? = some number := by
  rw [floats, ← ModelConnection.reread?_eq_self_iff, reread?,
    Option.map_eq_some_iff]
  constructor
  · rintro ⟨connection, read, same⟩
    rw [read, ← congrArg CustomModel.connection same]
  · intro read
    exact ⟨model.connection, read, rfl⟩

/-- If the default temperature is read back, all members have values. -/
private theorem hasValue_of_encode {model : CustomModel} {limit : Nat}
    (isRead : (Double.rereadOptional?
      model.connection.defaultTemperature).isSome)
    {members : List (Spelling × Document)}
    (read : model.encode.reread = some (.object members)) :
    ∀ member ∈ members, member.2.hasValue limit = true := by
  have text (value : String) : (Json.string value).KeepsValue limit :=
    Json.keepsValue_of_readsBack (by simp) (by simp)
  have word (value : UInt32) : (Json.word32 value).KeepsValue limit :=
    Json.keepsValue_of_readsBack (by simp) (by simp)
  have temperature (number : Double)
      (given : model.connection.defaultTemperature = some number) :
      (Json.double number).KeepsValue limit :=
    Json.keepsValue_double (given ▸ isRead) limit
  rw [encode, Json.reread, Option.map_eq_some_iff] at read
  obtain ⟨_, membersRead, same⟩ := read
  cases same
  refine Json.hasValue_of_rereadMembers ?_ membersRead
  simp only [ModelConnection.encodeMembers, List.forall_mem_append,
    List.forall_mem_cons, Json.forall_mem_optionalMember]
  simpa [ProviderKind.encode, Timestamp.encode, text, word] using temperature

/-- A model is read back up to its default temperature. -/
theorem decoder_reread (limit : Nat) {model : CustomModel}
    (isHeld : model.IsHeld) :
    model.encode.reread.bind (decoder (limit + 1)) = model.reread? := by
  have built := ModelConnection.ofSlots_reread
    (ProviderKind.embeddedDecoder_restores limit model.connection.provider)
  have updatedRestored : SlotRestores (absentOr Timestamp.decoder) limit
      (model.updatedAt.map Timestamp.encode) model.updatedAt :=
    optional_restores (fun moment given =>
      timestamp_restores limit (isHeld moment given)) (by rintro _ _ ⟨⟩)
  obtain ⟨updated, updatedRead, updatedDecoded⟩ :=
    updatedRestored.exists_document
  cases connectionRead : rereadSlots model.connection.encodeSlots with
  | none =>
      rw [connectionRead] at built
      rw [reread?, ← built, encode_unread connectionRead]
      rfl
  | some connection =>
      rw [connectionRead, Option.bind_some] at built
      obtain ⟨members, read, entered⟩ :=
        exists_members updatedRead connectionRead
      rw [allFieldNames] at entered
      rw [read, Option.bind_some, decoder, reread?]
      simp only [entered, Option.bind_eq_bind, Option.bind_some,
        Decoder.required, Decoder.defaulting, text, Json.spelling, built,
        updatedDecoded]
      cases isRead : Double.rereadOptional?
          model.connection.defaultTemperature with
      | none =>
          have unread : model.connection.reread? = none := by
            rw [ModelConnection.reread?, isRead]
            rfl
          simp [unread]
      | some temperature =>
          -- Every member has a value, so also those that are not the model's
          -- own.
          have haveValues : ∀ member ∈ members,
              member.2.hasValue limit = true :=
            hasValue_of_encode (isRead ▸ rfl) read
          have othersHaveValues (isOther : Spelling × Document → Bool) :
              ((members.filter isOther).all fun member =>
                member.2.hasValue limit) = true := by
            rw [List.all_eq_true]
            intro member isMember
            exact haveValues member (List.mem_filter.mp isMember).1
          rw [if_pos (othersHaveValues _)]
          cases model.connection.reread? <;> rfl

/-- Whatever else is read back of a model, its identifier is the same. -/
theorem id_of_decoder {limit : Nat} {model back : CustomModel}
    (read : model.encode.reread.bind (decoder (limit + 1)) = some back) :
    back.id = model.id := by
  obtain ⟨updated, updatedRead⟩ : ∃ updated,
      rereadSlot (model.updatedAt.map Timestamp.encode) = some updated := by
    cases model.updatedAt with
    | none => exact ⟨none, rfl⟩
    | some moment => exact ⟨_, rfl⟩
  cases connectionRead : rereadSlots model.connection.encodeSlots with
  | none =>
      rw [encode_unread connectionRead] at read
      cases read
  | some connection =>
      obtain ⟨members, isEncoded, entered⟩ :=
        exists_members updatedRead connectionRead
      rw [allFieldNames] at entered
      rw [isEncoded, Option.bind_some, decoder] at read
      simp only [entered, Option.bind_eq_bind, Option.bind_some] at read
      split at read
      · simp only [Decoder.required, text, Json.spelling, Option.bind_some,
          Option.bind_eq_some_iff] at read
        obtain ⟨displayName, -, connection, -, updatedAt, -, same⟩ := read
        exact (congrArg CustomModel.id (Option.some.inj same)).symm
      · cases read

theorem decoder_restores (limit : Nat) {model : CustomModel}
    (isHeld : model.IsHeld)
    (readsBack : ∀ number ∈ model.floats, number.ReadsBack) :
    decoder.Restores (limit + 1) model.encode model := by
  rw [Restores, decoder_reread limit isHeld]
  exact model.reread?_eq_self_iff.mpr fun number isNumber =>
    (readsBack number isNumber).reread?

theorem decoder_gives {limit : Nat} : decoder.Gives (limit + 1) IsHeld := by
  intro document model isHeld decoded
  cases document with
  | object members =>
      simp only [decoder, Option.bind_eq_bind,
        Option.bind_eq_some_iff] at decoded
      obtain ⟨slots, entered, built⟩ := decoded
      have slotsHeld := slotsHeld_of_slotsOfMembers
        (Document.isHeld_object.mp isHeld) entered
      split at built
      · split at built
        next id displayName updatedAt connection =>
          simp only [Option.bind_eq_some_iff] at built
          obtain ⟨_, -, _, -, _, -, updated, isUpdated, same⟩ := built
          cases same
          exact timestamp_gives.absentOr (slotsHeld updatedAt (by simp))
            isUpdated
        next => cases built
      · cases built
  | null | bool _ | number _ | string _ | array _ => cases decoded

end CustomModel

/-! ## Catalogs -/

theorem Provider.decoder_restores (limit : Nat) (provider : Provider) :
    decoder.Restores (limit + 2) provider.encode provider := by
  have name := (text_restores (limit + 1) provider.name).required
  have models : (list text).Restores (limit + 1)
      (.array (provider.models.map .string)) provider.models :=
    list_restores fun model _ => text_restores limit model
  have available :=
    (flag_restores (limit + 1) provider.available).defaulting true
  have encoded : provider.encode = .object (membersOfSlots
      ["name", "models", "available"]
      [some (.string provider.name),
        some (.array (provider.models.map .string)),
        some (.bool provider.available)]) := rfl
  rw [encoded]
  exact record_restores rfl rfl (by decide)
    (name.three (models.defaulting []) available Provider.mk)

theorem Catalog.decoder_restores (limit : Nat) (catalog : Catalog) :
    decoder.Restores (limit + 4) catalog.encode catalog := by
  have providers : (list Provider.decoder).Restores (limit + 3)
      (.array (catalog.providers.map Provider.encode)) catalog.providers :=
    list_restores fun provider _ => provider.decoder_restores limit
  have defaultModel := optionalText_restores (limit + 3) catalog.defaultModel
  have encoded : catalog.encode = .object (membersOfSlots
      ["providers", "default_model"]
      [some (.array (catalog.providers.map Provider.encode)),
        catalog.defaultModel.map .string]) := by
    simp [encode, membersOfSlots, Json.optionalMember]
  rw [encoded]
  exact record_restores rfl rfl (by decide)
    ((providers.defaulting []).two defaultModel Catalog.mk)

/-! ## Choices -/

def ModelConfig.floats (config : ModelConfig) : List Double :=
  config.connection.toList.flatMap ModelConnection.floats

theorem ModelConfig.decoder_restores (limit : Nat) {config : ModelConfig}
    (readsBack : ∀ number ∈ config.floats, number.ReadsBack) :
    decoder.Restores (limit + 2) config.encode config := by
  have model := (text_restores (limit + 1) config.model).required
  have connection : SlotRestores
      (absentOr ModelConnection.decoder) (limit + 1)
      (config.connection.map ModelConnection.encode) config.connection := by
    refine optional_restores (fun connection given => ?_) (by rintro _ _ ⟨⟩)
    refine ModelConnection.decoder_restores limit fun number isNumber => ?_
    exact readsBack number (by simpa [floats, given] using isNumber)
  have encoded : config.encode = .object (membersOfSlots
      ["model", "connection"]
      [some (.string config.model),
        config.connection.map ModelConnection.encode]) := by
    simp [encode, membersOfSlots, Json.optionalMember]
  rw [encoded]
  exact record_restores rfl rfl (by decide)
    (model.two connection ModelConfig.mk)

theorem SelectionMode.decoder_restores (limit : Nat) (mode : SelectionMode) :
    decoder.Restores limit mode.encode mode := by
  cases mode <;> rfl

theorem ModelSelections.decoder_restores (limit : Nat)
    (selections : ModelSelections) :
    decoder.Restores (limit + 2) selections.encode selections := by
  have mode :=
    (SelectionMode.decoder_restores (limit + 1) selections.mode).defaulting
      .single
  have defaultModel :=
    optionalText_restores (limit + 1) selections.defaultModel
  have perAgent :=
    (textMap_restores selections.perAgent
      fun entry _ => text_restores limit entry.2).defaulting .empty
  have encoded : selections.encode = .object (membersOfSlots
      ["mode", "default_model", "per_agent"]
      [some selections.mode.encode, selections.defaultModel.map .string,
        some (.ofTextMap .string selections.perAgent)]) := by
    simp [encode, membersOfSlots, Json.optionalMember]
  rw [encoded]
  exact record_restores rfl rfl (by decide)
    (mode.three defaultModel perAgent ModelSelections.mk)

end AgentPipeline
