import AgentPipeline.Codec.Basic
import AgentPipeline.Model.Basic

/-!
# The JSON form of models

A model of the user is written with the members of its connection among its
own.  A listing of such models is an array, or an object that holds the array.
-/

namespace AgentPipeline

namespace ProviderKind

def encode (kind : ProviderKind) : Json := .string kind.name

def decoder : Decoder ProviderKind :=
  Decoder.choice (all.map fun kind => (kind.name, kind))

/-- Reads the kind in a connection that is written without an object of its
own. -/
def embeddedDecoder : Decoder ProviderKind :=
  Decoder.embeddedChoice (all.map fun kind => (kind.name, kind))

end ProviderKind

namespace ModelConnection

def fieldNames : Decoder.FieldNames :=
  [["provider_type"], ["base_url"], ["model_id"], ["api_key"],
    ["context_length"], ["temperature_default"]]

/-- The members of a connection, without the object around them. -/
def encodeMembers (connection : ModelConnection) : List (String × Json) :=
  [("provider_type", connection.provider.encode),
    ("base_url", .string connection.baseUrl),
    ("model_id", .string connection.modelId)]
    ++ Json.optionalMember "api_key" (connection.apiKey.map .string)
    ++ Json.optionalMember "context_length"
      (connection.contextLength.map .word32)
    ++ Json.optionalMember "temperature_default"
      (connection.defaultTemperature.map .double)

def encode (connection : ModelConnection) : Json :=
  .object connection.encodeMembers

/-- The connection in the slots of its fields, given how the kind of its
provider is read. -/
def ofSlots (kindDecoder : Decoder ProviderKind) (limit : Nat)
    (slots : List (Option Document)) : Option ModelConnection :=
  match slots with
  | [provider, baseUrl, modelId, apiKey, contextLength,
      defaultTemperature] => do
      let provider ← Decoder.required kindDecoder limit provider
      let baseUrl ← Decoder.required Decoder.text limit baseUrl
      let modelId ← Decoder.required Decoder.text limit modelId
      let apiKey ← Decoder.absentOr Decoder.text limit apiKey
      let contextLength ←
        Decoder.absentOr Decoder.word32 limit contextLength
      let defaultTemperature ←
        Decoder.absentOr Decoder.double limit defaultTemperature
      some { provider, baseUrl, modelId, apiKey, contextLength,
             defaultTemperature }
  | _ => none

def decoder : Decoder ModelConnection :=
  Decoder.record fieldNames (ofSlots ProviderKind.decoder)

end ModelConnection

namespace CustomModel

/-- The fields of a model that are not those of its connection. -/
def ownFieldNames : Decoder.FieldNames :=
  [["id"], ["display_name"], ["updated_at"]]

def encode (model : CustomModel) : Json :=
  .object ([("id", .string model.id),
    ("display_name", .string model.displayName)]
    ++ model.connection.encodeMembers
    ++ Json.optionalMember "updated_at"
      (model.updatedAt.map Timestamp.encode))

/-- A model is only read from an object, as its own fields and those of the
connection stand side by side.  A member that is not one of the model's own
fields must have a value, whether or not it is used. -/
def decoder : Decoder CustomModel
  | limit + 1, .object members => do
      let slots ←
        Decoder.slotsOfMembers (ownFieldNames ++ ModelConnection.fieldNames)
          members
      let others := members.filter fun member =>
        member.1.value.all fun name =>
          (Decoder.fieldIndex? ownFieldNames name).isNone
      if others.all fun member => member.2.hasValue limit then
        match slots with
        | id :: displayName :: updatedAt :: connectionSlots => do
            let id ← Decoder.required Decoder.text limit id
            let displayName ←
              Decoder.defaulting "" Decoder.text limit displayName
            let connection ←
              ModelConnection.ofSlots ProviderKind.embeddedDecoder limit
                connectionSlots
            let updatedAt ← Decoder.absentOr Timestamp.decoder limit updatedAt
            some { id, displayName, connection, updatedAt }
        | _ => none
      else none
  | _, _ => none

/-- Several models. -/
def listDecoder : Decoder (List CustomModel) :=
  Decoder.list decoder

/-- A listing by the service: an array of models, or an object with the array
as its member `models`.  All of it must have a value. -/
def listingDecoder : Decoder (List CustomModel) :=
  fun limit document =>
    if document.hasValue limit then
      match document with
      | .array _ => listDecoder limit document
      | other =>
          Decoder.members [["models"]] (fun limit slots =>
            match slots with
            | [models] => Decoder.required listDecoder limit models
            | _ => none) limit other
    else none

end CustomModel

namespace Provider

def fieldNames : Decoder.FieldNames := [["name"], ["models"], ["available"]]

def encode (provider : Provider) : Json :=
  .object [("name", .string provider.name),
    ("models", .array (provider.models.map .string)),
    ("available", .bool provider.available)]

def decoder : Decoder Provider :=
  Decoder.record fieldNames fun limit slots =>
    match slots with
    | [name, models, available] => do
        let name ← Decoder.required Decoder.text limit name
        let models ←
          Decoder.defaulting [] (Decoder.list Decoder.text) limit models
        let available ← Decoder.defaulting true Decoder.flag limit available
        some { name, models, available }
    | _ => none

end Provider

namespace Catalog

def fieldNames : Decoder.FieldNames := [["providers"], ["default_model"]]

def encode (catalog : Catalog) : Json :=
  .object ([("providers", .array (catalog.providers.map Provider.encode))]
    ++ Json.optionalMember "default_model" (catalog.defaultModel.map .string))

def decoder : Decoder Catalog :=
  Decoder.record fieldNames fun limit slots =>
    match slots with
    | [providers, defaultModel] => do
        let providers ←
          Decoder.defaulting [] (Decoder.list Provider.decoder) limit providers
        let defaultModel ← Decoder.absentOr Decoder.text limit defaultModel
        some { providers, defaultModel }
    | _ => none

end Catalog

namespace ModelConfig

def fieldNames : Decoder.FieldNames := [["model"], ["connection"]]

def encode (config : ModelConfig) : Json :=
  .object ([("model", .string config.model)]
    ++ Json.optionalMember "connection"
      (config.connection.map ModelConnection.encode))

def decoder : Decoder ModelConfig :=
  Decoder.record fieldNames fun limit slots =>
    match slots with
    | [model, connection] => do
        let model ← Decoder.required Decoder.text limit model
        let connection ←
          Decoder.absentOr ModelConnection.decoder limit connection
        some { model, connection }
    | _ => none

end ModelConfig

namespace SelectionMode

def name : SelectionMode → String
  | .single => "single"
  | .perAgent => "per_agent"

def encode (mode : SelectionMode) : Json := .string mode.name

def decoder : Decoder SelectionMode :=
  Decoder.choice ([single, perAgent].map fun mode => (mode.name, mode))

end SelectionMode

namespace ModelSelections

def fieldNames : Decoder.FieldNames :=
  [["mode"], ["default_model"], ["per_agent"]]

def encode (selections : ModelSelections) : Json :=
  .object ([("mode", selections.mode.encode)]
    ++ Json.optionalMember "default_model"
      (selections.defaultModel.map .string)
    ++ [("per_agent", .ofTextMap .string selections.perAgent)])

def decoder : Decoder ModelSelections :=
  Decoder.record fieldNames fun limit slots =>
    match slots with
    | [mode, defaultModel, perAgent] => do
        let mode ←
          Decoder.defaulting .single SelectionMode.decoder limit mode
        let defaultModel ← Decoder.absentOr Decoder.text limit defaultModel
        let perAgent ← Decoder.defaulting .empty
          (Decoder.keyed Decoder.textKey Decoder.text) limit perAgent
        some { mode, defaultModel, perAgent }
    | _ => none

end ModelSelections

end AgentPipeline
