import AgentPipeline.Codec.Run
import AgentPipeline.Settings

/-!
# The JSON form of settings

Settings are written whole; a section or a setting that is absent on reading
has its standard value.
-/

namespace AgentPipeline

namespace ServiceSettings

def fieldNames : Decoder.FieldNames :=
  [["base_url"], ["discovery_timeout_ms"]]

def encode (settings : ServiceSettings) : Json :=
  .object [("base_url", .string settings.baseUrl),
    ("discovery_timeout_ms", .word64 settings.discoveryTimeout)]

def decoder : Decoder ServiceSettings :=
  Decoder.record fieldNames fun limit slots =>
    match slots with
    | [baseUrl, discoveryTimeout] => do
        let baseUrl ←
          Decoder.defaulting standard.baseUrl Decoder.text limit baseUrl
        let discoveryTimeout ← Decoder.defaulting standard.discoveryTimeout
          Decoder.word64 limit discoveryTimeout
        some { baseUrl, discoveryTimeout }
    | _ => none

end ServiceSettings

namespace PipelineSettings

def fieldNames : Decoder.FieldNames :=
  [["history_capacity"], ["max_attempts"], ["default_temperature"],
    ["progression_mode"]]

def encode (settings : PipelineSettings) : Json :=
  .object [("history_capacity", .word64 settings.historyCapacity),
    ("max_attempts", .word32 settings.maxAttempts),
    ("default_temperature", .double settings.defaultTemperature),
    ("progression_mode", settings.mode.encode)]

def decoder : Decoder PipelineSettings :=
  Decoder.record fieldNames fun limit slots =>
    match slots with
    | [historyCapacity, maxAttempts, defaultTemperature, mode] => do
        let historyCapacity ← Decoder.defaulting standard.historyCapacity
          Decoder.word64 limit historyCapacity
        let maxAttempts ← Decoder.defaulting standard.maxAttempts
          Decoder.word32 limit maxAttempts
        let defaultTemperature ← Decoder.defaulting
          standard.defaultTemperature Decoder.double limit defaultTemperature
        let mode ← Decoder.defaulting standard.mode
          ProgressionMode.decoder limit mode
        some { historyCapacity, maxAttempts, defaultTemperature, mode }
    | _ => none

end PipelineSettings

namespace EvaluatorSettings

def fieldNames : Decoder.FieldNames :=
  [["poll_interval_ms"], ["default_item_limit"]]

def encode (settings : EvaluatorSettings) : Json :=
  .object [("poll_interval_ms", .word64 settings.pollInterval),
    ("default_item_limit", .word32 settings.defaultItemLimit)]

def decoder : Decoder EvaluatorSettings :=
  Decoder.record fieldNames fun limit slots =>
    match slots with
    | [pollInterval, defaultItemLimit] => do
        let pollInterval ← Decoder.defaulting standard.pollInterval
          Decoder.word64 limit pollInterval
        let defaultItemLimit ← Decoder.defaulting standard.defaultItemLimit
          Decoder.word32 limit defaultItemLimit
        some { pollInterval, defaultItemLimit }
    | _ => none

end EvaluatorSettings

namespace StorageSettings

def fieldNames : Decoder.FieldNames := [["data_dir"]]

def encode (settings : StorageSettings) : Json :=
  .object [("data_dir", Json.orNull (settings.dataDirectory.map .string))]

def decoder : Decoder StorageSettings :=
  Decoder.record fieldNames fun limit slots =>
    match slots with
    | [dataDirectory] =>
        (Decoder.absentOr Decoder.text limit dataDirectory).map
          StorageSettings.mk
    | _ => none

end StorageSettings

namespace SyncMode

def name : SyncMode → String
  | .mirror => "mirror"
  | .localOnly => "local_only"

def encode (mode : SyncMode) : Json := .string mode.name

def decoder : Decoder SyncMode :=
  Decoder.choice ([mirror, localOnly].map fun mode => (mode.name, mode))

end SyncMode

namespace RegistrySettings

def fieldNames : Decoder.FieldNames := [["sync"]]

def encode (settings : RegistrySettings) : Json :=
  .object [("sync", settings.sync.encode)]

def decoder : Decoder RegistrySettings :=
  Decoder.record fieldNames fun limit slots =>
    match slots with
    | [sync] =>
        (Decoder.defaulting standard.sync SyncMode.decoder limit sync).map
          RegistrySettings.mk
    | _ => none

end RegistrySettings

namespace Settings

def fieldNames : Decoder.FieldNames :=
  [["service"], ["pipeline"], ["evaluator"], ["storage"], ["registry"]]

def encode (settings : Settings) : Json :=
  .object [("service", settings.service.encode),
    ("pipeline", settings.pipeline.encode),
    ("evaluator", settings.evaluator.encode),
    ("storage", settings.storage.encode),
    ("registry", settings.registry.encode)]

def decoder : Decoder Settings :=
  Decoder.record fieldNames fun limit slots =>
    match slots with
    | [service, pipeline, evaluator, storage, registry] => do
        let service ← Decoder.defaulting .standard
          ServiceSettings.decoder limit service
        let pipeline ← Decoder.defaulting .standard
          PipelineSettings.decoder limit pipeline
        let evaluator ← Decoder.defaulting .standard
          EvaluatorSettings.decoder limit evaluator
        let storage ← Decoder.defaulting .standard
          StorageSettings.decoder limit storage
        let registry ← Decoder.defaulting .standard
          RegistrySettings.decoder limit registry
        some { service, pipeline, evaluator, storage, registry }
    | _ => none

end Settings

end AgentPipeline
