import AgentPipeline.Codec.Settings
import AgentPipeline.Toml.Value

/-!
# Settings from TOML

A section is a table, or an array of its settings in their order; a date or a
time counts as a table without any setting.  A setting that is not given has
its standard value, and what is not a setting is passed over.
-/

namespace AgentPipeline

namespace Toml

/-- The settings of a section with these names, each with the value that it is
given. -/
def settings? (names : List String) : Toml → Option (List (Option Toml))
  | .table _ entries => some (names.map fun name => entries.lookup name)
  | .array items => some (byPosition items)
  | .tables newestFirst => some (byPosition newestFirst.reverse)
  | .moment => some (names.map fun _ => none)
  | _ => none
where
  byPosition (items : List Toml) : List (Option Toml) :=
    (List.range names.length).map fun position => items[position]?

/-- The value of a setting that may be left out. -/
def orStandard {α : Type} (standard : α) (read : Toml → Option α) :
    Option Toml → Option α
  | none => some standard
  | some value => read value

def text? : Toml → Option String
  | .text value => some value
  | _ => none

/-- A natural number below a bound. -/
def natural? (bound : Nat) : Toml → Option Nat
  | .integer (.ofNat value) => if value < bound then some value else none
  | _ => none

def word32? (value : Toml) : Option UInt32 :=
  (natural? UInt32.size value).map UInt32.ofNat

def word64? (value : Toml) : Option UInt64 :=
  (natural? UInt64.size value).map UInt64.ofNat

/-- A number, of which an integer is one. -/
def double? : Toml → Option Double
  | .float value => some value
  | .integer value => some (Double.ofInt value)
  | _ => none

/-- Whether there is nothing in a table or an array. -/
def isEmpty : Toml → Bool
  | .table _ entries => entries.isEmpty
  | .array items => items.isEmpty
  | .tables items => items.isEmpty
  | _ => false

/-- One of several names: a text, or a table that gives the name nothing. -/
def choice? {α : Type} (names : List (String × α)) : Toml → Option α
  | .text name => names.lookup name
  | .table _ [(name, value)] =>
      if value.isEmpty then names.lookup name else none
  | _ => none

end Toml

namespace ServiceSettings

def ofToml? (source : Toml) : Option ServiceSettings := do
  match ← source.settings? ["base_url", "discovery_timeout_ms"] with
  | [baseUrl, timeout] =>
      some { baseUrl := ← Toml.orStandard standard.baseUrl Toml.text? baseUrl
             discoveryTimeout := ← Toml.orStandard standard.discoveryTimeout
               Toml.word64? timeout }
  | _ => none

end ServiceSettings

namespace PipelineSettings

def ofToml? (source : Toml) : Option PipelineSettings := do
  match ← source.settings? ["history_capacity", "max_attempts",
      "default_temperature", "progression_mode"] with
  | [capacity, attempts, temperature, mode] =>
      some { historyCapacity := ← Toml.orStandard standard.historyCapacity
               Toml.word64? capacity
             maxAttempts := ← Toml.orStandard standard.maxAttempts
               Toml.word32? attempts
             defaultTemperature := ← Toml.orStandard
               standard.defaultTemperature Toml.double? temperature
             mode := ← Toml.orStandard standard.mode
               (Toml.choice? ([ProgressionMode.manual, .auto].map
                 fun mode => (mode.name, mode))) mode }
  | _ => none

end PipelineSettings

namespace EvaluatorSettings

def ofToml? (source : Toml) : Option EvaluatorSettings := do
  match ← source.settings? ["poll_interval_ms", "default_item_limit"] with
  | [interval, limit] =>
      some { pollInterval := ← Toml.orStandard standard.pollInterval
               Toml.word64? interval
             defaultItemLimit := ← Toml.orStandard standard.defaultItemLimit
               Toml.word32? limit }
  | _ => none

end EvaluatorSettings

namespace StorageSettings

def ofToml? (source : Toml) : Option StorageSettings := do
  match ← source.settings? ["data_dir"] with
  | [directory] =>
      some { dataDirectory := ← Toml.orStandard standard.dataDirectory
               (fun value => value.text?.map some) directory }
  | _ => none

end StorageSettings

namespace RegistrySettings

def ofToml? (source : Toml) : Option RegistrySettings := do
  match ← source.settings? ["sync"] with
  | [sync] =>
      some { sync := ← Toml.orStandard standard.sync
               (Toml.choice? ([SyncMode.mirror, .localOnly].map
                 fun mode => (mode.name, mode))) sync }
  | _ => none

end RegistrySettings

namespace Settings

def ofToml? (document : Toml) : Option Settings := do
  match ← document.settings?
      ["service", "pipeline", "evaluator", "storage", "registry"] with
  | [service, pipeline, evaluator, storage, registry] =>
      some { service := ← Toml.orStandard .standard ServiceSettings.ofToml?
               service
             pipeline := ← Toml.orStandard .standard PipelineSettings.ofToml?
               pipeline
             evaluator := ← Toml.orStandard .standard
               EvaluatorSettings.ofToml? evaluator
             storage := ← Toml.orStandard .standard StorageSettings.ofToml?
               storage
             registry := ← Toml.orStandard .standard RegistrySettings.ofToml?
               registry }
  | _ => none

end Settings

end AgentPipeline
