import AgentPipeline.Json.Decode
import AgentPipeline.Json.Printer

/-!
# Stores

State is kept between sessions as whole JSON documents under a few keys.  A
write replaces the document of its key, and a document that can no longer be
read counts as absent.
-/

namespace AgentPipeline

/-- Why a store could not be used. -/
inductive StorageError where
  /-- The place of a document could not be read or written. -/
  | io (path : String) (cause : String)
  /-- A value has no JSON form. -/
  | encode (key : String) (cause : String)
deriving DecidableEq, Inhabited, Repr

namespace StorageError

/-- The name of the cause. -/
def kind : StorageError → String
  | .io .. => "Io"
  | .encode .. => "Encode"

def message : StorageError → String
  | .io path cause =>
      "Failed to access storage at " ++ path ++ ": " ++ cause
  | .encode key cause =>
      "Failed to encode value for key " ++ key ++ ": " ++ cause

end StorageError

/-- The keys under which state is kept. -/
inductive StoreKey where
  | selectedModel
  | customModels
  | dashboard
  | history
deriving DecidableEq, Inhabited, Repr

namespace StoreKey

def all : List StoreKey := [selectedModel, customModels, dashboard, history]

def name : StoreKey → String
  | .selectedModel => "selected_model"
  | .customModels => "custom_models"
  | .dashboard => "evaluator_dashboard"
  | .history => "pipeline_history"

end StoreKey

/-- A store of texts by key, in which the last write of a key counts. -/
class KeyValueStore (σ : Type) where
  get : σ → String → Except StorageError (Option String)
  set : σ → String → String → Except StorageError Unit × σ
  remove : σ → String → Except StorageError Unit × σ

namespace KeyValueStore

variable {σ : Type} [KeyValueStore σ]

/-- Reads the document of a key; one that cannot be decoded counts as
absent. -/
def read {α : Type} (decoder : Decoder α) (store : σ) (key : String) :
    Except StorageError (Option α) :=
  (get store key).map fun found => found.bind decoder.parse?

def write (store : σ) (key : String) (value : Json) :
    Except StorageError Unit × σ :=
  set store key value.text

/-- Writes a value that may have no JSON form, for the reason given. -/
def writeEncoded (store : σ) (key : String) (value : Except String Json) :
    Except StorageError Unit × σ :=
  match value with
  | .ok value => write store key value
  | .error cause => (.error (.encode key cause), store)

end KeyValueStore

end AgentPipeline
