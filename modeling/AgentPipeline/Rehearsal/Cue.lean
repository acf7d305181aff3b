import AgentPipeline.Codec.Member
import AgentPipeline.Model.Registry
import AgentPipeline.Rehearsal.Service
import AgentPipeline.Store.Memory

/-!
# Cues

A script is a list of objects, in each of which the member `do` names what
happens.  A cue changes what a scripted service answers, or which operations
of a store fail.
-/

namespace AgentPipeline

/-- The bytes of a file or a body: those of a text, or the items of the array
in a member `bytes`. -/
instance : JsonDecode ByteArray where
  decoder _ document :=
    match (document.as? : Option String) with
    | some text => some text.toUTF8
    | none => do
        let values : List Nat ← document.need "bytes"
        if values.all (· < 256) then
          some ⟨(values.map UInt8.ofNat).toArray⟩
        else none

namespace ServiceError

/-- A failure as a script writes it. -/
def ofScript? (document : Document) : Option ServiceError := do
  let reason ← document.orElse "message" ""
  match ← (document.need "kind" : Option String) with
  | "Unreachable" => some (.unreachable reason)
  | "Timeout" => some (.timeout reason)
  | "Status" => some (.status (← document.need "status") reason)
  | "Decode" => some (.decode (← document.orElse "endpoint" "") reason)
  | _ => none

end ServiceError

instance : JsonDecode ServiceError := ⟨fun _ => ServiceError.ofScript?⟩

/-- What can be put into the script of a service. -/
inductive Cue where
  | stageAnswer (stage : Stage) (outcome : Except ServiceError Json)
  | stageDelay (stage : Stage) (milliseconds : Nat)
  | offline (value : Bool)
  | catalog (catalog : Catalog)
  | models (models : List CustomModel)
  | mirrorError (error : Option ServiceError)
  | controlError (error : Option ServiceError)
  | snapshot (outcome : Except ServiceError RunSnapshot)
  | startError (error : Option ServiceError)
  | listError (error : Option ServiceError)
  | recordError (error : Option ServiceError)
  | record (value : Json)
  | pollDelay (milliseconds : Nat)

namespace Cue

def apply (cue : Cue) (service : ScriptedService) : ScriptedService :=
  match cue with
  | .stageAnswer stage outcome =>
      { service with
        stageAnswers := service.stageAnswers.set stage
          (service.stageAnswers.get stage ++ [outcome]) }
  | .stageDelay stage milliseconds =>
      { service with
        stageDelays := service.stageDelays.set stage milliseconds }
  | .offline value => { service with offline := value }
  | .catalog offered => { service with catalog := offered }
  | .models known => { service with models := known }
  | .mirrorError error => { service with mirrorError := error }
  | .controlError error => { service with controlError := error }
  | .snapshot outcome =>
      { service with snapshots := service.snapshots ++ [outcome] }
  | .startError error => { service with startError := error }
  | .listError error => { service with listError := error }
  | .recordError error => { service with recordError := error }
  | .record value => { service with record := some value }
  | .pollDelay milliseconds => { service with pollDelay := milliseconds }

/-- An outcome: a failure, or else a value. -/
def outcome? {α : Type} [JsonDecode α] (document : Document) :
    Option (Except ServiceError α) := do
  match ← document.want "err" with
  | some error => some (.error error)
  | none => (document.need "ok").map .ok

def ofScript? (document : Document) : Option Cue := do
  match ← (document.need "do" : Option String) with
  | "respond" =>
      some (.stageAnswer (← document.need "stage") (← outcome? document))
  | "delay" =>
      some (.stageDelay (← document.need "stage") (← document.need "ms"))
  | "offline" => (document.orElse "value" true).map .offline
  | "catalog" => (document.need "catalog").map .catalog
  | "remote" => (document.need "models").map .models
  | "fail_mirror" => (document.want "err").map .mirrorError
  | "fail_control" => (document.want "err").map .controlError
  | "snapshot" => (outcome? document).map .snapshot
  | "fail_start" => (document.want "err").map .startError
  | "fail_list" => (document.want "err").map .listError
  | "fail_record" => (document.want "err").map .recordError
  | "record" => (document.need "ok").map .record
  | "poll_delay" => (document.orElse "ms" 0).map .pollDelay
  | _ => none

end Cue

namespace Double

/-- A number as a script writes it: one that is not finite has a name. -/
def ofScript? (document : Document) : Option Double :=
  match document with
  | .string spelling =>
      match spelling.value with
      | some "nan" => some nan
      | some "inf" => some infinity
      | some "-inf" => some infinity.negate
      | _ => none
  | other => other.as?

end Double

namespace StageRequest

/-- A request of a stage as a script writes it; a previous output may be
`null`. -/
def ofScript? (document : Document) : Option StageRequest := do
  let temperature ←
    (document.member? "temperature").bind Double.ofScript?
  let model ← document.want "model"
  let input : StageInput ←
    match ← (document.need "stage" : Option Stage) with
    | .parse => some (.parse (← document.need "text"))
    | .reason =>
        some (.reason (← document.need "parsed") (← document.need "text"))
    | .generate =>
        let previous ← match document.member? "previous_output" with
          | none => some none
          | some found => found.as?.map some
        some (.generate (← document.need "parsed")
          (← document.need "reasoning") (← document.need "text")
          (← document.need "attempt") previous
          (← document.want "validation_errors"))
    | .validate => some (.validate (← document.need "generated"))
  some { input, model, temperature }

end StageRequest

instance : JsonDecode StageRequest := ⟨fun _ => StageRequest.ofScript?⟩

namespace StartRequest

/-- A request to start an evaluator run as a script writes it. -/
def ofScript? (document : Document) : Option StartRequest := do
  some { kind := ← document.need "evaluator"
         limit := ← document.need "limit"
         model := ← document.want "model" }

end StartRequest

instance : JsonDecode StartRequest := ⟨fun _ => StartRequest.ofScript?⟩

namespace RunControl

def decoder : Decoder RunControl :=
  Decoder.choice ([stop, suspend, resume].map fun action =>
    (action.segment, action))

end RunControl

instance : JsonDecode RunControl := ⟨RunControl.decoder⟩

namespace ModelRegistry

/-- The registry that a script describes; a reason says that the service did
not answer. -/
def ofScript? (document : Document) : Option ModelRegistry := do
  let reason ← document.want "offline"
  some { catalog := ← document.orElse "catalog" .empty
         custom := ← document.orElse "custom" []
         connectivity := reason.elim .online .unreachable }

end ModelRegistry

instance : JsonDecode ModelRegistry := ⟨fun _ => ModelRegistry.ofScript?⟩

namespace MemoryStore

/-- The store filled from an object with a text for every key. -/
def ofScript (document : Document) : MemoryStore :=
  match document with
  | .object members => members.foldl (fun store member =>
      match member.1.value, (member.2.as? : Option String) with
      | some key, some text => store.put key text
      | _, _ => store) .empty
  | _ => .empty

/-- The store as a cue leaves it: one sets which operations fail, and another
writes a text under a key. -/
def cued? (store : MemoryStore) (document : Document) :
    Option MemoryStore := do
  match ← (document.need "do" : Option String) with
  | "fail" =>
      some { store with faults := {
        get := ← document.orElse "get" false
        set := ← document.orElse "set" false
        remove := ← document.orElse "remove" false } }
  | "put" => some (store.put (← document.need "key") (← document.need "raw"))
  | _ => none

/-- The stored value of a key; a text that is no JSON is undecodable. -/
def value? (store : MemoryStore) (key : String) : Option Json :=
  (store.documents.find? key).map fun raw =>
    (Json.parse? raw).getD (.string "undecodable")

/-- A row for every run in the stored history, made of its members. -/
def runRows (store : MemoryStore) (row : (String → Json) → Json) : Json :=
  match store.value? StoreKey.history.name with
  | none => .null
  | some (.array items) => .array (items.map fun item => row fun name =>
      Json.orNull ((item.member? "run").bind (Json.member? name)))
  | some _ => .string "undecodable"

end MemoryStore

namespace ScriptedService

/-- The service before a script, which may begin offline. -/
def ofScript? (document : Document) : Option ScriptedService := do
  some { new with offline := ← document.orElse "start_offline" false }

/-- What is asked about a service by name: its models, or a summary of the
calls that it has received. -/
def view? (service : ScriptedService) : String → Option Json
  | "remote_models" =>
      some (.array (service.models.map CustomModel.encode))
  | "summary" =>
      let stages := service.calls.filterMap fun call => match call with
        | .stage request => some request.stage.encode
        | _ => none
      let offsets := service.calls.filterMap fun call => match call with
        | .poll _ offset => some (Json.word64 offset)
        | _ => none
      let controls := service.calls.filterMap fun call => match call with
        | .control _ action => some (Json.string action.segment)
        | _ => none
      some (.object [("stages", .array stages),
        ("requests", .nat stages.length), ("offsets", .array offsets),
        ("controls", .array controls), ("calls", .nat service.calls.length)])
  | _ => none

end ScriptedService

/-- What a step of a script that concerns the service or the store does to
both, and what it shows. -/
def scriptedStep? (service : ScriptedService) (store : MemoryStore)
    (document : Document) : Option (ScriptedService × MemoryStore × Json) := do
  let name : String ← document.need "do"
  match Cue.ofScript? document, service.view? name with
  | some cue, _ => some (cue.apply service, store, .null)
  | none, some view => some (service, store, view)
  | none, none =>
      (store.cued? document).map fun store => (service, store, .null)

end AgentPipeline
