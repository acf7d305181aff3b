import AgentPipeline.Service.Delayed

/-!
# A scripted service

A service that answers from a script, for rehearsals without a network.  It
records every call.  What is not scripted succeeds with a small answer.
-/

namespace AgentPipeline

structure ScriptedService where
  /-- The calls received, in order. -/
  calls : List Request
  /-- Whether every call fails. -/
  offline : Bool
  /-- The answers of the stages that are still to be given. -/
  stageAnswers : PerStage (List (Except ServiceError Json))
  /-- The milliseconds that the calls of a stage take. -/
  stageDelays : PerStage Nat
  catalog : Catalog
  /-- The models of the user that the service knows. -/
  models : List CustomModel
  /-- The failure of every change of these models. -/
  mirrorError : Option ServiceError
  /-- The failure of every control request. -/
  controlError : Option ServiceError
  /-- The answers to polls that are still to be given. -/
  snapshots : List (Except ServiceError RunSnapshot)
  /-- The snapshot given last, which is repeated. -/
  lastSnapshot : Option RunSnapshot
  /-- The number of evaluator runs started. -/
  started : Nat
  /-- Failures that replace the answer to a start, a listing or a fetch. -/
  startError : Option ServiceError
  listError : Option ServiceError
  recordError : Option ServiceError
  /-- The record that a fetch answers. -/
  record : Option Json
  /-- The milliseconds that polls take. -/
  pollDelay : Nat

namespace ScriptedService

def new : ScriptedService where
  calls := []
  offline := false
  stageAnswers := .all []
  stageDelays := .all 0
  catalog := .empty
  models := []
  mirrorError := none
  controlError := none
  snapshots := []
  lastSnapshot := none
  started := 0
  startError := none
  listError := none
  recordError := none
  record := none
  pollDelay := 0

instance : Inhabited ScriptedService := ⟨new⟩

/-- The failure of a call while the service is offline. -/
def connectionRefused : ServiceError := .unreachable "connection refused"

/-- What a stage answers without a script. -/
def stageOutput : Stage → Json
  | .validate => .object [("errors", .array []), ("valid", .bool true)]
  | stage => .object [("ok", .bool true), ("stage", .string stage.agent)]

/-- Records a call. -/
def receive (service : ScriptedService) (request : Request) :
    ScriptedService :=
  { service with calls := service.calls ++ [request] }

/-- The milliseconds between a call and its answer. -/
def delay (service : ScriptedService) : Request → Nat
  | .stage request =>
      if service.offline then 0 else service.stageDelays.get request.stage
  | .poll .. => service.pollDelay
  | _ => 0

def answerStage (service : ScriptedService) (stage : Stage) :
    Except ServiceError Json × ScriptedService :=
  match service.stageAnswers.get stage with
  | [] => (.ok (stageOutput stage), service)
  | first :: rest =>
      (first, { service with
        stageAnswers := service.stageAnswers.set stage rest })

/-- The next scripted answer to a poll, otherwise the last snapshot again. -/
def answerPoll (service : ScriptedService) (offset : UInt64) :
    Except ServiceError RunSnapshot × ScriptedService :=
  match service.snapshots with
  | .ok snapshot :: rest =>
      (.ok snapshot, { service with
        snapshots := rest, lastSnapshot := some snapshot })
  | .error error :: rest => (.error error, { service with snapshots := rest })
  | [] =>
      (.ok (service.lastSnapshot.getD
        ⟨.running, offset, .empty, none, none, none⟩), service)

/-- An outcome, unless a failure replaces it. -/
def replacing {α : Type} (failure : Option ServiceError)
    (outcome : Except ServiceError α) : Except ServiceError α :=
  match failure with
  | none => outcome
  | some error => .error error

def modelsWithout (service : ScriptedService) (id : String) :
    List CustomModel :=
  service.models.filter fun model => model.id ≠ id

/-- Changes the models of the user, unless a failure is scripted. -/
def changeModels (service : ScriptedService) (models : List CustomModel) :
    Except ServiceError Unit × ScriptedService :=
  match service.mirrorError with
  | none => (.ok (), { service with models })
  | some error => (.error error, service)

/-- The identifier of the evaluator run with a number. -/
def runName (number : Nat) : String :=
  "run-" ++ Text.decimal number

/-- Takes the answer to a call from the script of a service that is online. -/
def answerOnline (service : ScriptedService) :
    (request : Request) → request.Outcome × ScriptedService
  | .stage request => service.answerStage request.stage
  | .catalog => (.ok service.catalog, service)
  | .listModels => (replacing service.listError (.ok service.models), service)
  | .saveModel model =>
      service.changeModels (service.modelsWithout model.id ++ [model])
  | .deleteModel id => service.changeModels (service.modelsWithout id)
  | .startEvaluator _ =>
      let number := service.started + 1
      (replacing service.startError (.ok ⟨runName number⟩),
        { service with started := number })
  | .poll _ offset => service.answerPoll offset
  | .control _ _ => (replacing service.controlError (.ok ()), service)
  | .fetchRecord run index =>
      let record := service.record.getD (.object
        [("index", .word32 index), ("run_id", .string run)])
      (replacing service.recordError (.ok record), service)

/-- The failure of a call while the service is offline; one that is scripted
for the call comes first. -/
def offlineError (service : ScriptedService) : Request → ServiceError
  | .listModels => service.listError.getD connectionRefused
  | .startEvaluator _ => service.startError.getD connectionRefused
  | .fetchRecord .. => service.recordError.getD connectionRefused
  | _ => connectionRefused

/-- Takes the answer to a call from the script. -/
def answer (service : ScriptedService) (request : Request) :
    request.Outcome × ScriptedService :=
  if service.offline then (.error (service.offlineError request), service)
  else service.answerOnline request

instance : DelayedService ScriptedService where
  receive := receive
  delay := delay
  answer := answer
  isSilent _ := false

end ScriptedService

end AgentPipeline
