import AgentPipeline.Codec.Evaluation
import AgentPipeline.Codec.Model
import AgentPipeline.Codec.Run
import AgentPipeline.Service.Error

/-!
# Requests to the service

The calls that the service answers, each with the type of its answer, and the
bodies that they carry.
-/

namespace AgentPipeline

/-- The members of a body that say which model to use; the service chooses
when there is none. -/
def ModelConfig.bodyMembers (config : Option ModelConfig) :
    List (String × Json) :=
  match config with
  | none => []
  | some chosen =>
      [("model", .string chosen.model)]
        ++ Json.optionalMember "model_config"
          (chosen.connection.map ModelConnection.encode)

/-- What a stage is asked to work on. -/
inductive StageInput where
  | parse (text : String)
  | reason (parsed : Json) (text : String)
  /-- A further attempt comes with the output of the one before and the
  violations that were found in it. -/
  | generate (parsed reasoning : Json) (text : String) (attempt : UInt32)
      (previousOutput : Option Json) (validationErrors : Option (List Json))
  | validate (generated : Json)
deriving DecidableEq

instance : Inhabited StageInput := ⟨.parse ""⟩

structure StageRequest where
  input : StageInput
  model : Option ModelConfig
  temperature : Double
deriving DecidableEq, Inhabited

namespace StageInput

def stage : StageInput → Stage
  | .parse .. => .parse
  | .reason .. => .reason
  | .generate .. => .generate
  | .validate .. => .validate

def bodyMembers : StageInput → List (String × Json)
  | .parse text => [("text", .string text)]
  | .reason parsed text => [("parsed", parsed), ("text", .string text)]
  | .generate parsed reasoning text attempt previousOutput validationErrors =>
      [("parsed", parsed), ("reasoning", reasoning), ("text", .string text)]
        ++ Json.optionalMember "previous_output" previousOutput
        ++ Json.optionalMember "validation_errors"
          (validationErrors.map .array)
        ++ [("attempt", .word32 attempt)]
  | .validate generated => [("generated", generated)]

end StageInput

namespace StageRequest

def stage (request : StageRequest) : Stage := request.input.stage

def body (request : StageRequest) : Json :=
  .object (request.input.bodyMembers
    ++ ModelConfig.bodyMembers request.model
    ++ [("temperature", .double request.temperature)])

end StageRequest

/-- A request to start an evaluator run. -/
structure StartRequest where
  kind : String
  limit : UInt32
  model : Option ModelConfig
deriving DecidableEq, Inhabited

namespace StartRequest

def body (request : StartRequest) : Json :=
  .object ([("evaluator", .string request.kind),
    ("limit", .word32 request.limit)]
    ++ ModelConfig.bodyMembers request.model)

end StartRequest

/-- What the service is told to do with an evaluator run. -/
inductive RunControl where
  | stop
  | suspend
  | resume
deriving DecidableEq, Inhabited, Repr

namespace RunControl

/-- The segment of the path that names the action. -/
def segment : RunControl → String
  | .stop => "stop"
  | .suspend => "suspend"
  | .resume => "resume"

end RunControl

/-- A call of the service. -/
inductive Request where
  | stage (request : StageRequest)
  | catalog
  /-- The models of the user that the service knows. -/
  | listModels
  | saveModel (model : CustomModel)
  | deleteModel (id : String)
  | startEvaluator (request : StartRequest)
  /-- The progress of an evaluator run from an offset on. -/
  | poll (run : String) (offset : UInt64)
  | control (run : String) (action : RunControl)
  /-- The full record of an item. -/
  | fetchRecord (run : String) (index : UInt32)
deriving DecidableEq, Inhabited

namespace Request

/-- The JSON form of a call in a record of calls. -/
def encode : Request → Json
  | .stage request =>
      .object [("call", .string "stage"), ("stage", request.stage.encode),
        ("body", request.body)]
  | .catalog => .object [("call", .string "available_providers")]
  | .listModels => .object [("call", .string "list_custom_models")]
  | .saveModel model =>
      .object [("call", .string "save_custom_model"), ("id", .string model.id)]
  | .deleteModel id =>
      .object [("call", .string "delete_custom_model"), ("id", .string id)]
  | .startEvaluator request =>
      .object [("call", .string "start_evaluator"), ("body", request.body)]
  | .poll run offset =>
      .object [("call", .string "poll"), ("run_id", .string run),
        ("offset", .word64 offset)]
  | .control run action =>
      .object [("call", .string "control"), ("run_id", .string run),
        ("action", .string action.segment)]
  | .fetchRecord run index =>
      .object [("call", .string "fetch_record"), ("run_id", .string run),
        ("index", .word32 index)]

/-- What the service answers when the call succeeds. -/
def Answer : Request → Type
  | .stage _ => Json
  | .catalog => Catalog
  | .listModels => List CustomModel
  | .saveModel _ => Unit
  | .deleteModel _ => Unit
  | .startEvaluator _ => StartedRun
  | .poll _ _ => RunSnapshot
  | .control _ _ => Unit
  | .fetchRecord _ _ => Json

abbrev Outcome (request : Request) : Type :=
  Except ServiceError request.Answer

end Request

/-- A service that answers a call at once, given its state. -/
class AgentService (σ : Type) where
  call : (request : Request) → σ → request.Outcome × σ

end AgentPipeline
