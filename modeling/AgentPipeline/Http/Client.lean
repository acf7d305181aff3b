import AgentPipeline.Http.Url
import AgentPipeline.Service.Request
import AgentPipeline.Settings

/-!
# The service over HTTP

How a call of the service is sent as an HTTP request, and how what became of
the request is read as the outcome of the call.
-/

namespace AgentPipeline

/-- The request that is sent for a call. -/
structure HttpRequest where
  method : String
  url : Url
  /-- The JSON in the body, of the type `application/json`. -/
  body : Option Json
deriving DecidableEq

/-- What a server answers. -/
structure HttpReply where
  status : Nat
  body : ByteArray
  /-- Whether the body arrived to its end. -/
  isComplete : Bool
deriving Inhabited

namespace HttpReply

def isBodiless (status : Nat) : Bool :=
  status == 204 || status == 304

def received (status : Nat) (body : ByteArray) (isComplete : Bool) :
    HttpReply :=
  if isBodiless status then ⟨status, .empty, true⟩
  else ⟨status, body, isComplete⟩

def isSuccess (reply : HttpReply) : Bool :=
  200 ≤ reply.status && reply.status < 300

/-- The text of the body, unless it broke off. -/
def text? (reply : HttpReply) : Option String :=
  if reply.isComplete then some (Text.ofBytes reply.body) else none

end HttpReply

/-- What became of a request. -/
inductive Exchange where
  /-- Nobody answered: the connection was refused, or it was closed without an
  answer. -/
  | unanswered
  /-- The answer did not come in time. -/
  | overdue
  | replied (reply : HttpReply)
deriving Inhabited

namespace Request

/-- The method that a call is sent with. -/
def method : Request → String
  | .stage _ | .saveModel _ | .startEvaluator _ | .control .. => "POST"
  | .deleteModel _ => "DELETE"
  | .catalog | .listModels | .poll .. | .fetchRecord .. => "GET"

/-- The path under which the models of the user are found. -/
def modelsPath : String := "/api/custom-models"

/-- The path under which evaluator runs are found. -/
def runsPath : String := "/api/storage/evaluators/run"

/-- The path of a call; what is named in it is not escaped. -/
def path : Request → String
  | .stage request => request.stage.endpoint
  | .catalog => "/api/available-providers"
  | .listModels | .saveModel _ => modelsPath
  | .deleteModel id => modelsPath ++ "/" ++ id
  | .startEvaluator _ => runsPath
  | .poll run _ => runsPath ++ "/" ++ run
  | .control run action => runsPath ++ "/" ++ run ++ "/" ++ action.segment
  | .fetchRecord run index =>
      runsPath ++ "/" ++ run ++ "/record/" ++ Text.decimal index.toNat

/-- How errors name what a call asks for. -/
def endpoint : Request → String
  | .poll .. => "GET " ++ runsPath ++ "/\x7bid\x7d"
  | .fetchRecord .. =>
      "GET " ++ runsPath ++ "/\x7bid\x7d/record/\x7bindex\x7d"
  | other => other.path

/-- The JSON that a call carries. -/
def body? : Request → Option Json
  | .stage request => some request.body
  | .saveModel model => some model.encode
  | .startEvaluator request => some request.body
  | _ => none

/-- The address of a call at a base, unless it is no web address. -/
def url? (spelling? : List Char → Option (List Char)) (base : String)
    (request : Request) : Option Url :=
  (Url.parse? spelling? (base ++ request.path)).map fun url =>
    match request with
    | .poll _ offset => url.withField "offset" (Text.decimal offset.toNat)
    | _ => url

/-- Reads the body of a success; a call that only has to be carried out is
content with any. -/
def readAnswer (request : Request) (text : Option String) :
    Option request.Answer :=
  match request with
  | .stage _ => text.bind Json.parse?
  | .catalog => text.bind Catalog.decoder.parse?
  | .listModels => text.bind CustomModel.listingDecoder.parse?
  | .saveModel _ => some ()
  | .deleteModel _ => some ()
  | .startEvaluator _ => text.bind StartedRun.decoder.parse?
  | .poll .. => text.bind RunSnapshot.decoder.parse?
  | .control .. => some ()
  | .fetchRecord .. => text.bind Json.parse?

def encodeAnswer (request : Request) (answer : request.Answer) : Json :=
  match request, answer with
  | .stage _, (output : Json) => output
  | .catalog, (offered : Catalog) => offered.encode
  | .listModels, (models : List CustomModel) =>
      .array (models.map CustomModel.encode)
  | .saveModel _, _ => .null
  | .deleteModel _, _ => .null
  | .startEvaluator _, (started : StartedRun) => started.encode
  | .poll .., (snapshot : RunSnapshot) => snapshot.encode
  | .control .., _ => .null
  | .fetchRecord .., (record : Json) => record

end Request

namespace ServiceError

/-- The failure of a body that does not hold what was asked for. -/
def unreadable (endpoint body : String) : ServiceError :=
  .decode endpoint ("invalid JSON value: " ++ body)

/-- The failure of a body that broke off. -/
def brokenBody : ServiceError := .decode "" "error decoding response body"

end ServiceError

/-- What is needed to send calls. -/
structure HttpClient where
  /-- The address that the paths of calls are put behind. -/
  baseUrl : String
  /-- The milliseconds after which discovery and listing calls give up. -/
  discoveryTimeout : Nat
  /-- The spelling in ASCII of the name of a host outside ASCII, if it has
  one. -/
  spelling? : List Char → Option (List Char)
deriving Inhabited

namespace HttpClient

/-- The client of settings; slashes at the end of the address are dropped, and
no host outside ASCII is known. -/
def ofSettings (settings : ServiceSettings) : HttpClient where
  baseUrl := Text.dropTrailing '/' settings.baseUrl
  discoveryTimeout := settings.discoveryTimeout.toNat
  spelling? _ := none

/-- The milliseconds that a call waits for its answer. -/
def timeLimit? (client : HttpClient) : Request → Option Nat
  | .catalog | .listModels => some client.discoveryTimeout
  | _ => none

/-- What is sent for a call. -/
def request? (client : HttpClient) (request : Request) : Option HttpRequest :=
  (request.url? client.spelling? client.baseUrl).map fun url =>
    ⟨request.method, url, request.body?⟩

/-- How a request that got no answer is reported. -/
def sendingFailure (client : HttpClient) (request : Request) : String :=
  match request.url? client.spelling? client.baseUrl with
  | none => "builder error"
  | some url => "error sending request for url (" ++ url.text ++ ")"

/-- The failure of a call that nobody answers. -/
def refusal (client : HttpClient) (request : Request) : ServiceError :=
  .unreachable (client.sendingFailure request)

/-- The outcome of a call by what became of its request. -/
def outcome (client : HttpClient) (request : Request) :
    Exchange → request.Outcome
  | .unanswered => .error (client.refusal request)
  | .overdue => .error (.timeout (client.sendingFailure request))
  | .replied reply =>
      if reply.isSuccess then
        match request.readAnswer reply.text?, reply.text? with
        | some answer, _ => .ok answer
        | none, some text => .error (.unreadable request.endpoint text)
        | none, none => .error .brokenBody
      else
        .error (.status reply.status
          (ServiceError.messageOfBody (reply.text?.getD "")))

end HttpClient

end AgentPipeline
