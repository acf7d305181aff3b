import AgentPipeline.Http.Client
import AgentPipeline.Rehearsal.Cue

/-!
# A scripted server

A server at one address that gives scripted replies.  Requests to other
addresses find nobody.
-/

namespace AgentPipeline

/-- What the server does with a request. -/
structure ScriptedReply where
  status : Nat
  body : ByteArray
  /-- The milliseconds before the reply. -/
  delay : Nat
  /-- Whether the connection is closed without a reply. -/
  isDropped : Bool
  /-- Whether the connection is closed before the end of the body. -/
  isTruncated : Bool

namespace ScriptedReply

/-- The reply as the client receives it. -/
def received (reply : ScriptedReply) : HttpReply :=
  .received reply.status reply.body (!reply.isTruncated)

def ofScript? (document : Document) : Option ScriptedReply := do
  some { status := ← document.orElse "status" 200
         body := ← document.orElse "body" .empty
         delay := ← document.orElse "delay_ms" 0
         isDropped := ← document.orElse "drop" false
         isTruncated := ← document.orElse "truncate" false }

end ScriptedReply

namespace Request

/-- A call as a script writes it. -/
def ofScript? (document : Document) : Option Request := do
  match ← (document.need "call" : Option String) with
  | "run_stage" => (document.need "request").map .stage
  | "available_providers" => some .catalog
  | "list_custom_models" => some .listModels
  | "save_custom_model" => (document.need "model").map .saveModel
  | "delete_custom_model" => (document.need "id").map .deleteModel
  | "start_evaluator" => document.as?.map .startEvaluator
  | "poll" =>
      some (.poll (← document.need "run_id") (← document.need "offset"))
  | "control" =>
      some (.control (← document.need "run_id") (← document.need "action"))
  | "fetch_record" =>
      some (.fetchRecord (← document.need "run_id") (← document.need "index"))
  | _ => none

end Request

structure ScriptedServer where
  host : String
  port : Nat
deriving DecidableEq, Inhabited, Repr

namespace ScriptedServer

/-- The server with the placeholder for its address in a template filled in. -/
def address (server : ScriptedServer) : String :=
  server.host ++ ":" ++ Text.decimal server.port

/-- Whether requests to an address reach the server. -/
def isAt (server : ScriptedServer) (url : Url) : Bool :=
  !url.isSecure && url.host == server.host && url.port == server.port

/-- What the server sees of a call, and the outcome of the call. -/
def exchange (server : ScriptedServer) (client : HttpClient)
    (request : Request) (reply : ScriptedReply) :
    Option HttpRequest × request.Outcome :=
  match client.request? request with
  | none => (none, client.outcome request .unanswered)
  | some sent =>
      if server.isAt sent.url then
        let isOverdue := (client.timeLimit? request).any fun limit =>
          limit ≤ reply.delay
        (some sent, client.outcome request
          (if isOverdue then .overdue
          else if reply.isDropped then .unanswered
          else .replied reply.received))
      else (none, client.outcome request .unanswered)

end ScriptedServer

/-- A service at an address where nobody listens. -/
structure AbsentService where
  client : HttpClient
  calls : List Request

instance : DelayedService AbsentService where
  receive service request :=
    { service with calls := service.calls ++ [request] }
  delay _ _ := 0
  answer service request :=
    (service.client.outcome request .unanswered, service)
  isSilent _ := false

end AgentPipeline
