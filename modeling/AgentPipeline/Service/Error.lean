import AgentPipeline.Json.Printer
import AgentPipeline.Json.Reader
import AgentPipeline.Text.Blank

/-!
# Errors of the service

Whatever goes wrong in a call of the service is one of four causes.
-/

namespace AgentPipeline

/-- Why a call of the service failed. -/
inductive ServiceError where
  | unreachable (message : String)
  | timeout (message : String)
  /-- The service answered with a status that is not a success. -/
  | status (code : Nat) (message : String)
  /-- The service answered with a body that could not be read. -/
  | decode (endpoint : String) (message : String)
deriving DecidableEq, Inhabited, Repr

namespace ServiceError

/-- The name of the cause. -/
def kind : ServiceError → String
  | .unreachable _ => "Unreachable"
  | .timeout _ => "Timeout"
  | .status .. => "Status"
  | .decode .. => "Decode"

def message : ServiceError → String
  | .unreachable reason => "agent service unreachable: " ++ reason
  | .timeout reason => "request timed out: " ++ reason
  | .status code reason => reason ++ " (HTTP " ++ Text.decimal code ++ ")"
  | .decode endpoint reason =>
      "unexpected response from " ++ endpoint ++ ": " ++ reason

/-- Whether the service is down, rather than that it refused the request. -/
def isConnectivity : ServiceError → Bool
  | .unreachable _ | .timeout _ => true
  | .status _ _ | .decode _ _ => false

/-- What is reported of an error answer without any text. -/
def emptyBodyMessage : String := "empty error response"

/-- The members that may hold the message of an error answer, in the order in
which they are tried. -/
def messageFields : List String := ["detail", "error", "message"]

/-- The message in a member of an error answer: a text as it is, another value
as JSON; `null` holds none. -/
def fieldMessage? (body : Json) (field : String) : Option String :=
  match body.member? field with
  | some (.string text) => some text
  | some .null => none
  | some other => some other.text
  | none => none

/-- The message of an error answer: the first member that holds one, otherwise
the trimmed body. -/
def messageOfBody (body : String) : String :=
  match (Json.parse? body).bind fun value =>
      messageFields.findSome? (fieldMessage? value) with
  | some found => found
  | none =>
      let trimmed := Text.trim body
      if trimmed.isEmpty then emptyBodyMessage else trimmed

end ServiceError

end AgentPipeline
