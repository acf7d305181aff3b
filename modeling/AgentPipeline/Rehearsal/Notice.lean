import AgentPipeline.Event
import AgentPipeline.Service.Request

/-!
# What happens in a rehearsal
-/

namespace AgentPipeline

/-- Something that happened in a rehearsal. -/
inductive Notice where
  | event (event : Event)
  | call (request : Request)
  /-- The clock went on while an answer was waited for. -/
  | waited
deriving DecidableEq

namespace Notice

def event? : Notice → Option Event
  | .event announced => some announced
  | _ => none

def call? : Notice → Option Request
  | .call received => some received
  | _ => none

end Notice

end AgentPipeline
