import AgentPipeline.Service.Request

/-!
# Answers that take time

A service may answer a call some time after it was received.  Whoever does not
wait takes the answer at once.
-/

namespace AgentPipeline

/-- A service whose answers take time. -/
class DelayedService (ς : Type) where
  /-- The service when a call has reached it. -/
  receive : ς → Request → ς
  /-- The milliseconds between the next call and its answer. -/
  delay : ς → Request → Nat
  /-- Takes the answer to the call that was received last. -/
  answer : ς → (request : Request) → request.Outcome × ς
  /-- Whether an answer was taken that the service did not have. -/
  isSilent : ς → Bool

instance {ς : Type} [DelayedService ς] : AgentService ς where
  call request service :=
    DelayedService.answer (DelayedService.receive service request) request

end AgentPipeline
