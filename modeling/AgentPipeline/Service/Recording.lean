import AgentPipeline.Service.Delayed

/-!
# Recorded services

A service that is known only by the answers that it has given so far.  It
answers the calls that are recorded as it did then; for a call beyond them it
falls silent and tells which call that was.
-/

namespace AgentPipeline

structure RecordedCall where
  request : Request
  outcome : request.Outcome
  /-- The milliseconds until the answer came. -/
  duration : Nat

/-- A service by the calls that it has answered, in order. -/
structure RecordedService where
  recorded : List RecordedCall
  /-- The number of calls received. -/
  received : Nat
  /-- The call that has no recorded answer. -/
  missing : Option Request

namespace RecordedService

def replaying (recorded : List RecordedCall) : RecordedService :=
  ⟨recorded, 0, none⟩

/-- The milliseconds until an answer that nobody waits for. -/
def never : Nat := 1000000000000000

/-- The duration of the next call; nothing is known of one that is not
recorded. -/
def nextDuration (service : RecordedService) : Nat :=
  match service.recorded[service.received]? with
  | some call => call.duration
  | none => never

/-- The answer to the call that was received last. -/
def answer (service : RecordedService) (request : Request) :
    request.Outcome × RecordedService :=
  let silent : request.Outcome × RecordedService :=
    (.error (.unreachable "no answer yet"),
      { service with missing := service.missing <|> some request })
  match service.recorded[service.received - 1]? with
  | none => silent
  | some call =>
      if same : call.request = request then (same ▸ call.outcome, service)
      else silent

instance : DelayedService RecordedService where
  receive service _ := { service with received := service.received + 1 }
  delay service _ := service.nextDuration
  answer := answer
  isSilent service := service.missing.isSome

/-- Whether the answer to a call is awaited while time passes; a call that is
not awaited cannot be interrupted. -/
def isAwaited : Request → Bool
  | .stage _ | .poll .. => true
  | _ => false

end RecordedService

end AgentPipeline
