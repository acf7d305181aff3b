import AgentPipeline.Rehearsal.Cue
import AgentPipeline.Rehearsal.Evaluation
import AgentPipeline.Rehearsal.Order.Basic

/-!
# Orders to an evaluator session
-/

namespace AgentPipeline

/-- The result of a poll as it is written down. -/
instance : JsonEncode PollOutcome where
  encode
    | .advanced cursor => .object [("advanced", .word64 cursor)]
    | .unchanged => .string "unchanged"
    | .settled status => .object [("settled", status.encode)]
    | .discarded => .string "discarded"

abbrev ScriptedSessions := EvaluatorRehearsal MemoryStore ScriptedService

namespace ScriptedSessions

variable {α : Type}

/-- Writes down the result of an operation. -/
def written [JsonEncode α]
    (outcome : ScriptedSessions × Except EvaluatorError α) :
    ScriptedSessions × Json :=
  (outcome.1, Failure.encodeOutcome outcome.2)

/-- Waits for the answer to a poll that was asked for. -/
def awaited (sessions : ScriptedSessions) (asked : Except EvaluatorError Nat) :
    ScriptedSessions × Json :=
  match asked with
  | .error error => (sessions, Failure.encode error)
  | .ok number =>
      let (sessions, result) := sessions.awaitPoll number
      (sessions, (result.map Failure.encodeOutcome).getD .null)

/-- An order to an open session. -/
def inSession? (sessions : ScriptedSessions) (poller : Poller MemoryStore)
    (name : String) (order : Document) :
    Option (ScriptedSessions × Json) := do
  match name with
  | "start" =>
      let request ← StartRequest.ofScript? order
      some (written (sessions.carryOut poller
        (·.start request.kind request.limit request.model)))
  | "poll" =>
      let (sessions, asked) := sessions.askPoll poller
      some (awaited sessions asked)
  | "suspend" =>
      let silent ← order.orElse "silent" false
      some (written (sessions.carryOut poller (·.suspend silent)))
  | "resume" => some (written (sessions.carryOut poller (·.resume)))
  | "stop" => some (written (sessions.carryOut poller (·.stop)))
  | "view_record" =>
      let index ← order.need "index"
      some (written (sessions.carryOut poller (·.viewRecord index)))
  | "clear" => some (written (sessions.take poller.clear))
  | "select" =>
      let kind ← order.need "evaluator"
      some (written (sessions.take (poller.selectEvaluator kind)))
  | "set_limit" =>
      let kind ← order.need "evaluator"
      let limit ← order.need "limit"
      some (written (sessions.take (poller.setItemLimit kind limit)))
  | "take_resumed" =>
      let (resumed, poller) := poller.takeResumed
      some (sessions.keep poller, .bool resumed)
  | _ => none

/-- A step of a script that may be given while a poll is on its way. -/
def step? (sessions : ScriptedSessions) (name : String) (order : Document) :
    Option (ScriptedSessions × Json) := do
  match name with
  | "sleep" =>
      let time ← order.need "ms"
      some (sessions.runUntil (sessions.clock + time), .null)
  | "close" => some (sessions.closeSession, .null)
  | "drop" => some (sessions.dropSession true, .null)
  | "detach" => some (sessions.detachSession, .null)
  | _ =>
      let obeyed := sessions.session.bind fun poller =>
        sessions.inSession? poller name order
      match obeyed with
      | some outcome => some outcome
      | none =>
          let (service, store, shown) ←
            scriptedStep? sessions.service sessions.store order
          let session := sessions.session.map fun poller =>
            { poller with store }
          some ({ sessions with service, store, session }, shown)

/-- Opens a session in place of the one before, which is dropped unseen. -/
def reopened (sessions : ScriptedSessions) (isPassive : Bool) :
    ScriptedSessions × Json :=
  let dropped := sessions.dropSession true
  let quiet :=
    { dropped with log := dropped.log.filter (·.event?.isNone) }
  let (opened, outcome) :=
    if isPassive then quiet.openPassive else quiet.openSession
  (opened, Failure.encodeAttempt outcome)

/-- The sessions with a time that polls take. -/
def withPollDelay (sessions : ScriptedSessions) (pollDelay : Nat) :
    ScriptedSessions :=
  { sessions with service := { sessions.service with pollDelay } }

/-- A poll that takes a time of its own, with steps while it is on its way. -/
def slowPoll? (sessions : ScriptedSessions) (order : Document) :
    Option (ScriptedSessions × Json) := do
  let poller ← sessions.session
  let usual := sessions.service.pollDelay
  let (sent, asked) :=
    (sessions.withPollDelay (← order.need "delay_ms")).askPoll poller
  let begun := (withPollDelay sent 0).runUntil (sent.clock + 1)
  let (meanwhile, results) ← (order.items "during").foldlM
    (fun (sessions, results) order => do
      let (sessions, result) ←
        step? sessions (← order.need "do") order
      some (sessions, results ++ [result])) (begun, [])
  let (ended, result) := awaited meanwhile asked
  some (withPollDelay ended usual,
    .object [("poll", result), ("during", .array results)])

/-- A step of a script; whatever is ready happens after it. -/
def obey? (sessions : ScriptedSessions) (order : Document) :
    Option (ScriptedSessions × Json) := do
  let name ← order.need "do"
  let (next, result) ← match name with
    | "open" => some (sessions.reopened false)
    | "open_passive" => some (sessions.reopened true)
    | "slow_poll" => sessions.slowPoll? order
    | _ => sessions.step? name order
  some (next.runUntil next.clock, result)

end ScriptedSessions

end AgentPipeline
