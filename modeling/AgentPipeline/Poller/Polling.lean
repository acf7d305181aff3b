import AgentPipeline.Poller.Basic

/-!
# Polling

A poll has two parts, the request and the handling of its answer, and other
operations may come between them.  An answer is dropped when the run is no
longer the one that was polled, or no longer running.
-/

namespace AgentPipeline.Poller

variable {σ : Type} [KeyValueStore σ]

/-- The poll of the run from its cursor on. -/
def nextPoll (poller : Poller σ) : Except EvaluatorError Poll :=
  match poller.run? with
  | none => .error .noActiveRun
  | some run =>
      if run.status = .running then .ok ⟨run.id, run.cursor⟩
      else .error .notRunning

/-- The run that a poll was sent for, if it is still running. -/
def polledRun? (poller : Poller σ) (poll : Poll) : Option EvaluatorRun :=
  poller.run?.filter fun run => run.id = poll.run && run.status = .running

/-- The events of a poll whose outcome has been written. -/
def pollEvents (run : EvaluatorRun) (outcome : PollOutcome) :
    List PollerEffect :=
  .announce (.pollTick run.id run.cursor
      (UInt64.ofNat run.progress.items.size))
    :: match outcome with
      | .settled status =>
          [.announce (.evaluatorStatusChanged run.id status true)]
      | _ => []

def handleSnapshot (poller : Poller σ) (poll : Poll)
    (snapshot : RunSnapshot) : Reaction σ PollOutcome :=
  match poller.polledRun? poll with
  | none => poller.answer [] .discarded
  | some run =>
      let (now, timed) := poller.readClock
      match run.takeOver snapshot now with
      | .error error =>
          (poller.fail error).after
            [.announce (.protocolViolation error.message)]
      | .ok (outcome, run) =>
          timed.commit { timed.dashboard with run := some run } fun poller =>
            poller.answer (pollEvents run outcome) outcome

def handleAnswer (poller : Poller σ) (poll : Poll)
    (outcome : Except ServiceError RunSnapshot) : Reaction σ PollOutcome :=
  match outcome with
  | .error error => poller.fail (.service error)
  | .ok snapshot => poller.handleSnapshot poll snapshot

/-- The timer becomes due: it sends its poll, or ends if there is no running
run. -/
def timerDue (poller : Poller σ) : Poller σ × Option Poll :=
  match poller.nextPoll with
  | .ok poll => ({ poller with timer := .polling poll }, some poll)
  | .error _ => (poller.stopTimer, none)

/-- Handles the answer to the poll of the timer.  The timer ends when the run
has settled; after a failure it goes on. -/
def handleTimerAnswer (poller : Poller σ) (poll : Poll)
    (outcome : Except ServiceError RunSnapshot) : Reaction σ PollOutcome :=
  let reaction := poller.handleAnswer poll outcome
  let goesOn := match reaction.result with
    | .ok outcome => outcome.keepsPolling
    | .error _ => true
  { reaction with
    poller :=
      if goesOn then reaction.poller.startTimer
      else reaction.poller.stopTimer }

end AgentPipeline.Poller
