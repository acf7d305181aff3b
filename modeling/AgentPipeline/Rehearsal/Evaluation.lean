import AgentPipeline.Poller.Polling
import AgentPipeline.Poller.Session
import AgentPipeline.Rehearsal.Notice
import AgentPipeline.Service.Delayed

/-!
# Rehearsals of evaluator sessions

A rehearsal runs a poller against a service.  Its clock stands still except
while somebody waits.
-/

namespace AgentPipeline

/-- The answer to a poll that is still on its way. -/
structure DuePoll where
  sentAt : Nat
  dueAt : Nat
  poll : Poll
  outcome : Except ServiceError RunSnapshot

/-- A store with the sessions over it, one at a time. -/
structure EvaluatorRehearsal (σ ς : Type) where
  service : ς
  /-- The milliseconds between two polls of a session. -/
  interval : Nat
  clock : Nat
  /-- The store between the sessions. -/
  store : σ
  supply : Supply
  session : Option (Poller σ)
  timerAnswer : Option DuePoll
  /-- The answers to polls that were asked for, by the numbers of the polls. -/
  answers : List (Nat × DuePoll)
  /-- The polls that were handled, and their results. -/
  handled : List (Nat × Except EvaluatorError PollOutcome)
  /-- The number of polls asked for. -/
  asked : Nat
  /-- What has happened, in order. -/
  log : List Notice

namespace EvaluatorRehearsal

variable {σ ς α : Type} [KeyValueStore σ] [DelayedService ς]

/-- A rehearsal without a session. -/
def new (service : ς) (store : σ) (supply : Supply)
    (interval : Nat) : EvaluatorRehearsal σ ς where
  service
  interval
  clock := 0
  store
  supply
  session := none
  timerAnswer := none
  answers := []
  handled := []
  asked := 0
  log := []

/-- Notes what others see of an operation. -/
def note (rehearsal : EvaluatorRehearsal σ ς) (effects : List PollerEffect) :
    EvaluatorRehearsal σ ς :=
  { rehearsal with
    log := rehearsal.log ++ effects.map fun effect => match effect with
      | .announce event => .event event
      | .call request => .call request }

/-- Takes over the poller of the session.  The answer to a poll of a timer
that was stopped is dropped. -/
def keep (rehearsal : EvaluatorRehearsal σ ς) (poller : Poller σ) :
    EvaluatorRehearsal σ ς :=
  { rehearsal with
    session := some poller
    store := poller.store
    supply := poller.supply
    timerAnswer := match poller.timer with
      | .polling _ => rehearsal.timerAnswer
      | .off | .sleeping _ => none }

/-- Ends the session with its poller as it was left. -/
def endSession (rehearsal : EvaluatorRehearsal σ ς) (poller : Poller σ) :
    EvaluatorRehearsal σ ς :=
  { rehearsal with
    session := none
    store := poller.store
    supply := poller.supply
    timerAnswer := none }

/-- Takes over what an operation did. -/
def take (rehearsal : EvaluatorRehearsal σ ς) (reaction : Reaction σ α) :
    EvaluatorRehearsal σ ς × Except EvaluatorError α :=
  ((rehearsal.keep reaction.poller).note reaction.effects, reaction.result)

/-- Carries out an operation that asks the service. -/
def carryOut (rehearsal : EvaluatorRehearsal σ ς) (poller : Poller σ)
    (operation : Poller σ → ς → Reaction σ α × ς) :
    EvaluatorRehearsal σ ς × Except EvaluatorError α :=
  let (reaction, service) := operation poller rehearsal.service
  { rehearsal with service }.take reaction

/-- Sends a poll; the answer is taken from the service at once. -/
def send (rehearsal : EvaluatorRehearsal σ ς) (poll : Poll) :
    EvaluatorRehearsal σ ς × DuePoll :=
  let delay := DelayedService.delay rehearsal.service poll.request
  let received := DelayedService.receive rehearsal.service poll.request
  let (outcome, service) := DelayedService.answer received poll.request
  ({ rehearsal with service }.note [.call poll.request],
    ⟨rehearsal.clock, rehearsal.clock + delay, poll, outcome⟩)

/-- Something that a rehearsal waits for. -/
inductive Happening where
  | timer
  | timerAnswer (due : DuePoll)
  | answer (number : Nat) (due : DuePoll)

/-- What is waited for, with the moments at which it happens. -/
def happenings (rehearsal : EvaluatorRehearsal σ ς) : List (Nat × Happening) :=
  let timer := match rehearsal.session.map (·.timer) with
    | some (.sleeping due) => [(due, Happening.timer)]
    | _ => []
  timer
    ++ (rehearsal.timerAnswer.map fun due =>
      (due.dueAt, Happening.timerAnswer due)).toList
    ++ rehearsal.answers.map fun entry =>
      (entry.2.dueAt, Happening.answer entry.1 entry.2)

/-- What happens first. -/
def next? (rehearsal : EvaluatorRehearsal σ ς) : Option (Nat × Happening) :=
  rehearsal.happenings.foldl (fun first entry =>
    match first with
    | none => some entry
    | some earlier => if entry.1 < earlier.1 then some entry else first) none

def setClock (rehearsal : EvaluatorRehearsal σ ς) (clock : Nat) :
    EvaluatorRehearsal σ ς :=
  { rehearsal with
    clock
    session := rehearsal.session.map fun poller => { poller with clock }
    log := if rehearsal.clock < clock then rehearsal.log ++ [.waited]
      else rehearsal.log }

/-- Lets something happen. -/
def occur (rehearsal : EvaluatorRehearsal σ ς) (happening : Happening) :
    EvaluatorRehearsal σ ς :=
  match happening, rehearsal.session with
  | .timer, some poller =>
      match poller.timerDue with
      | (poller, none) => rehearsal.keep poller
      | (poller, some poll) =>
          let (rehearsal, due) := (rehearsal.keep poller).send poll
          { rehearsal with timerAnswer := some due }
  | .timerAnswer due, some poller =>
      (rehearsal.take (poller.handleTimerAnswer due.poll due.outcome)).1
  | .answer number due, some poller =>
      let waiting := { rehearsal with
        answers := rehearsal.answers.filter fun entry => entry.1 ≠ number }
      let (rehearsal, result) :=
        waiting.take (poller.handleAnswer due.poll due.outcome)
      { rehearsal with handled := rehearsal.handled ++ [(number, result)] }
  | .answer number _, none =>
      { rehearsal with
        answers := rehearsal.answers.filter fun entry => entry.1 ≠ number }
  | .timer, none | .timerAnswer _, none =>
      { rehearsal with timerAnswer := none }

/-- Lets a number of things happen that are due before a moment. -/
def runThings (rehearsal : EvaluatorRehearsal σ ς) (moment : Nat) :
    Nat → EvaluatorRehearsal σ ς
  | 0 => rehearsal
  | more + 1 =>
      match rehearsal.next? with
      | none => rehearsal
      | some (due, happening) =>
          if due ≤ moment then
            ((rehearsal.setClock (max due rehearsal.clock)).occur
              happening).runThings moment more
          else rehearsal

/-- Lets time pass until a moment.  In every millisecond a timer may become
due and have its answer. -/
def runUntil (rehearsal : EvaluatorRehearsal σ ς) (moment : Nat) :
    EvaluatorRehearsal σ ς :=
  (rehearsal.runThings moment
    (2 * (moment - rehearsal.clock) + rehearsal.answers.length + 2)).setClock
      (max moment rehearsal.clock)

/-- Opens a session that touches nothing. -/
def openPassive (rehearsal : EvaluatorRehearsal σ ς) :
    EvaluatorRehearsal σ ς × Except EvaluatorError Unit :=
  match Poller.openPassive rehearsal.store rehearsal.supply rehearsal.interval
      rehearsal.clock with
  | .error error => (rehearsal, .error (.storage error))
  | .ok poller => (rehearsal.keep poller, .ok ())

/-- Opens a session and goes on with the run that it finds; without success
there is no session. -/
def openSession (rehearsal : EvaluatorRehearsal σ ς) :
    EvaluatorRehearsal σ ς × Except EvaluatorError Unit :=
  match Poller.openPassive rehearsal.store rehearsal.supply rehearsal.interval
      rehearsal.clock with
  | .error error => (rehearsal, .error (.storage error))
  | .ok poller =>
      match rehearsal.carryOut poller Poller.rehydrate with
      | (opened, .ok ()) => (opened, .ok ())
      | (opened, .error error) =>
          ({ opened with session := none, timerAnswer := none }, .error error)

/-- Drops the session; what is left to do is done at once, unless nobody is
there to do it. -/
def dropSession (rehearsal : EvaluatorRehearsal σ ς) (attended : Bool) :
    EvaluatorRehearsal σ ς :=
  match rehearsal.session with
  | none => rehearsal
  | some poller =>
      let (poller, effects, teardown) := poller.drop false
      let dropped := (rehearsal.endSession poller).note effects
      if attended then
        let (poller, effects, service) :=
          poller.finishTeardown teardown dropped.service
        ({ dropped with service }.endSession poller).note effects
      else dropped

def closeSession (rehearsal : EvaluatorRehearsal σ ς) :
    EvaluatorRehearsal σ ς :=
  match rehearsal.session with
  | none => rehearsal
  | some poller =>
      let (poller, effects, service) := poller.close rehearsal.service
      ({ rehearsal with service }.endSession poller).note effects

/-- Ends the session and leaves its run going. -/
def detachSession (rehearsal : EvaluatorRehearsal σ ς) :
    EvaluatorRehearsal σ ς :=
  match rehearsal.session with
  | none => rehearsal
  | some poller => rehearsal.endSession poller.detach

/-- Asks for a poll: either it is refused at once, or it has a number. -/
def askPoll (rehearsal : EvaluatorRehearsal σ ς) (poller : Poller σ) :
    EvaluatorRehearsal σ ς × Except EvaluatorError Nat :=
  match poller.nextPoll with
  | .error error => (rehearsal, .error error)
  | .ok poll =>
      let number := rehearsal.asked + 1
      let (sent, due) := rehearsal.send poll
      ({ sent with
          asked := number, answers := sent.answers ++ [(number, due)] },
        .ok number)

/-- Lets time pass until a poll has been handled. -/
def awaitPoll (rehearsal : EvaluatorRehearsal σ ς) (number : Nat) :
    EvaluatorRehearsal σ ς × Option (Except EvaluatorError PollOutcome) :=
  let waited := match rehearsal.answers.lookup number with
    | none => rehearsal
    | some due => rehearsal.runUntil due.dueAt
  (waited, waited.handled.lookup number)

end EvaluatorRehearsal

end AgentPipeline
