import AgentPipeline.Codec.Evaluation
import AgentPipeline.Evaluation.Snapshot
import AgentPipeline.Event
import AgentPipeline.Service.Request
import AgentPipeline.Supply

/-!
# The poller

The poller keeps the dashboard of one session.  It writes every change of the
dashboard to the store before it announces it.  While it follows a running
evaluator run a timer polls the service: a poll is due one interval after the
timer was started, and then one interval after each answer was handled.
-/

namespace AgentPipeline

/-- A poll whose answer is waited for. -/
structure Poll where
  run : String
  offset : UInt64
deriving DecidableEq, Inhabited, Repr

namespace Poll

def request (poll : Poll) : Request := .poll poll.run poll.offset

end Poll

/-- The timer of a session; there is at most one. -/
inductive Timer where
  | off
  /-- The next poll is due at a moment of the clock. -/
  | sleeping (due : Nat)
  /-- The poll of the timer waits for its answer. -/
  | polling (poll : Poll)
deriving DecidableEq, Inhabited, Repr

namespace Timer

def isAlive : Timer → Bool
  | .off => false
  | .sleeping _ | .polling _ => true

end Timer

/-- The poller over a store. -/
structure Poller (σ : Type) where
  store : σ
  supply : Supply
  /-- The milliseconds between two polls. -/
  interval : Nat
  /-- The milliseconds that have passed. -/
  clock : Nat
  dashboard : Dashboard
  timer : Timer
  /-- Whether polling was picked up from the store and nobody has asked. -/
  resumed : Bool
deriving DecidableEq, Inhabited

/-- What others notice of an operation. -/
inductive PollerEffect where
  | announce (event : Event)
  | call (request : Request)
deriving DecidableEq

/-- What an operation did. -/
structure Reaction (σ α : Type) where
  poller : Poller σ
  /-- The effects in the order in which they happen. -/
  effects : List PollerEffect
  result : Except EvaluatorError α

namespace Reaction

variable {σ α : Type}

/-- The reaction with effects that happen before it. -/
def after (effects : List PollerEffect) (reaction : Reaction σ α) :
    Reaction σ α :=
  { reaction with effects := effects ++ reaction.effects }

end Reaction

namespace Poller

variable {σ α : Type} [KeyValueStore σ]

/-- The operation returns a value. -/
def answer (poller : Poller σ) (effects : List PollerEffect) (value : α) :
    Reaction σ α :=
  ⟨poller, effects, .ok value⟩

/-- The operation returns an error. -/
def fail (poller : Poller σ) (error : EvaluatorError) : Reaction σ α :=
  ⟨poller, [], .error error⟩

def run? (poller : Poller σ) : Option EvaluatorRun := poller.dashboard.run

/-- Whether the run still has work on the service. -/
def isBusy (poller : Poller σ) : Bool :=
  poller.run?.any fun run => run.status.isLive

def isPolling (poller : Poller σ) : Bool := poller.timer.isAlive

/-- Starts the timer in place of the one before. -/
def startTimer (poller : Poller σ) : Poller σ :=
  { poller with timer := .sleeping (poller.clock + poller.interval) }

/-- Stops the timer; the answer to its poll is no longer waited for. -/
def stopTimer (poller : Poller σ) : Poller σ :=
  { poller with timer := .off }

/-- Takes over a dashboard and writes it. -/
def write (poller : Poller σ) (dashboard : Dashboard) :
    Except StorageError Unit × Poller σ :=
  let (outcome, store) := KeyValueStore.write poller.store
    StoreKey.dashboard.name dashboard.encode
  (outcome, { poller with store, dashboard })

/-- Takes over a dashboard and writes it, and goes on once it is written. -/
def commit (poller : Poller σ) (dashboard : Dashboard)
    (goOn : Poller σ → Reaction σ α) : Reaction σ α :=
  match poller.write dashboard with
  | (.ok (), poller) => goOn poller
  | (.error error, poller) => poller.fail (.storage error)

/-- The present time. -/
def readClock (poller : Poller σ) : Timestamp × Poller σ :=
  let (now, supply) := poller.supply.tick
  (now, { poller with supply })

end Poller

end AgentPipeline
