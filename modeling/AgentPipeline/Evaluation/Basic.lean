import AgentPipeline.Json.Value
import AgentPipeline.Timestamp

/-!
# Evaluator runs

The service evaluates a batch of items on its own.  The client follows such a
run with a cursor into the log of its progress and keeps what it has seen in a
dashboard.
-/

namespace AgentPipeline

/-- The status of an evaluator run as the client sees it. -/
inductive EvaluatorStatus where
  | idle
  | running
  | suspended
  | cancelled
  | completed
  | failed
deriving DecidableEq, Inhabited, Repr

namespace EvaluatorStatus

/-- Cancelled, completed or failed. -/
def isTerminal : EvaluatorStatus → Bool
  | .cancelled | .completed | .failed => true
  | .idle | .running | .suspended => false

/-- Running or suspended: the service still has work for the run. -/
def isLive : EvaluatorStatus → Bool
  | .running | .suspended => true
  | .idle | .cancelled | .completed | .failed => false

/-- The name of the status in records and on the terminal. -/
def name : EvaluatorStatus → String
  | .idle => "idle"
  | .running => "running"
  | .suspended => "suspended"
  | .cancelled => "cancelled"
  | .completed => "completed"
  | .failed => "failed"

end EvaluatorStatus

/-- Tokens used so far. -/
structure TokenCounters where
  prompt : UInt64
  completion : UInt64
  total : UInt64
deriving DecidableEq, Inhabited, Repr

namespace TokenCounters

def zero : TokenCounters := ⟨0, 0, 0⟩

end TokenCounters

structure ItemProgress where
  /-- What the service says about each of the stages of the item. -/
  stageStatuses : SortedMap String String
  tokens : TokenCounters
  /-- Whether the full record can be fetched. -/
  recordAvailable : Bool
deriving DecidableEq, Inhabited

structure RunProgress where
  items : SortedMap UInt32 ItemProgress
  tokens : TokenCounters
deriving DecidableEq, Inhabited

namespace RunProgress

def empty : RunProgress := ⟨.empty, .zero⟩

end RunProgress

/-- What the client knows about an evaluator run. -/
structure EvaluatorRun where
  kind : String
  id : String
  status : EvaluatorStatus
  /-- How much of the log of the run has been read. -/
  cursor : UInt64
  progress : RunProgress
  /-- The final table of a completed run. -/
  metrics : Option Json
  itemLimit : UInt32
  model : Option String
  /-- Suspended by the end of a session and not by the user. -/
  autoSuspended : Bool
  error : Option String
  startedAt : Timestamp
  updatedAt : Timestamp
deriving DecidableEq, Inhabited

namespace EvaluatorRun

/-- A run that the service has just started. -/
def start (kind id : String) (itemLimit : UInt32) (model : Option String)
    (now : Timestamp) : EvaluatorRun where
  kind
  id
  status := .running
  cursor := 0
  progress := RunProgress.empty
  metrics := none
  itemLimit
  model
  autoSuspended := false
  error := none
  startedAt := now
  updatedAt := now

/-- Whether the full record of an item can be fetched. -/
def hasRecord (run : EvaluatorRun) (index : UInt32) : Bool :=
  (run.progress.items.find? index).any (·.recordAvailable)

/-- The run in another status, which the client and not the service gives
it. -/
def become (run : EvaluatorRun) (status : EvaluatorStatus) (automatic : Bool)
    (now : Timestamp) : EvaluatorRun :=
  { run with status, autoSuspended := automatic, updatedAt := now }

end EvaluatorRun

/-- What the client keeps about evaluators between its sessions. -/
structure Dashboard where
  selected : Option String
  /-- The item limit last used for each kind of evaluator. -/
  itemLimits : SortedMap String UInt32
  run : Option EvaluatorRun
deriving DecidableEq, Inhabited

namespace Dashboard

def empty : Dashboard := ⟨none, .empty, none⟩

end Dashboard

/-- The answer to a poll: what has happened since the offset asked for. -/
structure RunSnapshot where
  status : EvaluatorStatus
  cursor : UInt64
  items : SortedMap UInt32 ItemProgress
  tokens : Option TokenCounters
  metrics : Option Json
  error : Option String
deriving DecidableEq, Inhabited

end AgentPipeline
