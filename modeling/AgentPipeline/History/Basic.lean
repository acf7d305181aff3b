import AgentPipeline.Run.Basic
import AgentPipeline.Timestamp

/-!
# History items

A history item is a snapshot of a run at a checkpoint or at its end.
-/

namespace AgentPipeline

/-- A snapshot of a run. -/
structure HistoryItem where
  id : Uuid
  recordedAt : Timestamp
  run : Run
deriving DecidableEq, Inhabited

end AgentPipeline
