import AgentPipeline.Evaluation.Basic
import AgentPipeline.Evaluation.Error

/-!
# Taking over snapshots

The answer to a poll covers the log of a run from the offset that was asked
for up to its cursor.  An answer behind what has been read is rejected, and
one that stops where reading stopped brings no progress, though it may still
end the run.
-/

namespace AgentPipeline

/-- What a poll did to the run. -/
inductive PollOutcome where
  /-- Progress up to a new cursor was taken over. -/
  | advanced (cursor : UInt64)
  | unchanged
  /-- The run reached a status in which it is no longer polled. -/
  | settled (status : EvaluatorStatus)
  /-- The run had moved on when the answer arrived. -/
  | discarded
deriving DecidableEq, Inhabited, Repr

namespace PollOutcome

/-- Whether the timer goes on polling. -/
def keepsPolling : PollOutcome → Bool
  | .settled _ => false
  | .advanced _ | .unchanged | .discarded => true

end PollOutcome

namespace EvaluatorRun

/-- The run with the progress of a snapshot that reaches further. -/
def advance (run : EvaluatorRun) (snapshot : RunSnapshot) : EvaluatorRun :=
  { run with
    cursor := snapshot.cursor
    progress :=
      { items := run.progress.items.extend snapshot.items
        tokens := snapshot.tokens.getD run.progress.tokens } }

/-- The run in a terminal status; only a completed run has a table of
metrics. -/
def settle (run : EvaluatorRun) (snapshot : RunSnapshot) : EvaluatorRun :=
  { run with
    status := snapshot.status
    metrics :=
      if snapshot.status = .completed then snapshot.metrics else run.metrics
    error := snapshot.error }

/-- Takes over a snapshot that arrives at a given time. -/
def takeOver (run : EvaluatorRun) (snapshot : RunSnapshot) (now : Timestamp) :
    Except EvaluatorError (PollOutcome × EvaluatorRun) :=
  if snapshot.cursor < run.cursor then
    .error (.cursorRegression run.cursor snapshot.cursor)
  else
    let advances : Bool := run.cursor < snapshot.cursor
    let reached := if advances then run.advance snapshot else run
    let seen := { reached with updatedAt := now }
    if snapshot.status.isTerminal then
      .ok (.settled snapshot.status, seen.settle snapshot)
    else if snapshot.status = .suspended then
      .ok (.settled .suspended, { seen with status := .suspended })
    else if advances then .ok (.advanced seen.cursor, seen)
    else .ok (.unchanged, seen)

end EvaluatorRun

end AgentPipeline
