import AgentPipeline.Pipeline.Operations

/-!
# What happens to a pipeline

The owner of a pipeline calls its operations one at a time.  While an
operation waits for the answer to a stage call, the cancel handle may be fired
any number of times before the operation takes notice or the answer arrives.
Every history of a pipeline is a list of such occurrences.
-/

namespace AgentPipeline

/-- An operation is called, the cancel handle is fired, or the operation that
waits goes on. -/
inductive Occurrence where
  | start (request : RunRequest) (registry : ModelRegistry)
  | continueRun
  | regenerate
  | cancelWith (reason : String)
  | settlePendingCancel
  | discard
  /-- The handle is fired; nobody has taken notice yet. -/
  | fire (reason : String)
  /-- The operation that waits sees that its token is cancelled. -/
  | notice
  | reply (outcome : Except ServiceError Json) (milliseconds : UInt64)

namespace Turn

variable {σ : Type}

@[simp]
theorem afterEvents_pipeline (events : List Event) (turn : Turn σ) :
    (turn.afterEvents events).pipeline = turn.pipeline := rfl

@[simp]
theorem afterEvents_result (events : List Event) (turn : Turn σ) :
    (turn.afterEvents events).result = turn.result := rfl

@[simp]
theorem requests_afterEvents (events : List Event) (turn : Turn σ) :
    (turn.afterEvents events).requests = turn.requests := by
  simp [requests, afterEvents, after, List.filterMap_append,
    List.filterMap_map]

@[simp]
theorem events_afterEvents (events : List Event) (turn : Turn σ) :
    (turn.afterEvents events).events = events ++ turn.events := by
  rw [Turn.events, afterEvents, after, List.filterMap_append,
    List.filterMap_map]
  exact congrArg (· ++ turn.events) List.filterMap_some

end Turn

namespace Pipeline

variable {σ : Type} [KeyValueStore σ]

/-- The turn of an operation, which is only called while no other waits. -/
def whenFree (pipeline : Pipeline σ) (turn : Turn σ) : Turn σ :=
  if pipeline.awaited.isSome then pipeline.idle else turn

def occur (pipeline : Pipeline σ) : Occurrence → Turn σ
  | .start request registry =>
      pipeline.whenFree (pipeline.start request registry)
  | .continueRun => pipeline.whenFree pipeline.continueRun
  | .regenerate => pipeline.whenFree pipeline.regenerate
  | .cancelWith reason => pipeline.whenFree (pipeline.cancelWith reason)
  | .settlePendingCancel =>
      pipeline.whenFree (pipeline.settlePendingCancel.getD pipeline.idle)
  | .discard => pipeline.whenFree pipeline.discard.2.idle
  | .fire reason =>
      { pipeline with
        cancellation := pipeline.cancellation.cancel reason }.idle
  | .notice => pipeline.notice
  | .reply outcome milliseconds => pipeline.reply outcome milliseconds

def after (pipeline : Pipeline σ) (occurrences : List Occurrence) :
    Pipeline σ :=
  occurrences.foldl
    (fun current occurrence => (current.occur occurrence).pipeline) pipeline

def turns (pipeline : Pipeline σ) : List Occurrence → List (Turn σ)
  | [] => []
  | occurrence :: later =>
      let turn := pipeline.occur occurrence
      turn :: turn.pipeline.turns later

@[simp]
theorem after_nil (pipeline : Pipeline σ) : pipeline.after [] = pipeline :=
  rfl

@[simp]
theorem after_cons (pipeline : Pipeline σ) (occurrence : Occurrence)
    (later : List Occurrence) :
    pipeline.after (occurrence :: later) =
      (pipeline.occur occurrence).pipeline.after later := rfl

omit [KeyValueStore σ] in
/-- An operation that is called while another waits does nothing. -/
theorem whenFree_of_waiting
    {pipeline : Pipeline σ} {call : AwaitedCall}
    (waiting : pipeline.awaited = some call) (turn : Turn σ) :
    pipeline.whenFree turn = pipeline.idle := by
  simp [whenFree, waiting]

omit [KeyValueStore σ] in
theorem whenFree_of_free
    {pipeline : Pipeline σ} (free : pipeline.awaited = none)
    (turn : Turn σ) : pipeline.whenFree turn = turn := by
  simp [whenFree, free]

/-- What holds at first and is kept by every occurrence holds always. -/
theorem invariant_after
    (invariant : Pipeline σ → Prop)
    (kept : ∀ pipeline occurrence, invariant pipeline →
      invariant (pipeline.occur occurrence).pipeline)
    {pipeline : Pipeline σ} (atFirst : invariant pipeline)
    (occurrences : List Occurrence) :
    invariant (pipeline.after occurrences) := by
  induction occurrences generalizing pipeline with
  | nil => exact atFirst
  | cons occurrence later ih => exact ih (kept pipeline occurrence atFirst)

end Pipeline

end AgentPipeline
