import AgentPipeline.Proofs.Pipeline.Occurrence

/-!
# Everything that can happen to a pipeline

Beside the occurrences, in which operations are called and go on, a token may
be issued through the cancel handle, the caller of an operation that waits may
go away, and the owner may exchange the history.  The states that a pipeline
can reach are those behind a list of happenings.
-/

namespace AgentPipeline

/-- Something that happens to a pipeline over a store. -/
inductive Happening (σ : Type) where
  | occurrence (occurrence : Occurrence)
  /-- A token is issued through the handle; nobody has taken notice yet. -/
  | issue
  /-- The caller of the operation that waits goes away. -/
  | abandon
  /-- The owner clears the history or puts another one in its place. -/
  | exchangeHistory (history : History σ)

/-- Operations are called by the owner, one at a time. -/
def Occurrence.isOperation : Occurrence → Bool
  | .start .. | .continueRun | .regenerate | .cancelWith _
  | .settlePendingCancel | .discard => true
  | .fire _ | .notice | .reply .. => false

/-- What may happen while the owner waits for an operation to return. -/
def Happening.isMeanwhile {σ : Type} : Happening σ → Bool
  | .occurrence happened => !happened.isOperation
  | .issue => true
  | .abandon | .exchangeHistory _ => false

namespace Pipeline

variable {σ : Type} [KeyValueStore σ]

def happen (pipeline : Pipeline σ) : Happening σ → Turn σ
  | .occurrence occurrence => pipeline.occur occurrence
  | .issue =>
      { pipeline with cancellation := pipeline.cancellation.issue.1 }.idle
  | .abandon => pipeline.abandon.idle
  | .exchangeHistory history => { pipeline with history }.idle

/-- The pipeline when all of this has happened. -/
def through (pipeline : Pipeline σ) (happenings : List (Happening σ)) :
    Pipeline σ :=
  happenings.foldl
    (fun current happening => (current.happen happening).pipeline) pipeline

def turnsThrough (pipeline : Pipeline σ) :
    List (Happening σ) → List (Turn σ)
  | [] => []
  | happening :: later =>
      let turn := pipeline.happen happening
      turn :: turn.pipeline.turnsThrough later

@[simp]
theorem through_nil (pipeline : Pipeline σ) : pipeline.through [] = pipeline :=
  rfl

@[simp]
theorem through_cons (pipeline : Pipeline σ) (happening : Happening σ)
    (later : List (Happening σ)) :
    pipeline.through (happening :: later) =
      (pipeline.happen happening).pipeline.through later := rfl

/-- What holds at first and is kept by everything that happens holds always. -/
theorem invariant_through
    (invariant : Pipeline σ → Prop)
    (kept : ∀ pipeline happening, invariant pipeline →
      invariant (pipeline.happen happening).pipeline)
    {pipeline : Pipeline σ} (atFirst : invariant pipeline)
    (happenings : List (Happening σ)) :
    invariant (pipeline.through happenings) := by
  induction happenings generalizing pipeline with
  | nil => exact atFirst
  | cons happening later ih => exact ih (kept pipeline happening atFirst)

end Pipeline

end AgentPipeline
