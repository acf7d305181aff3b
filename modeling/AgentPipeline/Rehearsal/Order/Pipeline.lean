import AgentPipeline.Rehearsal.Cue
import AgentPipeline.Rehearsal.Order.Basic
import AgentPipeline.Rehearsal.Pipeline

/-!
# Orders to a pipeline
-/

namespace AgentPipeline

structure ScriptedPipeline where
  rehearsal : PipelineRehearsal MemoryStore ScriptedService
  registry : ModelRegistry
  capacity : Nat

namespace ScriptedPipeline

/-- A number of the script that need not be finite. -/
def temperature? (order : Document) : Option Double :=
  (order.member? "temperature").bind Double.ofScript?

/-- What a run is started with, as a script writes it. -/
def request? (order : Document) : Option RunRequest := do
  some { inputText := ← order.need "text"
         selections := ← order.orElse "selections" ⟨.single, none, .empty⟩
         temperature := ← temperature? order
         mode := ← order.need "mode" }

/-- What happens while an operation is carried out: the cancel handle is used,
or the caller goes away. -/
def timed? (order : Document) :
    Option (List (Nat × PipelineRehearsal.TimedAction)) := do
  let actions ← (order.items "at").mapM fun entry => do
    let action : HandleAction := match ← entry.want "cancel" with
      | some reason => .cancel reason
      | none => .issue
    some (← entry.need "ms", PipelineRehearsal.TimedAction.handle action)
  let departure ← order.want "drop_at_ms"
  some (actions ++ departure.toList.map (·, .abandon))

/-- The script with another pipeline in its rehearsal. -/
def withPipeline (script : ScriptedPipeline)
    (pipeline : Pipeline MemoryStore) : ScriptedPipeline :=
  { script with rehearsal := { script.rehearsal with pipeline } }

/-- Carries out an operation; its caller may have gone away before its end. -/
def carriedOut (script : ScriptedPipeline) (turn : Turn MemoryStore)
    (order : Document) : Option (ScriptedPipeline × Json) := do
  let rehearsal := script.rehearsal.carryOut turn (← timed? order)
  some ({ script with rehearsal }, match rehearsal.result with
    | some outcome => Failure.encodeOutcome outcome
    | none => .string "dropped")

/-- Uses the cancel handle. -/
def handled (script : ScriptedPipeline) (action : HandleAction) :
    ScriptedPipeline :=
  { script with rehearsal := script.rehearsal.handle action }

def obey? (script : ScriptedPipeline) (order : Document) :
    Option (ScriptedPipeline × Json) := do
  let pipeline := script.rehearsal.pipeline
  let reason ← order.orElse "reason" cancelledByUser
  match ← (order.need "do" : Option String) with
  | "run" =>
      script.carriedOut (pipeline.start (← request? order) script.registry)
        order
  | "continue" => script.carriedOut pipeline.continueRun order
  | "regenerate" => script.carriedOut pipeline.regenerate order
  | "cancel" | "cancel_with" =>
      script.carriedOut (pipeline.cancelWith reason) order
  | "apply_pending" =>
      match pipeline.settlePendingCancel with
      | some turn => script.carriedOut turn order
      | none => some (script, .string "nothing pending")
  | "edit_input" =>
      let (run, pipeline) := pipeline.discard
      some (script.withPipeline pipeline, match run with
        | some run => .object [("ok", run.encode)]
        | none => .string "nothing to discard")
  | "handle_cancel" =>
      some (script.handled (.cancel reason),
        .bool pipeline.cancellation.isOpen)
  | "handle_issue" => some (script.handled .issue, .null)
  | "set_registry" =>
      some ({ script with
        registry := ← order.orElse "registry" ⟨.empty, [], .online⟩ }, .null)
  | "history_items" =>
      some (script, JsonEncode.encode pipeline.history.items)
  | "history_clear" =>
      let (outcome, history) := pipeline.history.clear
      some (script.withPipeline { pipeline with history },
        Failure.encodeAttempt outcome)
  | "persisted" =>
      some (script, pipeline.history.store.runRows fun member => .array
        (["status", "attempt_number", "input_text"].map member))
  | "reopen" =>
      some (match History.load pipeline.history.store script.capacity with
        | .ok history => (script.withPipeline
            (.new history pipeline.supply pipeline.maxAttempts), .null)
        | .error error => (script, Failure.encode error))
  | "cancel_inside" =>
      let interruption := some (← order.need "stage", reason)
      some ({ script with
        rehearsal := { script.rehearsal with interruption } }, .null)
  | _ =>
      let (service, store, shown) ← scriptedStep? script.rehearsal.service
        pipeline.history.store order
      let kept := script.withPipeline
        { pipeline with history := { pipeline.history with store } }
      some ({ kept with
        rehearsal := { kept.rehearsal with service } }, shown)

end ScriptedPipeline

end AgentPipeline
