import AgentPipeline.Rehearsal.Cue
import AgentPipeline.Rehearsal.Order.Basic
import AgentPipeline.Supply

/-!
# Orders to a registry
-/

namespace AgentPipeline

instance : JsonEncode MirrorOutcome where
  encode
    | .mirrored => .string "mirrored"
    | .skipped => .string "skipped"
    | .failed error => .object [("failed", Failure.encode error)]

structure ScriptedRegistry where
  registry : ModelRegistry
  store : MemoryStore
  service : ScriptedService
  supply : Supply
  /-- The events announced by the last order. -/
  events : List Event

namespace ScriptedRegistry

/-- Takes over a change, whose events are announced unless it is quiet. -/
def changed (script : ScriptedRegistry) (isQuiet : Bool)
    (change : RegistryChange MemoryStore ScriptedService) :
    ScriptedRegistry × Json :=
  ({ script with
      registry := change.registry
      store := change.store
      service := change.service
      events := if isQuiet then [] else change.events },
    Failure.encodeOutcome change.result)

/-- Loads the registry again; without success it stays as it is. -/
def reloaded (script : ScriptedRegistry) : ScriptedRegistry × Json :=
  match ModelRegistry.load script.store script.service with
  | (.ok registry, service) => ({ script with registry, service }, .null)
  | (.error error, service) =>
      ({ script with service }, Failure.encode (RegistryError.storage error))

def obey? (before : ScriptedRegistry) (order : Document) :
    Option (ScriptedRegistry × Json) := do
  let script := { before with events := [] }
  let registry := script.registry
  let sync ← order.orElse "sync" SyncMode.mirror
  let isQuiet ← order.orElse "quiet" false
  match ← (order.need "do" : Option String) with
  | "load" | "refresh" => some script.reloaded
  | "upsert" =>
      let (now, supply) := script.supply.tick
      some ({ script with supply }.changed isQuiet (registry.upsert
        (← order.need "model") now script.store script.service sync))
  | "remove" =>
      some (script.changed isQuiet (registry.remove (← order.need "id")
        script.store script.service sync))
  | "select_default" =>
      let (outcome, store) :=
        ModelRegistry.selectDefault script.store (← order.need "model")
      some ({ script with store }, Failure.encodeAttempt outcome)
  | "selected_default" =>
      some (script, Failure.encodeOutcome
        ((registry.selectedDefault script.store).mapError
          RegistryError.storage))
  | "model_config" =>
      some (script, (registry.config (← order.need "model")).encode)
  | "find" =>
      some (script, JsonEncode.encode (registry.find? (← order.need "id")))
  | "contains" =>
      some (script, .bool (registry.catalog.contains (← order.need "model")))
  | "resolve_for" =>
      some (script, JsonEncode.encode (registry.resolveFor
        (← order.need "agent")
        (← order.orElse "selections" ⟨.single, none, .empty⟩)))
  | _ =>
      let (service, store, shown) ←
        scriptedStep? script.service script.store order
      some ({ script with service, store }, shown)

end ScriptedRegistry

end AgentPipeline
