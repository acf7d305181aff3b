import AgentPipeline.Proofs.Model.Reload
import AgentPipeline.Proofs.Store.Durable

/-!
# Changes that could not be stored

A call that is refused changes nothing.  One that is accepted edits the list of
the registry, stores it and only then turns to the service, and none takes the
edit back.  So when the list cannot be stored, the registry shows a change that
neither the store nor the service has.  Main statement: `failsWith_of_error`.
-/

namespace AgentPipeline

namespace ModelRegistry

/-- What is entered depends on the other models only. -/
theorem modelsWith_congr {registry other : ModelRegistry}
    {model : CustomModel}
    (same : registry.modelsWithout model.id = other.modelsWithout model.id) :
    registry.modelsWith model = other.modelsWith model := by
  rw [modelsWith, same, modelsWith]

end ModelRegistry

/-- The state over another store. -/
def RegistryState.onStore {σ τ ς : Type} (state : RegistryState σ ς)
    (store : τ) : RegistryState τ ς where
  registry := state.registry
  store
  service := state.service

namespace ModelEdit

variable {registry : ModelRegistry}

/-- An edit leaves the list as it is exactly if what it would leave under its
identifier is there. -/
theorem models_eq_iff (ascending : CustomModel.AreAscending registry.custom)
    (edit : ModelEdit) :
    edit.models registry = registry.custom ↔
      registry.find? edit.id = edit.entry := by
  have entered := edit.named_models registry
  constructor
  · intro same
    rwa [same] at entered
  · intro isThere
    refine (edit.areAscending_models ascending).ext_named ascending
      fun id => ?_
    by_cases same : id = edit.id
    · rw [same, entered]
      exact isThere.symm
    · have others := edit.modelsWithout_models ascending
      exact (ModelRegistry.find?_of_ne same).trans
        ((congrArg _ others).trans (ModelRegistry.find?_of_ne same).symm)

end ModelEdit

namespace RegistryCall

variable {σ ς : Type} [KeyValueStore σ] [AgentService ς]

/-- What comes of a call that is made again behind itself, over any store.  A
model is entered as if it had not been entered before, and what was to be
removed is unknown. -/
def Repeats {τ υ : Type} [KeyValueStore τ] [AgentService υ]
    (call : RegistryCall) (before : RegistryState σ ς)
    (later : RegistryState τ υ) : Prop :=
  match call.edit with
  | .upsert model _ => ∀ (now : Timestamp) (sync : SyncMode),
      (ModelEdit.upsert model now).refusal? later.registry = none ∧
        (CustomModel.AreAscending before.registry.custom →
          (perform ⟨.upsert model now, sync⟩ later).registry =
            (perform ⟨.upsert model now, sync⟩ before).registry)
  | .remove id => ∀ sync : SyncMode,
      perform ⟨.remove id, sync⟩ later =
        ⟨later.registry, later.store, later.service, [],
          .error (.unknownModel id)⟩

/-- What is left behind by a call whose edit could not be stored. -/
structure RunsAhead (call : RegistryCall) (before : RegistryState σ ς)
    (error : StorageError) : Prop where
  accepted : call.edit.refusal? before.registry = none
  /-- There was one write, of the list that is now in the registry. -/
  written : KeyValueStore.write before.store StoreKey.customModels.name
      (.array ((call.perform before).registry.custom.map
        CustomModel.encode)) =
    (.error error, (call.perform before).store)
  /-- The registry is as the call leaves it over any other store, one that does
  not fail for instance. -/
  registry {τ : Type} [KeyValueStore τ] (other : τ) :
    (call.perform before).registry =
      (call.perform (before.onStore other)).registry
  shown : (call.perform before).registry.find? call.edit.id = call.edit.entry
  others : ((call.perform before).registry.modelsWithout call.edit.id).Perm
    (before.registry.modelsWithout call.edit.id)
  same_iff (ascending : CustomModel.AreAscending before.registry.custom) :
    (call.perform before).registry = before.registry ↔
      before.registry.find? call.edit.id = call.edit.entry
  repeats {τ υ : Type} [KeyValueStore τ] [AgentService υ]
    {later : RegistryState τ υ}
    (same : later.registry = (call.perform before).registry) :
    call.Repeats before later

/-- What is left behind by a call that ends with an error. -/
structure FailsWith (call : RegistryCall) (before : RegistryState σ ς)
    (error : RegistryError) : Prop where
  /-- The service was not asked for anything, and nothing is reported. -/
  service : (call.perform before).service = before.service
  events : (call.perform before).events = []
  stored {holds : σ → String → Option String}
    (durable : KeyValueStore.Durable holds) :
    holds (call.perform before).store = holds before.store
  refused (otherwise : ∀ cause, error ≠ .storage cause) :
    call.edit.refusal? before.registry = some error ∧
      (call.perform before).state = before
  unstored {cause : StorageError} (isStorage : error = .storage cause) :
    call.RunsAhead before cause

theorem refusal?_ne_storage {registry : ModelRegistry} {edit : ModelEdit}
    {error : RegistryError} (refused : edit.refusal? registry = some error)
    (cause : StorageError) : error ≠ .storage cause := by
  rintro rfl
  cases edit with
  | upsert model now =>
      obtain ⟨field, -, isError⟩ := Option.map_eq_some_iff.mp refused
      cases isError
  | remove id =>
      simp only [ModelEdit.refusal?] at refused
      split at refused <;> cases refused

/-- An accepted call fails by its one write. -/
theorem write_of_error {call : RegistryCall} {before : RegistryState σ ς}
    (accepted : call.edit.refusal? before.registry = none)
    {error : RegistryError}
    (failed : (call.perform before).result = .error error) :
    ∃ cause store, error = .storage cause ∧
      KeyValueStore.write before.store StoreKey.customModels.name
        (.array ((call.edit.models before.registry).map
          CustomModel.encode)) = (.error cause, store) ∧
      call.perform before =
        ⟨{ before.registry with
            custom := call.edit.models before.registry },
          store, before.service, [], .error (.storage cause)⟩ := by
  rw [perform_of_accepted accepted, ModelRegistry.change] at failed ⊢
  split at failed
  next cause store notWritten =>
    rw [notWritten]
    cases failed
    exact ⟨cause, store, rfl, rfl, rfl⟩
  next =>
    dsimp only at failed
    split at failed <;> cases failed

theorem repeats_of_accepted {τ υ : Type} [KeyValueStore τ] [AgentService υ]
    {call : RegistryCall} {before : RegistryState σ ς}
    (accepted : call.edit.refusal? before.registry = none)
    {later : RegistryState τ υ}
    (same : later.registry = (call.perform before).registry) :
    call.Repeats before later := by
  rw [registry_of_accepted accepted] at same
  obtain ⟨edit, sync⟩ := call
  cases edit with
  | upsert model now =>
      intro again sync
      let call : RegistryCall := ⟨.upsert model again, sync⟩
      refine ⟨accepted, fun ascending => ?_⟩
      have others := (ModelEdit.upsert model now).modelsWithout_models
        ascending
      have second : (call.perform later).registry = _ :=
        registry_of_accepted accepted
      have first : (call.perform before).registry = _ :=
        registry_of_accepted accepted
      rw [second, first, same]
      exact congrArg (ModelRegistry.mk _ · _)
        (ModelRegistry.modelsWith_congr others)
  | remove id =>
      intro sync
      have gone : later.registry.find? id = none := by
        rw [same]
        exact (ModelEdit.remove id).named_models before.registry
      refine perform_of_refusal ?_
      simp only [ModelEdit.refusal?, gone]

/-- A call that is refused leaves everything as it is.  One whose edit could
not be stored leaves the registry with the edit, and all else as it is. -/
theorem failsWith_of_error {call : RegistryCall} {before : RegistryState σ ς}
    {error : RegistryError}
    (failed : (call.perform before).result = .error error) :
    call.FailsWith before error := by
  cases refusal : call.edit.refusal? before.registry with
  | some reason =>
      have refused := perform_of_refusal refusal
      obtain rfl : reason = error := by
        rw [refused] at failed
        exact Except.error.inj failed
      exact {
        service := by rw [refused]
        events := by rw [refused]
        stored := fun durable => by rw [refused]
        refused := fun _ => ⟨refusal, by rw [refused]; rfl⟩
        unstored := fun isStorage =>
          absurd isStorage (refusal?_ne_storage refusal _) }
  | none =>
      obtain ⟨cause, store, rfl, notWritten, isLeft⟩ :=
        write_of_error refusal failed
      have ahead : call.RunsAhead before cause := by
        have registry := registry_of_accepted refusal
        refine {
          accepted := refusal
          written := ?written
          registry := fun other => ?registry
          shown := ?shown
          others := ?others
          same_iff := fun ascending => ?same_iff
          repeats := repeats_of_accepted refusal }
        case written =>
          rw [isLeft]
          exact notWritten
        case registry =>
          have elsewhere : (call.perform (before.onStore other)).registry =
              _ := registry_of_accepted refusal
          rw [registry, elsewhere]
          rfl
        case shown =>
          rw [registry]
          exact call.edit.named_models before.registry
        case others =>
          rw [registry]
          exact call.edit.perm_modelsWithout_models before.registry
        case same_iff =>
          rw [registry, ← call.edit.models_eq_iff ascending]
          exact ⟨congrArg ModelRegistry.custom, fun same => by rw [same]⟩
      exact {
        service := by rw [isLeft]
        events := by rw [isLeft]
        stored := fun durable => by
          rw [isLeft]
          exact durable.holds_of_write_error notWritten
        refused := fun otherwise => absurd rfl (otherwise cause)
        unstored := fun isStorage =>
          RegistryError.storage.inj isStorage ▸ ahead }

/-- A registry with one model over a store in which no write succeeds. -/
def ofReadOnly : RegistryState MemoryStore ScriptedService where
  registry := ⟨.empty, [.ofTemperature none], .online⟩
  store := { MemoryStore.empty with faults := ⟨false, true, false⟩ }
  service := .new

/-- The removal of the model, when it cannot be stored. -/
theorem failsWith_removal :
    let removal : RegistryCall := ⟨.remove "m1", .mirror⟩
    let error := RegistryError.storage
      (.io StoreKey.customModels.name StoreFaults.cause)
    (removal.perform ofReadOnly).result = .error error ∧
      removal.FailsWith ofReadOnly error := by
  have failed : (perform ⟨.remove "m1", .mirror⟩ ofReadOnly).result =
      .error (.storage (.io StoreKey.customModels.name
        StoreFaults.cause)) := by
    decide +kernel
  exact ⟨failed, failsWith_of_error failed⟩

/-- The registry shows an entry that was reported as failed, and it no longer
shows one whose removal was. -/
theorem shows_unstored :
    let model := CustomModel.ofTemperature none
    let upsert : RegistryCall := ⟨.upsert model ⟨5, 0⟩, .mirror⟩
    let removal : RegistryCall := ⟨.remove "m1", .mirror⟩
    ofReadOnly.registry.find? "m1" = some model ∧
      (upsert.perform ofReadOnly).result.isOk = false ∧
      (upsert.perform ofReadOnly).registry.find? "m1" =
        some { model with updatedAt := some ⟨5, 0⟩ } ∧
      (removal.perform ofReadOnly).result.isOk = false ∧
      (removal.perform ofReadOnly).registry.find? "m1" = none := by
  decide +kernel

end RegistryCall

end AgentPipeline
