import AgentPipeline.Proofs.Codec.Model
import AgentPipeline.Proofs.Model.Change
import AgentPipeline.Rehearsal.Service

/-!
# Loading changed models again

The models that a registry has stored are read back from their text and united
with what the service lists.  An entry that was made at some time is shown if
all that the service lists under its identifier are older, as it is read back;
otherwise an entry of the service is shown.  Main statement: `changes_after`.
-/

namespace AgentPipeline

namespace CustomModel

/-! ## Lists that are read back -/

theorem parse?_encodeList {models : List CustomModel}
    (areHeld : ∀ model ∈ models, model.IsHeld) :
    listDecoder.parse? (Json.array (models.map encode)).text =
      models.mapM reread? := by
  rw [Decoder.parse?, Json.parse?_text]
  exact Decoder.list_reread fun model isModel =>
    decoder_reread 125 (areHeld model isModel)

/-- Only the connection of a model may be read back differently. -/
theorem exists_of_reread? {model back : CustomModel}
    (read : model.reread? = some back) :
    ∃ connection, back = { model with connection } := by
  obtain ⟨connection, -, same⟩ := Option.map_eq_some_iff.mp read
  exact ⟨connection, same.symm⟩

/-- Under each identifier a list that is read back has what is read back of the
list. -/
theorem named_of_mapM_reread? {models backs : List CustomModel}
    (read : models.mapM reread? = some backs) (id : String) :
    named id backs = (named id models).bind reread? := by
  induction models generalizing backs with
  | nil =>
      cases read
      rfl
  | cons model models ih =>
      rw [List.mapM_cons] at read
      obtain ⟨back, first, rest⟩ := Option.bind_eq_some_iff.mp read
      obtain ⟨others, restRead, same⟩ := Option.bind_eq_some_iff.mp rest
      cases same
      obtain ⟨connection, rfl⟩ := exists_of_reread? first
      rw [named_cons, named_cons, ih restRead]
      by_cases isNamed : model.id = id
      · rw [if_pos isNamed, if_pos isNamed, Option.bind_some, first]
      · rw [if_neg isNamed, if_neg isNamed]

/-- A list that is read back has the same identifiers if each model has. -/
theorem map_id_of_mapM {read? : CustomModel → Option CustomModel}
    (keepsId : ∀ model back, read? model = some back → back.id = model.id)
    {models backs : List CustomModel}
    (read : models.mapM read? = some backs) :
    backs.map (·.id) = models.map (·.id) := by
  induction models generalizing backs with
  | nil =>
      cases read
      rfl
  | cons model models ih =>
      rw [List.mapM_cons] at read
      obtain ⟨back, first, rest⟩ := Option.bind_eq_some_iff.mp read
      obtain ⟨others, restRead, same⟩ := Option.bind_eq_some_iff.mp rest
      cases same
      rw [List.map_cons, List.map_cons, ih restRead, keepsId model back first]

theorem AreAscending.of_mapM_reread? {models backs : List CustomModel}
    (ascending : AreAscending models)
    (read : models.mapM reread? = some backs) : AreAscending backs := by
  have keepsId : ∀ model back : CustomModel,
      model.reread? = some back → back.id = model.id := by
    intro model back isRead
    obtain ⟨connection, rfl⟩ := exists_of_reread? isRead
    rfl
  have identifiers := List.pairwise_map.mpr ascending
  rw [← map_id_of_mapM keepsId read] at identifiers
  exact List.pairwise_map.mp identifiers

theorem exists_mapM_reread? {models : List CustomModel}
    (areRead : ∀ model ∈ models, model.reread?.isSome) :
    ∃ backs, models.mapM reread? = some backs := by
  induction models with
  | nil => exact ⟨[], rfl⟩
  | cons model models ih =>
      obtain ⟨isRead, restRead⟩ := List.forall_mem_cons.mp areRead
      obtain ⟨back, first⟩ := Option.isSome_iff_exists.mp isRead
      obtain ⟨backs, rest⟩ := ih restRead
      exact ⟨back :: backs, by simp [List.mapM_cons, first, rest]⟩

/-! ## Entries of a given time -/

/-- All that are offered under the identifier were changed before the given
time. -/
def AllBefore (id : String) (stamp : Timestamp)
    (offered : List CustomModel) : Prop :=
  ∀ other ∈ offered, other.id = id →
    ∃ moment, other.updatedAt = some moment ∧ moment.isBefore stamp = true

theorem allBefore_iff {entry : CustomModel} {stamp : Timestamp}
    (isStamped : entry.updatedAt = some stamp) {id : String}
    {offered : List CustomModel} :
    AllBefore id stamp offered ↔
      ∀ other ∈ offered, other.id = id → entry.outlasts other = true := by
  refine forall₃_congr fun other _ _ => ?_
  rw [outlasts_eq_true_iff]
  constructor
  · rintro ⟨moment, isMoment, before⟩
    exact ⟨stamp, moment, isStamped, isMoment, before⟩
  · rintro ⟨storedAt, moment, isStored, isMoment, before⟩
    obtain rfl := Option.some.inj (isStamped.symm.trans isStored)
    exact ⟨moment, isMoment, before⟩

/-- What a registry shows of an entry that was made at a given time, beside
what the service offers. -/
structure IsShown (entry : CustomModel) (stamp : Timestamp)
    (offered : List CustomModel) (back : CustomModel)
    (shown : Option CustomModel) : Prop where
  reread : entry.reread? = some back
  /-- The entry is read back as it was exactly if its default temperature is
  what the reader makes of the printed digits. -/
  same_iff : back = entry ↔
    ∀ number ∈ entry.floats, number.reread? = some number
  stands : AllBefore entry.id stamp offered → shown = some back
  gives : ¬AllBefore entry.id stamp offered →
    ∃ other ∈ offered, other.id = entry.id ∧ shown = some other

/-- A stored entry and what the service offers are united by the time of the
entry. -/
theorem exists_isShown {stored backs : List CustomModel}
    (ascending : AreAscending stored)
    (read : stored.mapM reread? = some backs) {entry : CustomModel}
    (isStored : named entry.id stored = some entry)
    (isRead : entry.reread?.isSome) {stamp : Timestamp}
    (isStamped : entry.updatedAt = some stamp)
    (offered : List CustomModel) :
    ∃ back, IsShown entry stamp offered back
      (named entry.id (merge backs offered)) := by
  obtain ⟨back, isBack⟩ := Option.isSome_iff_exists.mp isRead
  have namedBack : named entry.id backs = some back := by
    rw [named_of_mapM_reread? read, isStored, Option.bind_some, isBack]
  have shown := named_merge_of_stored (ascending.of_mapM_reread? read) offered
    namedBack
  have backStamped : back.updatedAt = some stamp := by
    obtain ⟨connection, rfl⟩ := exists_of_reread? isBack
    exact isStamped
  refine ⟨back, isBack, ?_, ?_, ?_⟩
  · rw [← reread?_eq_self_iff, isBack, Option.some.injEq]
  · intro allBefore
    rw [shown, if_pos ((allBefore_iff backStamped).mp allBefore)]
  · intro notAllBefore
    rw [allBefore_iff backStamped] at notAllBefore
    rw [shown, if_neg notAllBefore]
    simp only [not_forall] at notAllBefore
    obtain ⟨other, isOffered, sameId, -⟩ := notAllBefore
    exact exists_named_merge_nil isOffered sameId

end CustomModel

/-! ## Loading -/

namespace ModelRegistry

variable {σ ς : Type} [KeyValueStore σ] [AgentService ς]

/-- The models of the user that a load gets from the service. -/
def listing (service : ς) : List CustomModel :=
  (discover service).1.2.2

/-- A registry that is loaded holds the union of what is stored with what the
service lists. -/
theorem load_of_storedModels {store : σ} {stored : List CustomModel}
    (isStored : storedModels store = .ok stored) (service : ς) :
    ∃ registry, (load store service).1 = .ok registry ∧
      registry.custom = CustomModel.merge stored (listing service) := by
  rw [load, isStored]
  exact ⟨_, rfl, rfl⟩

/-- The identifiers of a registry that was loaded ascend. -/
theorem areAscending_of_load {store : σ} {service online : ς}
    {registry : ModelRegistry}
    (loaded : load store service = (.ok registry, online)) :
    CustomModel.AreAscending registry.custom := by
  unfold load at loaded
  split at loaded
  · cases loaded
  · cases loaded
    exact CustomModel.areAscending_merge _ _

end ModelRegistry

namespace RegistryState

variable {σ ς : Type} [KeyValueStore σ] [AgentService ς]

/-- The models of the registry can be read back from their text: their times
have years of four digits, and the reader takes the digits of their default
temperatures. -/
structure IsLegible (state : RegistryState σ ς) : Prop where
  areHeld : ∀ model ∈ state.registry.custom, model.IsHeld
  areRead : ∀ model ∈ state.registry.custom, model.reread?.isSome

omit [AgentService ς] in
theorem IsStored.storedModels {state : RegistryState σ ς}
    (isStored : state.IsStored) (isLegible : state.IsLegible)
    {backs : List CustomModel}
    (read : state.registry.custom.mapM CustomModel.reread? = some backs) :
    ModelRegistry.storedModels state.store = .ok backs := by
  have stored : KeyValueStore.get state.store StoreKey.customModels.name = _ :=
    isStored
  rw [ModelRegistry.storedModels, KeyValueStore.read, stored]
  simp only [Except.map, Option.bind_some,
    CustomModel.parse?_encodeList isLegible.areHeld, read, Option.getD_some]

omit [AgentService ς] in
/-- Of a stored registry a later load shows an entry by its time. -/
theorem exists_isShown_of_load {works : σ → Prop} {state : RegistryState σ ς}
    (isTidy : state.IsTidy works) (isStored : state.IsStored)
    (isLegible : state.IsLegible) {id : String} {entry : CustomModel}
    (isEntry : state.registry.find? id = some entry) {stamp : Timestamp}
    (isStamped : entry.updatedAt = some stamp)
    {τ : Type} [AgentService τ] (service : τ) :
    ∃ registry back, (ModelRegistry.load state.store service).1 =
        .ok registry ∧
      entry.IsShown stamp (ModelRegistry.listing service) back
        (registry.find? id) := by
  obtain rfl : entry.id = id := CustomModel.id_of_named isEntry
  obtain ⟨backs, read⟩ := CustomModel.exists_mapM_reread? isLegible.areRead
  obtain ⟨registry, loaded, custom⟩ := ModelRegistry.load_of_storedModels
    (isStored.storedModels isLegible read) service
  have isRead : entry.reread?.isSome :=
    isLegible.areRead entry (CustomModel.mem_of_named isEntry)
  obtain ⟨back, isShown⟩ := CustomModel.exists_isShown isTidy.ascending read
    isEntry isRead isStamped (ModelRegistry.listing service)
  refine ⟨registry, back, loaded, ?_⟩
  rw [← custom] at isShown
  exact isShown

/-- Calls on a registry that was loaded change it well, and what a call has
entered stays until another one is about it: a later load shows it, as it is
read back, if all that the service lists for it then are older, and otherwise
what the service lists. -/
theorem changes_after {works : σ → Prop}
    (faultless : KeyValueStore.Faultless works) {store : σ}
    (working : works store) {registry : ModelRegistry} {service online : ς}
    (loaded : ModelRegistry.load store service = (.ok registry, online))
    (earlier : List RegistryCall) (call : RegistryCall) :
    let before := (RegistryState.mk registry store online).after earlier
    call.ChangesWell before ∧
      ∀ outcome, (call.perform before).result = .ok outcome →
        ∀ later : List RegistryCall,
          (∀ other ∈ later, other.edit.id ≠ call.edit.id) →
            let last := before.after (call :: later)
            last.registry.find? call.edit.id = call.edit.entry ∧
              ∀ model now, call.edit = .upsert model now → last.IsLegible →
                ∀ {τ : Type} [AgentService τ] (other : τ),
                  ∃ reloaded back,
                    (ModelRegistry.load last.store other).1 = .ok reloaded ∧
                    { model with updatedAt := some now }.IsShown now
                      (ModelRegistry.listing other) back
                      (reloaded.find? model.id) := by
  intro before
  have startTidy : (RegistryState.mk registry store online).IsTidy works :=
    ⟨ModelRegistry.areAscending_of_load loaded, working⟩
  have isTidy : before.IsTidy works := startTidy.after faultless earlier
  have changesWell := RegistryCall.changesWell_of_isTidy faultless isTidy call
  refine ⟨changesWell, ?_⟩
  intro outcome isOutcome later others last
  obtain ⟨-, lands⟩ := changesWell.accepted outcome isOutcome
  have nextTidy : (call.perform before).state.IsTidy works :=
    isTidy.perform faultless call
  obtain ⟨isStored, found⟩ :=
    after_of_others faultless nextTidy lands.stored others
  have entered : last.registry.find? call.edit.id = call.edit.entry :=
    found.trans lands.entered
  refine ⟨entered, ?_⟩
  intro model now isUpsert isLegible τ _ other
  rw [isUpsert] at entered
  exact exists_isShown_of_load (nextTidy.after faultless later) isStored
    isLegible entered rfl other

end RegistryState

/-- A model of the user with a default temperature. -/
def CustomModel.ofTemperature (temperature : Option Double) :
    CustomModel where
  id := "m1"
  displayName := "Local model"
  connection := {
    provider := .ollama
    baseUrl := "http://localhost:11434"
    modelId := "llama"
    apiKey := none
    contextLength := none
    defaultTemperature := temperature }
  updatedAt := none

/-- A service that lists an older model under the same identifier. -/
def ScriptedService.ofOlder : ScriptedService :=
  { ScriptedService.new with
    models := [{ CustomModel.ofTemperature none with
      updatedAt := some ⟨0, 0⟩ }] }

namespace RegistryState

open CustomModel

/-- A registry with one model is legible if that model is. -/
private theorem isLegible_of_single {σ ς : Type} {state : RegistryState σ ς}
    {model : CustomModel} (single : state.registry.custom = [model])
    (isHeld : model.IsHeld) (isRead : model.reread?.isSome) :
    state.IsLegible := by
  constructor
  · rw [single]
    exact List.forall_mem_singleton.mpr isHeld
  · rw [single]
    exact List.forall_mem_singleton.mpr isRead

private theorem isHeld_ofTemperature (temperature : Option Double)
    {moment : Timestamp} (nameable : moment.IsNameable) :
    { ofTemperature temperature with updatedAt := some moment }.IsHeld := by
  rintro _ ⟨⟩
  exact nameable.isMoment

/-- An entry is shown in place of the older one that the service lists, also
after a removal that was refused. -/
theorem changes_after_older :
    ∃ registry online,
      ModelRegistry.load MemoryStore.empty ScriptedService.ofOlder =
          (.ok registry, online) ∧
        ∃ reloaded,
          (ModelRegistry.load ((RegistryState.mk registry MemoryStore.empty
            online).after [⟨.upsert (ofTemperature none) ⟨5, 0⟩, .localOnly⟩,
              ⟨.remove "m2", .mirror⟩]).store ScriptedService.ofOlder).1 =
              .ok reloaded ∧
            reloaded.find? "m1" =
              some { ofTemperature none with updatedAt := some ⟨5, 0⟩ } := by
  have loaded : ModelRegistry.load MemoryStore.empty ScriptedService.ofOlder =
      (.ok ⟨.empty, ScriptedService.ofOlder.models, .online⟩, _) := rfl
  refine ⟨_, _, loaded, ?_⟩
  obtain ⟨-, stays⟩ := changes_after MemoryStore.faultless rfl loaded []
    ⟨.upsert (ofTemperature none) ⟨5, 0⟩, .localOnly⟩
  obtain ⟨-, isShown⟩ := stays .skipped (by decide +kernel)
    [⟨.remove "m2", .mirror⟩] (by decide)
  have nameable : (⟨5, 0⟩ : Timestamp).IsNameable := ⟨by decide, by decide⟩
  have single : ((RegistryState.mk
      ⟨.empty, ScriptedService.ofOlder.models, .online⟩ MemoryStore.empty
        (ModelRegistry.load MemoryStore.empty
          ScriptedService.ofOlder).2).after
        [⟨.upsert (ofTemperature none) ⟨5, 0⟩, .localOnly⟩,
          ⟨.remove "m2", .mirror⟩]).registry.custom =
      [{ ofTemperature none with updatedAt := some ⟨5, 0⟩ }] := by
    decide +kernel
  obtain ⟨reloaded, back, reloads, shown⟩ := isShown _ _ rfl
    (isLegible_of_single single (isHeld_ofTemperature none nameable) rfl)
    ScriptedService.ofOlder
  have older : AllBefore "m1" ⟨5, 0⟩
      (ModelRegistry.listing ScriptedService.ofOlder) :=
    List.forall_mem_singleton.mpr fun _ => ⟨⟨0, 0⟩, rfl, by decide⟩
  have same := shown.same_iff.mpr (by decide)
  exact ⟨reloaded, reloads, same ▸ shown.stands older⟩

/-- A temperature is finite and nevertheless read back as the number behind it:
its shortest digits are those of 8.200000000000001e-22. -/
theorem not_shown_as_entered :
    ∃ registry online,
      ModelRegistry.load MemoryStore.empty ScriptedService.new =
          (.ok registry, online) ∧
        let model := ofTemperature (some ⟨4291642981281690745⟩)
        let entry := { model with updatedAt := some ⟨0, 0⟩ }
        let change := (RegistryCall.mk (.upsert model ⟨0, 0⟩)
          .localOnly).perform ⟨registry, MemoryStore.empty, online⟩
        change.result = .ok .skipped ∧
          (∀ number ∈ model.floats, number.isFinite = true) ∧
          entry.IsHeld ∧
          AllBefore "m1" ⟨0, 0⟩ (ModelRegistry.listing change.service) ∧
          ∃ reloaded,
            (ModelRegistry.load change.store change.service).1 =
                .ok reloaded ∧
              reloaded.find? "m1" ≠ some entry := by
  have loaded : ModelRegistry.load MemoryStore.empty ScriptedService.new =
      (.ok ⟨.empty, [], .online⟩, _) := rfl
  refine ⟨_, _, loaded, ?_⟩
  intro model entry change
  have isTidy : (RegistryState.mk ⟨.empty, [], .online⟩ MemoryStore.empty
      (ModelRegistry.load MemoryStore.empty ScriptedService.new).2).IsTidy
        fun store => store.faults = .none := ⟨List.Pairwise.nil, rfl⟩
  have nameable : (⟨0, 0⟩ : Timestamp).IsNameable := ⟨by decide, by decide⟩
  have isHeld : entry.IsHeld := isHeld_ofTemperature _ nameable
  have accepted : change.result = .ok .skipped := by decide +kernel
  have lands := ((RegistryCall.changesWell_of_isTidy MemoryStore.faultless
    isTidy _).accepted .skipped accepted).2
  have single : change.state.registry.custom = [entry] := by decide +kernel
  have isRead : entry.reread? = some { entry with
      connection.defaultTemperature := some ⟨4291642981281690746⟩ } := by
    decide +kernel
  obtain ⟨reloaded, back, reloads, shown⟩ := exists_isShown_of_load
    (isTidy.perform MemoryStore.faultless _) lands.stored
    (isLegible_of_single single isHeld (isRead ▸ rfl)) lands.entered rfl
    change.service
  have nothing : ModelRegistry.listing change.service = [] := by
    decide +kernel
  have allBefore : AllBefore "m1" ⟨0, 0⟩
      (ModelRegistry.listing change.service) := by
    rw [nothing]
    rintro _ ⟨⟩
  have isBack := Option.some.inj (shown.reread.symm.trans isRead)
  have found : reloaded.find? "m1" = some back := shown.stands allBefore
  refine ⟨accepted, by decide +kernel, isHeld, allBefore, reloaded, reloads,
    ?_⟩
  rw [found, isBack]
  simp [entry, model, ofTemperature]

end RegistryState

end AgentPipeline
