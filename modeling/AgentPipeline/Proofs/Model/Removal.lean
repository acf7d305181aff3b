import AgentPipeline.Proofs.Model.Reload

/-!
# Removed models

The stored list keeps no trace of a model that was removed, so a later load
shows the model again exactly if the service then lists it.  A service that was
told of the removal, and forgets what it is told to delete, does not.
Main statement: `remove_sticks`.
-/

namespace AgentPipeline

variable {σ ς : Type} [KeyValueStore σ] [AgentService ς]

/-! ## What others do meanwhile -/

/-- The store and the service behind registries. -/
structure Backing (σ ς : Type) where
  store : σ
  service : ς

/-- Something that anyone does with the store and the service. -/
inductive BackingStep where
  /-- A call on some registry. -/
  | edit (registry : ModelRegistry) (call : RegistryCall)
  | load
  | ask (request : Request)
  | write (key text : String)
  | erase (key : String)

namespace BackingStep

def perform (backing : Backing σ ς) : BackingStep → Backing σ ς
  | edit registry call =>
      let change := call.perform ⟨registry, backing.store, backing.service⟩
      ⟨change.store, change.service⟩
  | load =>
      { backing with
        service := (ModelRegistry.load backing.store backing.service).2 }
  | ask request =>
      { backing with
        service := (AgentService.call request backing.service).2 }
  | write key text =>
      { backing with store := (KeyValueStore.set backing.store key text).2 }
  | erase key =>
      { backing with store := (KeyValueStore.remove backing.store key).2 }

/-- Nothing is written under the identifier: no list with it is stored, and no
model with it is sent to the service. -/
def Spares (id : String) : BackingStep → Prop
  | edit registry call =>
      CustomModel.named id (call.edit.models registry) = none
  | load => True
  | ask request =>
      ∀ model, request = .saveModel model → model.id ≠ id
  | write key text =>
      key = StoreKey.customModels.name →
        ∀ models, CustomModel.listDecoder.parse? text = some models →
          CustomModel.named id models = none
  | erase _ => True

end BackingStep

/-- The store and the service after some steps. -/
def Backing.after (start : Backing σ ς) (steps : List BackingStep) :
    Backing σ ς :=
  steps.foldl BackingStep.perform start

/-! ## The stored list -/

namespace CustomModel

/-- What is stored and read again has no identifiers that it had not. -/
theorem named_of_parse? {models backs : List CustomModel} {id : String}
    (absent : named id models = none)
    (read : listDecoder.parse? (Json.array (models.map encode)).text =
      some backs) : named id backs = none := by
  rw [Decoder.parse?, Json.parse?_text] at read
  have each : (Json.array (models.map encode)).reread.bind
      (listDecoder Json.depthLimit) = models.mapM fun model =>
        model.encode.reread.bind (decoder 126) :=
    Decoder.list_reread fun _ _ => rfl
  rw [each] at read
  have identifiers :=
    map_id_of_mapM (fun _ _ isRead => id_of_decoder isRead) read
  rw [named_eq_none_iff_not_mem] at absent ⊢
  rwa [identifiers]

end CustomModel

/-- The stored list can be read, and there is no model with the identifier in
it. -/
def LacksStored (id : String) (store : σ) : Prop :=
  ∃ stored, ModelRegistry.storedModels store = .ok stored ∧
    CustomModel.named id stored = none

omit [AgentService ς] in
private theorem storedModels_congr {store other : σ}
    (same : KeyValueStore.get store StoreKey.customModels.name =
      KeyValueStore.get other StoreKey.customModels.name) :
    ModelRegistry.storedModels store = ModelRegistry.storedModels other := by
  rw [ModelRegistry.storedModels, ModelRegistry.storedModels,
    KeyValueStore.read, KeyValueStore.read, same]

section Store

variable {works : σ → Prop} (separate : KeyValueStore.Separate works)
include separate

theorem lacksStored_set {store : σ} (working : works store) {id text : String}
    (absent : ∀ models, CustomModel.listDecoder.parse? text = some models →
      CustomModel.named id models = none) :
    LacksStored id
      (KeyValueStore.set store StoreKey.customModels.name text).2 := by
  rw [LacksStored, ModelRegistry.storedModels, KeyValueStore.read,
    separate.get_set working]
  refine ⟨_, rfl, ?_⟩
  cases parsed : CustomModel.listDecoder.parse? text with
  | none => simp [parsed, CustomModel.named]
  | some models => simpa [parsed] using absent models parsed

theorem lacksStored_write {store : σ} (working : works store) {id : String}
    {models : List CustomModel}
    (absent : CustomModel.named id models = none) :
    LacksStored id (KeyValueStore.write store StoreKey.customModels.name
      (.array (models.map CustomModel.encode))).2 :=
  lacksStored_set separate working fun _ parsed =>
    CustomModel.named_of_parse? absent parsed

namespace LacksStored

variable {store : σ} {id : String} (lacks : LacksStored id store)
  (working : works store)
include lacks working

theorem set {key text : String}
    (absent : key = StoreKey.customModels.name →
      ∀ models, CustomModel.listDecoder.parse? text = some models →
        CustomModel.named id models = none) :
    LacksStored id (KeyValueStore.set store key text).2 := by
  by_cases isModels : key = StoreKey.customModels.name
  · subst isModels
    exact lacksStored_set separate working (absent rfl)
  · rw [LacksStored, storedModels_congr
      (separate.get_set_of_ne working isModels text)]
    exact lacks

theorem erase (key : String) :
    LacksStored id (KeyValueStore.remove store key).2 := by
  by_cases isModels : key = StoreKey.customModels.name
  · subst isModels
    refine ⟨[], ?_, rfl⟩
    rw [ModelRegistry.storedModels, KeyValueStore.read,
      separate.get_remove working]
    rfl
  · rw [LacksStored, storedModels_congr
      (separate.get_remove_of_ne working isModels)]
    exact lacks

end LacksStored

/-- An edit is refused, or it stores its list and perhaps sends the change. -/
theorem BackingStep.perform_edit {backing : Backing σ ς}
    (working : works backing.store) (registry : ModelRegistry)
    (call : RegistryCall) :
    (edit registry call).perform backing = backing ∨
      ((edit registry call).perform backing).store =
          (KeyValueStore.write backing.store StoreKey.customModels.name
            (.array ((call.edit.models registry).map
              CustomModel.encode))).2 ∧
        (((edit registry call).perform backing).service = backing.service ∨
          ((edit registry call).perform backing).service =
            (call.edit.send backing.service).2) := by
  have performed : (edit registry call).perform backing =
      ⟨(call.perform ⟨registry, backing.store, backing.service⟩).store,
        (call.perform ⟨registry, backing.store, backing.service⟩).service⟩ :=
    rfl
  rw [performed]
  cases refusal : call.edit.refusal?
      (RegistryState.mk registry backing.store backing.service).registry with
  | some error =>
      rw [RegistryCall.perform_of_refusal refusal]
      exact .inl rfl
  | none =>
      refine .inr ⟨RegistryCall.store_of_accepted separate.toFaultless working
        refusal, ?_⟩
      rw [RegistryCall.service_of_accepted separate.toFaultless working refusal]
      split
      · exact .inr rfl
      · exact .inl rfl

/-- A step that spares the identifier keeps it out of the store. -/
theorem BackingStep.lacksStored_perform {backing : Backing σ ς}
    (working : works backing.store) {id : String}
    (lacks : LacksStored id backing.store) {step : BackingStep}
    (spares : step.Spares id) :
    works (step.perform backing).store ∧
      LacksStored id (step.perform backing).store := by
  cases step with
  | edit registry call =>
      rcases perform_edit separate working registry call with
        same | ⟨written, -⟩
      · rw [same]
        exact ⟨working, lacks⟩
      · rw [written]
        exact ⟨separate.works_write working _ _,
          lacksStored_write separate working spares⟩
  | load => exact ⟨working, lacks⟩
  | ask request => exact ⟨working, lacks⟩
  | write key text =>
      exact ⟨separate.works_set working key text,
        lacks.set separate working spares⟩
  | erase key =>
      exact ⟨separate.works_remove working key,
        lacks.erase separate working key⟩

end Store

/-! ## The listing of the service -/

/-- A service of a kind keeps a model out of its listing from the time at
which it deletes it until it is told to save it. -/
structure AgentService.Forgets {ς : Type} [AgentService ς] (id : String)
    (lacks : ς → Prop) : Prop where
  delete {service : ς}
    (deleted : (AgentService.call (Request.deleteModel id) service).1 =
      Except.ok ()) :
    lacks (AgentService.call (Request.deleteModel id) service).2
  call {service : ς} (isLacking : lacks service) {request : Request}
    (others : ∀ model, request = .saveModel model → model.id ≠ id) :
    lacks (AgentService.call request service).2
  list {service : ς} (isLacking : lacks service) {models : List CustomModel}
    (listed : (AgentService.call Request.listModels service).1 =
      Except.ok models) :
    CustomModel.named id models = none

namespace AgentService.Forgets

variable {id : String} {lacks : ς → Prop} (forgets : Forgets id lacks)
  {service : ς} (isLacking : lacks service)
include forgets isLacking

theorem discover :
    CustomModel.named id (ModelRegistry.listing service) = none ∧
      lacks (ModelRegistry.discover service).2 := by
  have noSave (request : Request)
      (different : ∀ model, request ≠ .saveModel model) :
      ∀ model, request = .saveModel model → model.id ≠ id :=
    fun model same => absurd same (different model)
  have catalogLacks :=
    forgets.call isLacking (noSave .catalog (by rintro _ ⟨⟩))
  have listLacks :=
    forgets.call catalogLacks (noSave .listModels (by rintro _ ⟨⟩))
  unfold ModelRegistry.listing ModelRegistry.discover
  split
  next unreachable =>
    rw [unreachable] at catalogLacks
    exact ⟨rfl, catalogLacks⟩
  next found =>
    rw [found] at catalogLacks listLacks
    dsimp only at catalogLacks listLacks ⊢
    split
    next failed =>
      rw [failed] at listLacks
      exact ⟨rfl, listLacks⟩
    next listed =>
      rw [listed] at listLacks
      exact ⟨forgets.list catalogLacks (congrArg Prod.fst listed), listLacks⟩

omit isLacking in
/-- An edit that stores no list with the identifier does not send it. -/
theorem send (isLacking : lacks service) {registry : ModelRegistry}
    {edit : ModelEdit}
    (spares : CustomModel.named id (edit.models registry) = none) :
    lacks (edit.send service).2 := by
  cases edit with
  | upsert model now =>
      refine forgets.call isLacking ?_
      rintro saved ⟨⟩
      exact CustomModel.named_eq_none_iff.mp spares _
        (ModelRegistry.mem_modelsWith registry _)
  | remove other =>
      refine forgets.call isLacking ?_
      rintro saved ⟨⟩

end AgentService.Forgets

/-- A step that spares the identifier keeps it out of the listing. -/
theorem BackingStep.lacks_perform {works : σ → Prop}
    (separate : KeyValueStore.Separate works) {backing : Backing σ ς}
    (working : works backing.store) {id : String} {lacks : ς → Prop}
    (forgets : AgentService.Forgets id lacks)
    (isLacking : lacks backing.service) {step : BackingStep}
    (spares : step.Spares id) : lacks (step.perform backing).service := by
  cases step with
  | edit registry call =>
      rcases perform_edit separate working registry call with
        same | ⟨-, unsent | sent⟩
      · rw [same]
        exact isLacking
      · rw [unsent]
        exact isLacking
      · rw [sent]
        exact forgets.send isLacking spares
  | load =>
      show lacks (ModelRegistry.load backing.store backing.service).2
      unfold ModelRegistry.load
      split
      · exact isLacking
      · exact (forgets.discover isLacking).2
  | ask request => exact forgets.call isLacking spares
  | write key text => exact isLacking
  | erase key => exact isLacking

/-- Steps that spare the identifier keep it out of the store, and out of the
listing of a service that forgets. -/
theorem Backing.lacks_after {works : σ → Prop}
    (separate : KeyValueStore.Separate works) {start : Backing σ ς}
    (working : works start.store) {id : String}
    (lacksStored : LacksStored id start.store) {steps : List BackingStep}
    (spared : ∀ step ∈ steps, step.Spares id) :
    LacksStored id (start.after steps).store ∧
      ∀ lacks : ς → Prop, AgentService.Forgets id lacks →
        lacks start.service → lacks (start.after steps).service := by
  induction steps generalizing start with
  | nil => exact ⟨lacksStored, fun _ _ isLacking => isLacking⟩
  | cons step steps ih =>
      obtain ⟨spares, laterSpared⟩ := List.forall_mem_cons.mp spared
      obtain ⟨nextWorking, nextLacks⟩ :=
        BackingStep.lacksStored_perform separate working lacksStored spares
      obtain ⟨lastLacks, keepsLacking⟩ := ih nextWorking nextLacks laterSpared
      refine ⟨lastLacks, fun lacks forgets isLacking => ?_⟩
      exact keepsLacking lacks forgets
        (BackingStep.lacks_perform separate working forgets isLacking spares)

/-! ## Removing -/

namespace ModelRegistry

section Removing

variable {works : σ → Prop} (separate : KeyValueStore.Separate works)
include separate

/-- A removal that was accepted takes the identifier out of the store; the
service was asked to delete the model if it counts as mirrored. -/
theorem remove_lacks {store : σ} (working : works store)
    {registry : ModelRegistry} {service : ς} {sync : SyncMode} {id : String}
    {outcome : MirrorOutcome}
    (removed : (registry.remove id store service sync).result =
      .ok outcome) :
    works (registry.remove id store service sync).store ∧
      LacksStored id (registry.remove id store service sync).store ∧
      (outcome = .mirrored →
        (AgentService.call (Request.deleteModel id) service).1 =
            Except.ok () ∧
          (registry.remove id store service sync).service =
            (AgentService.call (Request.deleteModel id) service).2) := by
  have performed : registry.remove id store service sync =
      (RegistryCall.mk (.remove id) sync).perform ⟨registry, store, service⟩ :=
    rfl
  rw [performed] at removed ⊢
  cases refusal : (RegistryCall.mk (.remove id) sync).edit.refusal?
      (RegistryState.mk registry store service).registry with
  | some error =>
      rw [RegistryCall.perform_of_refusal refusal] at removed
      cases removed
  | none =>
      rw [RegistryCall.store_of_accepted separate.toFaultless working refusal]
      refine ⟨separate.works_write working _ _, lacksStored_write separate
        working (named_modelsWithout registry id), ?_⟩
      rintro rfl
      exact RegistryCall.sent_of_mirrored separate.toFaultless working refusal
        removed

/-- Behind a removal, while nobody writes under the identifier, a load shows
the model exactly if the service lists it then; if the service was told of the
removal and forgets what it deletes, no load shows it. -/
theorem remove_sticks {store : σ} (working : works store)
    (registry : ModelRegistry) (service : ς) (sync : SyncMode) (id : String)
    {outcome : MirrorOutcome}
    (removed : (registry.remove id store service sync).result = .ok outcome)
    {steps : List BackingStep} (spared : ∀ step ∈ steps, step.Spares id) :
    let change := registry.remove id store service sync
    let last := (Backing.mk change.store change.service).after steps
    ∃ reloaded, (load last.store last.service).1 = .ok reloaded ∧
      (reloaded.find? id = none ↔
        ∀ model ∈ listing last.service, model.id ≠ id) ∧
      ∀ lacks : ς → Prop, AgentService.Forgets id lacks →
        outcome = .mirrored → reloaded.find? id = none := by
  intro change last
  obtain ⟨nextWorking, lacksStored, sent⟩ :=
    remove_lacks separate working removed
  have startLacks : LacksStored id
      (Backing.mk change.store change.service).store := lacksStored
  obtain ⟨⟨stored, isStored, absent⟩, keepsLacking⟩ :=
    Backing.lacks_after separate nextWorking startLacks spared
  obtain ⟨reloaded, loaded, custom⟩ :=
    load_of_storedModels isStored last.service
  have absent_iff : reloaded.find? id = none ↔
      ∀ model ∈ listing last.service, model.id ≠ id := by
    rw [find?, custom]
    exact CustomModel.named_merge_eq_none_iff absent
  refine ⟨reloaded, loaded, absent_iff, ?_⟩
  intro lacks forgets mirrored
  obtain ⟨deleted, sameService⟩ := sent mirrored
  have isLacking : lacks change.service := by
    rw [sameService]
    exact forgets.delete deleted
  have unlisted := (forgets.discover (keepsLacking lacks forgets isLacking)).1
  exact absent_iff.mpr (CustomModel.named_eq_none_iff.mp unlisted)

end Removing

end ModelRegistry

/-! ## A scripted service -/

namespace ScriptedService

/-- An answer changes the models as the request tells, or not at all. -/
theorem models_answer (service : ScriptedService) (request : Request) :
    (service.answer request).2.models = service.models ∨
      (∃ model, request = .saveModel model ∧
        (service.answer request).2.models =
          service.modelsWithout model.id ++ [model]) ∨
      ∃ id, request = .deleteModel id ∧
        (service.answer request).2.models = service.modelsWithout id := by
  unfold answer
  split
  · exact .inl rfl
  · cases request with
    | saveModel model =>
        simp only [answerOnline, changeModels]
        split
        · exact .inr (.inl ⟨model, rfl, rfl⟩)
        · exact .inl rfl
    | deleteModel id =>
        simp only [answerOnline, changeModels]
        split
        · exact .inr (.inr ⟨id, rfl, rfl⟩)
        · exact .inl rfl
    | stage request =>
        simp only [answerOnline, answerStage]
        split <;> exact .inl rfl
    | poll run offset =>
        simp only [answerOnline, answerPoll]
        split <;> exact .inl rfl
    | catalog | listModels | startEvaluator _ | control _ _
    | fetchRecord _ _ => exact .inl rfl

theorem models_of_deleted {service : ScriptedService} {id : String}
    (deleted : (service.answer (.deleteModel id)).1 = Except.ok ()) :
    (service.answer (.deleteModel id)).2.models =
      service.modelsWithout id := by
  cases offline : service.offline with
  | true =>
      rw [answer, if_pos offline] at deleted
      cases deleted
  | false =>
      have answered : service.answer (.deleteModel id) =
          service.changeModels (service.modelsWithout id) := by
        rw [answer, offline]
        rfl
      rw [answered] at deleted ⊢
      unfold changeModels at deleted ⊢
      split at deleted
      · rfl
      · cases deleted

theorem models_of_listed {service : ScriptedService}
    {models : List CustomModel}
    (listed : (service.answer .listModels).1 = Except.ok models) :
    models = service.models := by
  cases offline : service.offline with
  | true =>
      rw [answer, if_pos offline] at listed
      cases listed
  | false =>
      have answered : (service.answer .listModels).1 =
          replacing service.listError (.ok service.models) := by
        rw [answer, offline]
        rfl
      rw [answered] at listed
      unfold replacing at listed
      split at listed
      · exact (Except.ok.inj listed).symm
      · cases listed

theorem named_of_modelsWithout {service : ScriptedService} {id : String}
    (absent : CustomModel.named id service.models = none) (other : String) :
    CustomModel.named id (service.modelsWithout other) = none := by
  rw [CustomModel.named_eq_none_iff] at absent ⊢
  exact fun model isModel => absent model (List.mem_filter.mp isModel).1

/-- The scripted service forgets what it deletes. -/
theorem forgets (id : String) :
    AgentService.Forgets id fun service : ScriptedService =>
      CustomModel.named id service.models = none where
  delete {service} deleted := by
    have models := models_of_deleted deleted
    show CustomModel.named id (answer _ (.deleteModel id)).2.models = none
    rw [models]
    simp [CustomModel.named_eq_none_iff, modelsWithout]
  call {service} isLacking {request} others := by
    have received : CustomModel.named id
        (service.receive request).models = none := isLacking
    show CustomModel.named id
      ((service.receive request).answer request).2.models = none
    rcases models_answer (service.receive request) request with
      same | ⟨model, isSave, saved⟩ | ⟨other, -, deleted⟩
    · rw [same]
      exact received
    · have absent := named_of_modelsWithout received model.id
      rw [saved, CustomModel.named_eq_none_iff, List.forall_mem_append]
      exact ⟨CustomModel.named_eq_none_iff.mp absent,
        List.forall_mem_singleton.mpr (others model isSave)⟩
    · rw [deleted]
      exact named_of_modelsWithout received other
  list {service} isLacking {models} listed := by
    rw [models_of_listed listed]
    exact isLacking

end ScriptedService

/-- A service that lists a model of the user. -/
def ScriptedService.ofModel : ScriptedService :=
  { ScriptedService.new with models := [CustomModel.ofTemperature none] }

namespace ModelRegistry

/-- The removal was mirrored, so that the model stays away when another one has
been entered and something else written. -/
theorem remove_sticks_mirrored :
    let registry : ModelRegistry :=
      ⟨.empty, [CustomModel.ofTemperature none], .online⟩
    let change :=
      registry.remove "m1" MemoryStore.empty ScriptedService.ofModel .mirror
    let other := { CustomModel.ofTemperature none with id := "m2" }
    let last := (Backing.mk change.store change.service).after
      [.edit change.registry ⟨.upsert other ⟨5, 0⟩, .mirror⟩, .load,
        .write StoreKey.history.name "[]"]
    ∃ reloaded, (load last.store last.service).1 = .ok reloaded ∧
      reloaded.find? "m1" = none := by
  intro registry change other last
  have spared : ∀ step ∈ [BackingStep.edit change.registry
      ⟨.upsert other ⟨5, 0⟩, .mirror⟩, .load,
        .write StoreKey.history.name "[]"], step.Spares "m1" := by
    refine List.forall_mem_cons.mpr ⟨?_, List.forall_mem_cons.mpr
      ⟨trivial, List.forall_mem_singleton.mpr ?_⟩⟩
    · show CustomModel.named "m1" _ = none
      decide +kernel
    · exact fun same => absurd same (by decide)
  obtain ⟨reloaded, loaded, -, sticks⟩ := remove_sticks MemoryStore.separate
    rfl registry ScriptedService.ofModel .mirror "m1"
    (by decide +kernel : change.result = .ok .mirrored) spared
  exact ⟨reloaded, loaded, sticks _ (ScriptedService.forgets "m1") rfl⟩

/-- A removal that was not sent does not stick: the service lists the model, so
the next load shows it again. -/
theorem removed_shown_again :
    ∃ registry online reloaded,
      load MemoryStore.empty ScriptedService.ofModel =
          (.ok registry, online) ∧
        let change := registry.remove "m1" MemoryStore.empty online .localOnly
        change.result = .ok .skipped ∧
          (load change.store change.service).1 = .ok reloaded ∧
          reloaded.find? "m1" = some (CustomModel.ofTemperature none) := by
  refine ⟨_, _, _, rfl, ?_, rfl, ?_⟩
  · decide +kernel
  · decide +kernel

end ModelRegistry

end AgentPipeline
