import AgentPipeline.Model.Sync
import AgentPipeline.Proofs.Model.Merge
import AgentPipeline.Proofs.Store.Faultless

/-!
# Changes of the models of the user

A call enters a model or removes one.  It is refused, and then nothing changes,
or the new list of models is stored as a whole, whatever becomes of the copy
that the service keeps.  So behind every call that was accepted the store holds
the models of the registry.  Main statements: `changesWell_of_isTidy`,
`after_of_others`.
-/

namespace AgentPipeline

/-! ## Lists with one model changed -/

namespace CustomModel

theorem AreAscending.eq_of_perm {left right : List CustomModel}
    (leftAscending : AreAscending left) (rightAscending : AreAscending right)
    (sameModels : left.Perm right) : left = right := by
  refine sameModels.eq_of_pairwise ?_ leftAscending rightAscending
  intro earlier later _ _ before after
  exact absurd (String.lt_trans before after) (String.lt_irrefl _)

/-- Ascending lists are equal if they have the same entry under each
identifier. -/
theorem AreAscending.ext_named {left right : List CustomModel}
    (leftAscending : AreAscending left) (rightAscending : AreAscending right)
    (same : ∀ id, named id left = named id right) : left = right := by
  have different {models : List CustomModel}
      (ascending : AreAscending models) : models.Nodup :=
    ascending.imp fun before equal =>
      String.ne_of_lt before (congrArg CustomModel.id equal)
  refine leftAscending.eq_of_perm rightAscending ?_
  refine (List.perm_ext_iff_of_nodup (different leftAscending)
    (different rightAscending)).mpr fun model => ?_
  have isLeft : named model.id left = some model ↔ _ :=
    leftAscending.named_eq_some_iff
  have isRight : named model.id right = some model ↔ _ :=
    rightAscending.named_eq_some_iff
  rw [same model.id, isRight] at isLeft
  simpa using isLeft.symm

end CustomModel

namespace ModelRegistry

open CustomModel

variable {registry : ModelRegistry}

theorem mem_modelsWithout {id : String} {model : CustomModel} :
    model ∈ registry.modelsWithout id ↔
      model ∈ registry.custom ∧ model.id ≠ id := by
  simp [modelsWithout]

theorem areAscending_modelsWithout (ascending : AreAscending registry.custom)
    (id : String) : AreAscending (registry.modelsWithout id) :=
  ascending.filter _

theorem named_modelsWithout (registry : ModelRegistry) (id : String) :
    named id (registry.modelsWithout id) = none :=
  named_eq_none_iff.mpr fun _ isModel => (mem_modelsWithout.mp isModel).2

theorem perm_modelsWith (registry : ModelRegistry) (model : CustomModel) :
    (registry.modelsWith model).Perm
      (registry.modelsWithout model.id ++ [model]) :=
  List.mergeSort_perm ..

theorem areAscending_modelsWith (ascending : AreAscending registry.custom)
    (model : CustomModel) : AreAscending (registry.modelsWith model) := by
  -- Sorting leaves equal neighbours, but no identifier stands twice.
  have sorted : (registry.modelsWith model).Pairwise fun left right =>
      decide (left.id ≤ right.id) = true := by
    apply List.pairwise_mergeSort
    · intro first second third before after
      simp only [decide_eq_true_eq] at before after ⊢
      exact String.le_trans before after
    · intro left right
      simpa using String.le_total left.id right.id
  have different : (registry.modelsWith model).Pairwise fun left right =>
      left.id ≠ right.id := by
    refine ((perm_modelsWith registry model).pairwise_iff Ne.symm).mpr ?_
    refine List.pairwise_append.mpr ⟨?_, List.pairwise_singleton _ _, ?_⟩
    · exact (areAscending_modelsWithout ascending model.id).imp
        fun before => String.ne_of_lt before
    · intro other isOther last isLast
      obtain rfl := List.mem_singleton.mp isLast
      exact (mem_modelsWithout.mp isOther).2
  refine (sorted.and different).imp ?_
  rintro left right ⟨before, unequal⟩
  exact Std.lt_of_le_of_ne (of_decide_eq_true before) unequal

theorem mem_modelsWith (registry : ModelRegistry) (model : CustomModel) :
    model ∈ registry.modelsWith model :=
  (perm_modelsWith registry model).mem_iff.mpr
    (List.mem_append_right _ (List.mem_singleton.mpr rfl))

/-- Only the model that was entered is left under its identifier. -/
theorem named_modelsWith (registry : ModelRegistry) (model : CustomModel) :
    named model.id (registry.modelsWith model) = some model := by
  have only : ∀ other ∈ registry.modelsWith model, other.id = model.id →
      other = model := by
    intro other isOther same
    rcases List.mem_append.mp ((perm_modelsWith registry model).mem_iff.mp
      isOther) with isOld | isNew
    · exact absurd same (mem_modelsWithout.mp isOld).2
    · exact List.mem_singleton.mp isNew
  cases found : named model.id (registry.modelsWith model) with
  | none =>
      exact absurd rfl
        (named_eq_none_iff.mp found model (mem_modelsWith registry model))
  | some other => rw [only other (mem_of_named found) (id_of_named found)]

theorem modelsWithout_modelsWithout (registry : ModelRegistry)
    (id : String) :
    { registry with custom := registry.modelsWithout id }.modelsWithout id =
      registry.modelsWithout id := by
  simp [modelsWithout]

/-- A model that is entered leaves the others there. -/
theorem perm_modelsWithout_modelsWith (registry : ModelRegistry)
    (model : CustomModel) :
    ({ registry with custom := registry.modelsWith model }.modelsWithout
        model.id).Perm
      (registry.modelsWithout model.id) := by
  refine ((perm_modelsWith registry model).filter _).trans ?_
  simp [modelsWithout]

/-- The models under other identifiers are found in the list without one. -/
theorem find?_of_ne {id other : String} (different : other ≠ id) :
    registry.find? other = named other (registry.modelsWithout id) := by
  rw [find?, modelsWithout, named, List.find?_filter]
  congr 1
  funext model
  rw [Bool.eq_iff_iff]
  simp only [beq_iff_eq, decide_eq_true_eq]
  constructor
  · rintro rfl
    exact ⟨different, rfl⟩
  · exact And.right

end ModelRegistry

/-! ## Calls -/

/-- An edit of the models of the user. -/
inductive ModelEdit where
  /-- Enters a model, or replaces the one with its identifier, at a given
  time. -/
  | upsert (model : CustomModel) (now : Timestamp)
  | remove (id : String)

/-- A call that edits the models of the user, and whether the change may be
sent to the service. -/
structure RegistryCall where
  edit : ModelEdit
  sync : SyncMode

/-- A registry with the store and the service that it is used with. -/
structure RegistryState (σ ς : Type) where
  registry : ModelRegistry
  store : σ
  service : ς

namespace ModelEdit

/-- The identifier that the edit is about. -/
def id : ModelEdit → String
  | upsert model _ => model.id
  | remove id => id

/-- The model that the edit leaves under its identifier. -/
def entry : ModelEdit → Option CustomModel
  | upsert model now => some { model with updatedAt := some now }
  | remove _ => none

/-- Why the edit is refused. -/
def refusal? (registry : ModelRegistry) : ModelEdit → Option RegistryError
  | upsert model _ => model.missingField?.map fun field =>
      .invalidModel (field ++ " is required")
  | remove id =>
      match registry.find? id with
      | none => some (.unknownModel id)
      | some _ => none

/-- The models of the user behind the edit. -/
def models (registry : ModelRegistry) : ModelEdit → List CustomModel
  | upsert model now =>
      registry.modelsWith { model with updatedAt := some now }
  | remove id => registry.modelsWithout id

/-- Sends the change to the service. -/
def send {ς : Type} [AgentService ς] :
    ModelEdit → ς → Except ServiceError Unit × ς
  | upsert model now => AgentService.call
      (Request.saveModel { model with updatedAt := some now })
  | remove id => AgentService.call (Request.deleteModel id)

variable {registry : ModelRegistry}

theorem areAscending_models
    (ascending : CustomModel.AreAscending registry.custom)
    (edit : ModelEdit) : CustomModel.AreAscending (edit.models registry) := by
  cases edit with
  | upsert model now => exact ModelRegistry.areAscending_modelsWith ascending _
  | remove id => exact ModelRegistry.areAscending_modelsWithout ascending id

theorem named_models (registry : ModelRegistry) (edit : ModelEdit) :
    CustomModel.named edit.id (edit.models registry) = edit.entry := by
  cases edit with
  | upsert model now =>
      exact ModelRegistry.named_modelsWith registry
        { model with updatedAt := some now }
  | remove id => exact ModelRegistry.named_modelsWithout registry id

theorem perm_modelsWithout_models (registry : ModelRegistry)
    (edit : ModelEdit) :
    ({ registry with custom := edit.models registry }.modelsWithout
        edit.id).Perm
      (registry.modelsWithout edit.id) := by
  cases edit with
  | upsert model now =>
      exact registry.perm_modelsWithout_modelsWith
        { model with updatedAt := some now }
  | remove id =>
      exact .of_eq (registry.modelsWithout_modelsWithout id)

theorem modelsWithout_models
    (ascending : CustomModel.AreAscending registry.custom)
    (edit : ModelEdit) :
    { registry with custom := edit.models registry }.modelsWithout edit.id =
      registry.modelsWithout edit.id :=
  CustomModel.AreAscending.eq_of_perm
    ((areAscending_models ascending edit).filter _)
    (ModelRegistry.areAscending_modelsWithout ascending edit.id)
    (perm_modelsWithout_models registry edit)

end ModelEdit

/-- What is reported of the outcome for a model. -/
def MirrorOutcome.events (id : String) : MirrorOutcome → List Event
  | failed error => [.registryMirrorFailed id error.message]
  | _ => []

theorem ModelRegistry.mirrorOutcome_reports (id : String)
    (answer : Except ServiceError Unit) :
    (mirrorOutcome id answer).2 = (mirrorOutcome id answer).1.events id := by
  cases answer <;> rfl

theorem ModelRegistry.mirrorOutcome_ne_skipped (id : String)
    (answer : Except ServiceError Unit) :
    (mirrorOutcome id answer).1 ≠ .skipped := by
  cases answer <;> rintro ⟨⟩

variable {σ ς : Type} [KeyValueStore σ] [AgentService ς]

/-- What the next call starts from. -/
def RegistryChange.state {σ ς : Type} (change : RegistryChange σ ς) :
    RegistryState σ ς :=
  ⟨change.registry, change.store, change.service⟩

namespace RegistryCall

def perform (call : RegistryCall) (before : RegistryState σ ς) :
    RegistryChange σ ς :=
  match call.edit with
  | .upsert model now =>
      before.registry.upsert model now before.store before.service call.sync
  | .remove id =>
      before.registry.remove id before.store before.service call.sync

end RegistryCall

namespace RegistryState

/-- The state behind some calls, one after the other. -/
def after (start : RegistryState σ ς) (calls : List RegistryCall) :
    RegistryState σ ς :=
  calls.foldl (fun before call => (call.perform before).state) start

/-- The store holds the models of the registry. -/
def IsStored (state : RegistryState σ ς) : Prop :=
  KeyValueStore.get state.store StoreKey.customModels.name =
    .ok (some (Json.array
      (state.registry.custom.map CustomModel.encode)).text)

/-- The identifiers ascend, and the store does not fail. -/
structure IsTidy (works : σ → Prop) (state : RegistryState σ ς) : Prop where
  ascending : CustomModel.AreAscending state.registry.custom
  working : works state.store

end RegistryState

namespace RegistryCall

open RegistryState

/-- What is left behind by a call that was accepted. -/
structure Lands (call : RegistryCall) (before : RegistryState σ ς)
    (outcome : MirrorOutcome) : Prop where
  ascending :
    CustomModel.AreAscending (call.perform before).registry.custom
  stored : (call.perform before).state.IsStored
  entered : (call.perform before).registry.find? call.edit.id =
    call.edit.entry
  others : (call.perform before).registry.modelsWithout call.edit.id =
    before.registry.modelsWithout call.edit.id
  catalog : (call.perform before).registry.catalog = before.registry.catalog
  connectivity : (call.perform before).registry.connectivity =
    before.registry.connectivity
  /-- Whatever becomes of the copy that the service keeps, the registry and
  the store are as if the change had not been sent. -/
  sameRegistry : (call.perform before).registry =
    ({ call with sync := .localOnly }.perform before).registry
  sameStore : (call.perform before).store =
    ({ call with sync := .localOnly }.perform before).store
  skipped : outcome = .skipped ↔
    before.registry.mirrors call.sync = false
  reported : (call.perform before).events = outcome.events call.edit.id

/-- A call is accepted and lands, or it is refused and changes nothing. -/
structure ChangesWell (call : RegistryCall) (before : RegistryState σ ς) :
    Prop where
  accepted : ∀ outcome, (call.perform before).result = .ok outcome →
    call.edit.refusal? before.registry = none ∧ call.Lands before outcome
  refused : ∀ error, (call.perform before).result = .error error →
    call.edit.refusal? before.registry = some error ∧
      (call.perform before).state = before ∧
      (call.perform before).events = []

theorem perform_of_refusal {call : RegistryCall}
    {before : RegistryState σ ς} {error : RegistryError}
    (refused : call.edit.refusal? before.registry = some error) :
    call.perform before =
      ⟨before.registry, before.store, before.service, [], .error error⟩ := by
  obtain ⟨edit, sync⟩ := call
  cases edit with
  | upsert model now =>
      obtain ⟨field, missing, rfl⟩ := Option.map_eq_some_iff.mp refused
      simp [perform, ModelRegistry.upsert, missing]
  | remove id =>
      cases found : before.registry.find? id with
      | none =>
          simp only [ModelEdit.refusal?, found] at refused
          cases refused
          simp [perform, ModelRegistry.remove, found]
      | some model =>
          simp only [ModelEdit.refusal?, found] at refused
          cases refused

theorem perform_of_accepted {call : RegistryCall}
    {before : RegistryState σ ς}
    (accepted : call.edit.refusal? before.registry = none) :
    call.perform before =
      before.registry.change (call.edit.models before.registry) call.edit.id
        call.edit.send before.store before.service call.sync := by
  obtain ⟨edit, sync⟩ := call
  cases edit with
  | upsert model now =>
      have complete : model.missingField? = none :=
        Option.map_eq_none_iff.mp accepted
      simp only [perform, ModelRegistry.upsert, complete]
      rfl
  | remove id =>
      cases found : before.registry.find? id with
      | none =>
          simp only [ModelEdit.refusal?, found] at accepted
          cases accepted
      | some model =>
          simp only [perform, ModelRegistry.remove, found]
          rfl

/-- The list of the registry is edited before it is stored. -/
theorem registry_of_accepted {call : RegistryCall}
    {before : RegistryState σ ς}
    (accepted : call.edit.refusal? before.registry = none) :
    (call.perform before).registry =
      { before.registry with
        custom := call.edit.models before.registry } := by
  rw [perform_of_accepted accepted, ModelRegistry.change]
  split
  · rfl
  · dsimp only
    split <;> rfl

variable {works : σ → Prop} (faultless : KeyValueStore.Faultless works)
include faultless

omit [AgentService ς] in
/-- On a store that does not fail a change is always stored. -/
theorem change_of_working {before : RegistryState σ ς}
    (working : works before.store) (custom : List CustomModel) (id : String)
    (send : ς → Except ServiceError Unit × ς) (sync : SyncMode) :
    before.registry.change custom id send before.store before.service sync =
      let store := (KeyValueStore.write before.store
        StoreKey.customModels.name (.array (custom.map CustomModel.encode))).2
      if before.registry.mirrors sync then
        let (outcome, service) := send before.service
        let (copy, events) := ModelRegistry.mirrorOutcome id outcome
        ⟨{ before.registry with custom }, store, service, events, .ok copy⟩
      else
        ⟨{ before.registry with custom }, store, before.service, [],
          .ok .skipped⟩ := by
  have written := faultless.set_ok working StoreKey.customModels.name
    (Json.array (custom.map CustomModel.encode)).text
  unfold ModelRegistry.change KeyValueStore.write
  split
  next failed =>
    rw [failed] at written
    cases written
  next done =>
    rw [done]

section Accepted

variable {call : RegistryCall} {before : RegistryState σ ς}
  (working : works before.store)
  (accepted : call.edit.refusal? before.registry = none)
include working accepted

theorem store_of_accepted : (call.perform before).store =
    (KeyValueStore.write before.store StoreKey.customModels.name (.array
      ((call.edit.models before.registry).map CustomModel.encode))).2 := by
  rw [perform_of_accepted accepted, change_of_working faultless working]
  dsimp only
  split <;> rfl

theorem service_of_accepted : (call.perform before).service =
    if before.registry.mirrors call.sync then
      (call.edit.send before.service).2
    else before.service := by
  rw [perform_of_accepted accepted, change_of_working faultless working]
  dsimp only
  split <;> rfl

/-- The outcome tells whether the change was sent, and only a failure of the
service is reported. -/
theorem exists_outcome_of_accepted :
    ∃ outcome, (call.perform before).result = .ok outcome ∧
      (outcome = .skipped ↔ before.registry.mirrors call.sync = false) ∧
      (call.perform before).events = outcome.events call.edit.id := by
  rw [perform_of_accepted accepted, change_of_working faultless working]
  dsimp only
  cases mirrors : before.registry.mirrors call.sync with
  | false => exact ⟨.skipped, rfl, by simp, rfl⟩
  | true =>
      refine ⟨_, rfl, ?_, ModelRegistry.mirrorOutcome_reports _ _⟩
      simp [ModelRegistry.mirrorOutcome_ne_skipped]

/-- A change counts as mirrored if it was sent and the service took it. -/
theorem sent_of_mirrored
    (mirrored : (call.perform before).result = .ok .mirrored) :
    (call.edit.send before.service).1 = .ok () ∧
      (call.perform before).service = (call.edit.send before.service).2 := by
  rw [perform_of_accepted accepted,
    change_of_working faultless working] at mirrored ⊢
  dsimp only at mirrored ⊢
  split at mirrored
  next mirrors =>
    rw [if_pos mirrors]
    cases answer : (call.edit.send before.service).1 with
    | ok taken => exact ⟨rfl, rfl⟩
    | error error =>
        simp only [answer, ModelRegistry.mirrorOutcome] at mirrored
        cases mirrored
  next => cases mirrored

end Accepted

/-- A call that is not refused is accepted. -/
theorem exists_lands {call : RegistryCall} {before : RegistryState σ ς}
    (isTidy : before.IsTidy works)
    (accepted : call.edit.refusal? before.registry = none) :
    ∃ outcome, (call.perform before).result = .ok outcome ∧
      call.Lands before outcome := by
  obtain ⟨ascending, working⟩ := isTidy
  have registry := registry_of_accepted accepted
  have store := store_of_accepted faultless working accepted
  obtain ⟨outcome, isOutcome, skipped, reported⟩ :=
    exists_outcome_of_accepted faultless working accepted
  have unsent : { call with sync := .localOnly }.edit.refusal?
      before.registry = none := accepted
  refine ⟨outcome, isOutcome, ?_⟩
  constructor
  case ascending =>
    rw [registry]
    exact call.edit.areAscending_models ascending
  case stored =>
    rw [IsStored, RegistryChange.state, registry, store]
    exact faultless.get_set working _ _
  case entered =>
    rw [registry]
    exact call.edit.named_models before.registry
  case others =>
    rw [registry]
    exact call.edit.modelsWithout_models ascending
  case catalog => rw [registry]
  case connectivity => rw [registry]
  case sameRegistry =>
    rw [registry]
    exact (registry_of_accepted unsent).symm
  case sameStore =>
    rw [store]
    exact (store_of_accepted faultless working unsent).symm
  case skipped => exact skipped
  case reported => exact reported

theorem changesWell_of_isTidy {before : RegistryState σ ς}
    (isTidy : before.IsTidy works) (call : RegistryCall) :
    call.ChangesWell before := by
  cases refusal : call.edit.refusal? before.registry with
  | some error =>
      have refused := perform_of_refusal refusal
      constructor
      case accepted =>
        intro outcome isOutcome
        rw [refused] at isOutcome
        cases isOutcome
      case refused =>
        intro other isError
        rw [refused] at isError ⊢
        cases isError
        exact ⟨refusal, rfl, rfl⟩
  | none =>
      obtain ⟨outcome, isOutcome, lands⟩ :=
        exists_lands faultless isTidy refusal
      constructor
      case accepted =>
        intro other isOther
        rw [isOutcome] at isOther
        cases isOther
        exact ⟨refusal, lands⟩
      case refused =>
        intro error isError
        rw [isOutcome] at isError
        cases isError

end RegistryCall

namespace RegistryState

variable {works : σ → Prop} (faultless : KeyValueStore.Faultless works)
include faultless

theorem IsTidy.perform {before : RegistryState σ ς}
    (isTidy : before.IsTidy works) (call : RegistryCall) :
    (call.perform before).state.IsTidy works := by
  cases refusal : call.edit.refusal? before.registry with
  | some error =>
      rw [RegistryCall.perform_of_refusal refusal]
      exact isTidy
  | none =>
      obtain ⟨_, _, lands⟩ :=
        RegistryCall.exists_lands faultless isTidy refusal
      refine ⟨lands.ascending, ?_⟩
      rw [RegistryChange.state, RegistryCall.store_of_accepted faultless
        isTidy.working refusal]
      exact faultless.works_write isTidy.working _ _

theorem IsTidy.after {start : RegistryState σ ς} (isTidy : start.IsTidy works)
    (calls : List RegistryCall) : (start.after calls).IsTidy works := by
  induction calls generalizing start with
  | nil => exact isTidy
  | cons call calls ih => exact ih (isTidy.perform faultless call)

/-- A call keeps the store in agreement with the registry. -/
theorem IsStored.perform {before : RegistryState σ ς}
    (isTidy : before.IsTidy works) (isStored : before.IsStored)
    (call : RegistryCall) : (call.perform before).state.IsStored := by
  cases refusal : call.edit.refusal? before.registry with
  | some error =>
      rw [RegistryCall.perform_of_refusal refusal]
      exact isStored
  | none =>
      obtain ⟨_, _, lands⟩ :=
        RegistryCall.exists_lands faultless isTidy refusal
      exact lands.stored

/-- A call does not touch what is found under another identifier. -/
theorem find?_perform_of_ne {before : RegistryState σ ς}
    (isTidy : before.IsTidy works) {call : RegistryCall} {id : String}
    (different : call.edit.id ≠ id) :
    (call.perform before).registry.find? id = before.registry.find? id := by
  cases refusal : call.edit.refusal? before.registry with
  | some error => rw [RegistryCall.perform_of_refusal refusal]
  | none =>
      obtain ⟨_, _, lands⟩ :=
        RegistryCall.exists_lands faultless isTidy refusal
      rw [ModelRegistry.find?_of_ne different.symm, lands.others,
        ModelRegistry.find?_of_ne different.symm]

/-- Calls about others leave an entry where it is, in the registry and in the
store. -/
theorem after_of_others {start : RegistryState σ ς}
    (isTidy : start.IsTidy works) (isStored : start.IsStored) {id : String}
    {calls : List RegistryCall} (others : ∀ call ∈ calls, call.edit.id ≠ id) :
    (start.after calls).IsStored ∧
      (start.after calls).registry.find? id = start.registry.find? id := by
  induction calls generalizing start with
  | nil => exact ⟨isStored, rfl⟩
  | cons call calls ih =>
      obtain ⟨different, laterDifferent⟩ := List.forall_mem_cons.mp others
      obtain ⟨stored, found⟩ := ih (isTidy.perform faultless call)
        (isStored.perform faultless isTidy call) laterDifferent
      refine ⟨stored, found.trans ?_⟩
      exact find?_perform_of_ne faultless isTidy different

end RegistryState

end AgentPipeline
