import AgentPipeline.Proofs.Model.Reload
import AgentPipeline.Proofs.Model.Union

/-!
# Refreshing a registry

A list that was united with what the service lists has taken all of it over,
so uniting it once more changes nothing.  When it went through the store in
between, an entry that the service lists comes back as it is listed, and any
other as it is read back from its text, or not at all if some entry of the
list cannot be read.  Main statement: `refreshes_settle`.
-/

namespace AgentPipeline

namespace CustomModel

/-! ## Unions with a list that was read back -/

/-- What comes back of an entry behind its text, beside what the service
offers. -/
def renewed? (offered : List CustomModel) (entry : CustomModel) :
    Option CustomModel :=
  if entry ∈ offered then some entry else entry.reread?

/-- An entry that comes back as it is: the service offers it, or it is read
back from a list in which every other entry is read back as well. -/
def Lasts (models offered : List CustomModel) (entry : CustomModel) : Prop :=
  entry ∈ offered ∨
    entry.reread? = some entry ∧ ∀ other ∈ models, other.reread?.isSome

theorem isSome_of_mapM_reread? {models backs : List CustomModel}
    (read : models.mapM reread? = some backs) :
    ∀ model ∈ models, model.reread?.isSome := by
  induction models generalizing backs with
  | nil =>
      rintro _ ⟨⟩
  | cons model models ih =>
      rw [List.mapM_cons] at read
      obtain ⟨back, first, rest⟩ := Option.bind_eq_some_iff.mp read
      obtain ⟨others, restRead, -⟩ := Option.bind_eq_some_iff.mp rest
      exact List.forall_mem_cons.mpr ⟨first ▸ rfl, ih restRead⟩

theorem mapM_reread?_eq_none_iff {models : List CustomModel} :
    models.mapM reread? = none ↔
      ¬∀ model ∈ models, model.reread?.isSome := by
  constructor
  · intro unread areRead
    obtain ⟨backs, read⟩ := exists_mapM_reread? areRead
    cases unread.symm.trans read
  · intro notAll
    cases read : models.mapM reread? with
    | none => rfl
    | some backs => exact absurd (isSome_of_mapM_reread? read) notAll

section Union

variable {stored offered : List CustomModel}

/-- An entry of the union contends again with what is offered, whatever its
connection has become. -/
theorem named_merge_backs {backs : List CustomModel}
    (read : (merge stored offered).mapM reread? = some backs) (id : String) :
    named id (merge backs offered) =
      (named id (merge stored offered)).bind (renewed? offered) := by
  have ascending := areAscending_merge stored offered
  rw [named_merge (ascending.of_mapM_reread? read),
    named_of_mapM_reread? read]
  cases left : named id (merge stored offered) with
  | none =>
      rw [named_merge_eq, foldl_contend_eq_none_iff] at left
      rw [left.2]
      rfl
  | some entry =>
      obtain ⟨back, isBack⟩ := Option.isSome_iff_exists.mp
        (isSome_of_mapM_reread? read entry (mem_of_named left))
      have sameTime : back.updatedAt = entry.updatedAt := by
        obtain ⟨connection, rfl⟩ := exists_of_reread? isBack
        rfl
      have isListed : entry ∈ offered.filter (·.id = id) ↔
          entry ∈ offered := by
        simp [id_of_named left]
      rw [named_merge_eq] at left
      rw [Option.bind_some, Option.bind_some, isBack,
        foldl_contend_again left sameTime, renewed?, isBack]
      simp only [isListed]

/-- A union is the same as another one if all its entries come back as they
are. -/
theorem merge_eq_iff {backs : List CustomModel}
    {comesBack? : CustomModel → Option CustomModel}
    (comeBack : ∀ id, named id (merge backs offered) =
      (named id (merge stored offered)).bind comesBack?) :
    merge backs offered = merge stored offered ↔
      ∀ entry ∈ merge stored offered, comesBack? entry = some entry := by
  have ascending := areAscending_merge stored offered
  constructor
  · intro same entry isEntry
    have isNamed := ascending.named_eq_some_iff.mpr ⟨isEntry, rfl⟩
    have back := comeBack entry.id
    rw [same, isNamed, Option.bind_some] at back
    exact back.symm
  · intro each
    refine AreAscending.ext_named (areAscending_merge _ _) ascending
      fun id => ?_
    rw [comeBack]
    cases isNamed : named id (merge stored offered) with
    | none => rfl
    | some entry => exact each entry (mem_of_named isNamed)

theorem merge_backs_eq_iff {backs : List CustomModel}
    (read : (merge stored offered).mapM reread? = some backs) :
    merge backs offered = merge stored offered ↔
      ∀ entry ∈ merge stored offered,
        Lasts (merge stored offered) offered entry := by
  rw [merge_eq_iff (named_merge_backs read)]
  refine forall₂_congr fun entry isEntry => ?_
  rw [renewed?, Lasts]
  have areRead := isSome_of_mapM_reread? read
  by_cases isOffered : entry ∈ offered
  · simp [isOffered]
  · rw [if_neg isOffered]
    exact ⟨fun same => .inr ⟨same, areRead⟩,
      fun lasts => (lasts.resolve_left isOffered).1⟩

/-- Of nothing stored the union has what the service offers. -/
theorem merge_nil_eq_iff :
    merge [] offered = merge stored offered ↔
      ∀ entry ∈ merge stored offered, entry ∈ offered := by
  constructor
  · intro same entry isEntry
    rw [← same] at isEntry
    have isNamed :=
      (areAscending_merge [] offered).named_eq_some_iff.mpr ⟨isEntry, rfl⟩
    rw [named_merge_eq] at isNamed
    exact (List.mem_filter.mp (mem_of_foldl_contend_none isNamed)).1
  · intro areOffered
    refine AreAscending.ext_named (areAscending_merge _ _)
      (areAscending_merge _ _) fun id => ?_
    cases left : named id (merge stored offered) with
    | none =>
        rw [named_merge_eq, foldl_contend_eq_none_iff] at left
        rw [named_merge_eq, left.2]
        rfl
    | some entry =>
        have isListed : entry ∈ offered.filter (·.id = id) := by
          simpa using ⟨areOffered entry (mem_of_named left), id_of_named left⟩
        rw [named_merge_eq] at left ⊢
        exact foldl_contend_none_of_mem left isListed

/-- The union with what is read back of it is the same exactly if all its
entries last. -/
theorem merge_reread_eq_iff :
    merge (((merge stored offered).mapM reread?).getD []) offered =
        merge stored offered ↔
      ∀ entry ∈ merge stored offered,
        Lasts (merge stored offered) offered entry := by
  cases read : (merge stored offered).mapM reread? with
  | some backs => exact merge_backs_eq_iff read
  | none =>
      have notAll := mapM_reread?_eq_none_iff.mp read
      rw [Option.getD_none, merge_nil_eq_iff]
      simp only [Lasts, notAll, and_false, or_false]

end Union

end CustomModel

/-! ## Lists that are stored -/

namespace ModelRegistry

open CustomModel

variable {σ τ ς υ : Type} [KeyValueStore σ] [KeyValueStore τ]
  [AgentService ς] [AgentService υ]

omit [AgentService ς] in
/-- What is read from a store has times of the calendar. -/
theorem isHeld_of_storedModels {store : σ} {stored : List CustomModel}
    (isStored : storedModels store = .ok stored) :
    ∀ model ∈ stored, model.IsHeld := by
  rw [storedModels, KeyValueStore.read] at isStored
  cases got : KeyValueStore.get store StoreKey.customModels.name with
  | error error =>
      rw [got] at isStored
      cases isStored
  | ok found =>
      rw [got] at isStored
      obtain rfl : (found.bind listDecoder.parse?).getD [] = stored :=
        Except.ok.inj isStored
      cases parsed : found.bind listDecoder.parse? with
      | none => rintro _ ⟨⟩
      | some models =>
          obtain ⟨text, -, isModels⟩ := Option.bind_eq_some_iff.mp parsed
          exact (Decoder.list_gives decoder_gives).of_parse? isModels

/-- The store has the text of a list of models. -/
def HoldsModels (store : τ) (models : List CustomModel) : Prop :=
  KeyValueStore.get store StoreKey.customModels.name =
    .ok (some (Json.array (models.map CustomModel.encode)).text)

/-- One model that cannot be read makes the list count as absent. -/
theorem HoldsModels.storedModels {store : τ} {models : List CustomModel}
    (holds : HoldsModels store models)
    (areHeld : ∀ model ∈ models, model.IsHeld) :
    ModelRegistry.storedModels store =
      .ok ((models.mapM reread?).getD []) := by
  have stored : KeyValueStore.get store StoreKey.customModels.name = _ :=
    holds
  rw [ModelRegistry.storedModels, KeyValueStore.read, stored]
  simp only [Except.map, Option.bind_some, parse?_encodeList areHeld]

/-! ## Loading again -/

/-- The registry behind a refresh, which leaves it as it is if it cannot be
loaded. -/
def refresh (registry : ModelRegistry) (store : τ) (service : υ) :
    ModelRegistry :=
  match (load store service).1 with
  | .ok reloaded => reloaded
  | .error _ => registry

theorem load_eq_of_storedModels {store : σ} {stored : List CustomModel}
    (isStored : storedModels store = .ok stored) (service : ς) :
    (load store service).1 = .ok
      { catalog := (discover service).1.1
        custom := merge stored (listing service)
        connectivity := (discover service).1.2.1 } := by
  rw [load, isStored]
  rfl

/-- A registry is loaded over a stored list by what is read back of it. -/
theorem HoldsModels.load {store : τ} {models : List CustomModel}
    (holds : HoldsModels store models)
    (areHeld : ∀ model ∈ models, model.IsHeld) (service : ς) :
    (ModelRegistry.load store service).1 = .ok
      { catalog := (discover service).1.1
        custom := merge ((models.mapM reread?).getD []) (listing service)
        connectivity := (discover service).1.2.1 } :=
  load_eq_of_storedModels (holds.storedModels areHeld) service

/-- What a registry becomes when it is loaded again from its own list, while
the service offers the same.  One entry that cannot be read makes the list
count as absent, and what the service offers is all that is left. -/
structure Renews (registry reloaded : ModelRegistry)
    (offered : List CustomModel) : Prop where
  catalog : reloaded.catalog = registry.catalog
  connectivity : reloaded.connectivity = registry.connectivity
  shown (areRead : ∀ entry ∈ registry.custom, entry.reread?.isSome)
    (id : String) :
    reloaded.find? id = (registry.find? id).bind (renewed? offered)
  lost (unread : ¬∀ entry ∈ registry.custom, entry.reread?.isSome) :
    reloaded.custom = merge [] offered
  same_iff : reloaded = registry ↔
    ∀ entry ∈ registry.custom, Lasts registry.custom offered entry

/-- The list of a registry that was loaded is a union whose times are moments
of the calendar, if those of the service are. -/
theorem exists_union_of_load {store : σ} {service online : ς}
    {registry : ModelRegistry}
    (loaded : load store service = (.ok registry, online))
    (areMoments : ∀ model ∈ listing service, model.IsHeld) :
    ∃ stored, registry =
        { catalog := (discover service).1.1
          custom := merge stored (listing service)
          connectivity := (discover service).1.2.1 } ∧
      ∀ model ∈ registry.custom, model.IsHeld := by
  cases isStored : storedModels store with
  | error error =>
      rw [load, isStored] at loaded
      cases loaded
  | ok stored =>
      have isRegistry := load_eq_of_storedModels isStored service
      rw [loaded] at isRegistry
      obtain rfl := Except.ok.inj isRegistry
      refine ⟨stored, rfl, fun model isModel => ?_⟩
      rcases (isUnion_merge stored _).1.given model isModel with
        wasStored | isOffered
      · exact isHeld_of_storedModels isStored model wasStored
      · exact areMoments model isOffered

/-- Refreshes that all load the same leave that, however many there are. -/
theorem foldl_refresh {store : τ} {reloaded : ModelRegistry}
    {services : List υ} (given : services ≠ [])
    (same : ∀ later ∈ services, (load store later).1 = .ok reloaded)
    (registry : ModelRegistry) :
    services.foldl (fun current later => current.refresh store later)
      registry = reloaded := by
  induction services generalizing registry with
  | nil => exact absurd rfl given
  | cons first services ih =>
      obtain ⟨firstSame, laterSame⟩ := List.forall_mem_cons.mp same
      have refreshed : registry.refresh store first = reloaded := by
        rw [refresh, firstSame]
      rw [List.foldl_cons, refreshed]
      cases services with
      | nil => rfl
      | cons second services => exact ih (List.cons_ne_nil _ _) laterSame _

/-- A union absorbs what it was made of.  So a registry whose list was stored
is loaded again, once or any number of times, as one and the same registry
while the service answers as it did, and as the registry that it was exactly
if all its entries last. -/
theorem refreshes_settle :
    (∀ stored offered : List CustomModel,
      merge (merge stored offered) offered = merge stored offered) ∧
    ∀ {σ τ ς υ : Type} [KeyValueStore σ] [KeyValueStore τ]
      [AgentService ς] [AgentService υ] {first : σ} {service online : ς}
      {registry : ModelRegistry} {store : τ},
      load first service = (.ok registry, online) →
      (∀ model ∈ listing service, model.IsHeld) →
      HoldsModels store registry.custom →
      ∃ reloaded, registry.Renews reloaded (listing service) ∧
        ∀ services : List υ,
          (∀ later ∈ services, (discover later).1 = (discover service).1) →
          (∀ later ∈ services, (load store later).1 = .ok reloaded) ∧
            (services ≠ [] →
              services.foldl (fun current later =>
                current.refresh store later) registry = reloaded) := by
  refine ⟨merge_merge, ?_⟩
  intro σ τ ς υ _ _ _ _ first service online registry store loaded areMoments
    holds
  obtain ⟨stored, isRegistry, areHeld⟩ :=
    exists_union_of_load loaded areMoments
  have custom : registry.custom = merge stored (listing service) :=
    congrArg ModelRegistry.custom isRegistry
  refine ⟨{ registry with
    custom := merge ((registry.custom.mapM reread?).getD [])
      (listing service) }, ?renews, ?loads⟩
  case renews =>
    refine ⟨rfl, rfl, ?shown, ?lost, ?same⟩
    case shown =>
      intro areRead id
      obtain ⟨backs, read⟩ := exists_mapM_reread? areRead
      rw [custom] at read
      show named id (merge ((registry.custom.mapM reread?).getD []) _) =
        (named id registry.custom).bind _
      rw [custom, read]
      exact named_merge_backs read id
    case lost =>
      intro unread
      rw [mapM_reread?_eq_none_iff.mpr unread, Option.getD_none]
    case same =>
      rw [custom, ← merge_reread_eq_iff, ← custom]
      constructor
      · exact congrArg ModelRegistry.custom
      · intro same
        rw [same]
  case loads =>
    intro services same
    have loads : ∀ later ∈ services, (load store later).1 = .ok
        { registry with
          custom := merge ((registry.custom.mapM reread?).getD [])
            (listing service) } := by
      intro later isLater
      have discovered := same later isLater
      rw [holds.load areHeld, listing, discovered, ← listing, isRegistry]
    exact ⟨loads, fun given => foldl_refresh given loads registry⟩

/-- A store in memory with the text of a list of models. -/
def storeOf (models : List CustomModel) : MemoryStore :=
  MemoryStore.empty.put StoreKey.customModels.name
    (Json.array (models.map CustomModel.encode)).text

theorem holdsModels_storeOf (models : List CustomModel) :
    HoldsModels (storeOf models) models := by
  show Except.ok _ = Except.ok _
  rw [storeOf, MemoryStore.put, SortedMap.find?_insert_self]

/-- Of the entries that the service lists, one is older than the stored one
under its identifier, and two come under another one, of which the one without
a time comes first. -/
theorem refreshes_settle_repeated :
    let other := { ofTemperature none with id := "m2" }
    let ours := { ofTemperature none with updatedAt := some ⟨5, 0⟩ }
    let theirs := { other with updatedAt := some ⟨3, 0⟩ }
    let service := { ScriptedService.ofOlder with
      models := ScriptedService.ofOlder.models ++ [other, theirs] }
    let registry : ModelRegistry := ⟨.empty, [ours, theirs], .online⟩
    (load (storeOf [ours]) service).1 = .ok registry ∧
      [service, service].foldl (fun current later =>
        current.refresh (storeOf [ours, theirs]) later) registry =
          registry := by
  intro other ours theirs service registry
  have latest : (⟨5, 0⟩ : Timestamp).IsNameable := ⟨by decide, by decide⟩
  have areHeld : ∀ model ∈ [ours], model.IsHeld := by
    rintro _ (_ | ⟨_, ⟨⟩⟩) _ ⟨⟩
    exact latest.isMoment
  have loaded : (load (storeOf [ours]) service).1 = .ok registry := by
    rw [(holdsModels_storeOf [ours]).load areHeld]
    decide +kernel
  refine ⟨loaded, ?_⟩
  have areMoments : ∀ model ∈ listing service, model.IsHeld := by
    have older : (⟨0, 0⟩ : Timestamp).IsNameable := ⟨by decide, by decide⟩
    have newer : (⟨3, 0⟩ : Timestamp).IsNameable := ⟨by decide, by decide⟩
    rintro _ (_ | ⟨_, _ | ⟨_, _ | ⟨_, ⟨⟩⟩⟩⟩) _ ⟨⟩
    · exact older.isMoment
    · exact newer.isMoment
  have isLoaded : load (storeOf [ours]) service =
      (.ok registry, (load (storeOf [ours]) service).2) :=
    Prod.ext loaded rfl
  obtain ⟨reloaded, renews, settles⟩ := refreshes_settle.2
    (υ := ScriptedService) isLoaded areMoments
    (holdsModels_storeOf [ours, theirs])
  obtain ⟨-, settled⟩ := settles [service, service] (by simp)
  rw [settled (List.cons_ne_nil _ _), renews.same_iff]
  refine List.forall_mem_cons.mpr ⟨.inr ⟨rfl, ?_⟩,
    List.forall_mem_singleton.mpr (.inl ?_)⟩
  · decide
  · decide +kernel

/-- The loaded entry has a temperature that is read back as its neighbour, so
the registry is another one when it is loaded from its own list. -/
theorem refreshed_otherwise :
    let first := storeOf [ofTemperature (some ⟨4291642981281690744⟩)]
    let ours := ofTemperature (some ⟨4291642981281690745⟩)
    let registry : ModelRegistry := ⟨.empty, [ours], .online⟩
    let service := ScriptedService.new
    (load first service).1 = .ok registry ∧
      HoldsModels (storeOf [ours]) registry.custom ∧
      ∃ reloaded, (load (storeOf [ours]) service).1 = .ok reloaded ∧
        reloaded ≠ registry := by
  intro first ours registry service
  have areHeld (temperature : Double) :
      ∀ model ∈ [ofTemperature (some temperature)], model.IsHeld := by
    rintro _ (_ | ⟨_, ⟨⟩⟩) _ ⟨⟩
  refine ⟨?_, holdsModels_storeOf _, ⟨.empty,
    [ofTemperature (some ⟨4291642981281690746⟩)], .online⟩, ?_, ?_⟩
  · rw [(holdsModels_storeOf _).load (areHeld _)]
    decide +kernel
  · rw [(holdsModels_storeOf _).load (areHeld _)]
    decide +kernel
  · decide +kernel

end ModelRegistry

end AgentPipeline
