import AgentPipeline.Proofs.SortedMap.Merge
import AgentPipeline.Store.Memory

/-!
# Stores without faults

A store may be of any kind.  Of one that does not fail only this is used: what
was written last under a key is found there.
-/

namespace AgentPipeline

/-- In stores of a kind every operation succeeds. -/
structure KeyValueStore.Faultless {σ : Type} [KeyValueStore σ]
    (works : σ → Prop) : Prop where
  get_ok {store : σ} (working : works store) (key : String) :
    ∃ found, KeyValueStore.get store key = .ok found
  set_ok {store : σ} (working : works store) (key text : String) :
    (KeyValueStore.set store key text).1 = .ok ()
  works_set {store : σ} (working : works store) (key text : String) :
    works (KeyValueStore.set store key text).2
  get_set {store : σ} (working : works store) (key text : String) :
    KeyValueStore.get (KeyValueStore.set store key text).2 key =
      .ok (some text)

namespace KeyValueStore.Faultless

variable {σ α : Type} [KeyValueStore σ] {works : σ → Prop}

theorem works_write (faultless : Faultless works) {store : σ}
    (working : works store) (key : String) (value : Json) :
    works (write store key value).2 :=
  faultless.works_set working key value.text

/-- A value that was written is read from its text. -/
theorem read_write (faultless : Faultless works) {store : σ}
    (working : works store) (decoder : Decoder α) (key : String)
    (value : Json) :
    read decoder (write store key value).2 key =
      .ok (decoder.parse? value.text) := by
  unfold read write
  rw [faultless.get_set working]
  rfl

end KeyValueStore.Faultless

/-- In stores of a kind every operation succeeds, and one that changes a key
leaves the others as they are. -/
structure KeyValueStore.Separate {σ : Type} [KeyValueStore σ]
    (works : σ → Prop) : Prop extends KeyValueStore.Faultless works where
  get_set_of_ne {store : σ} (working : works store) {key other : String}
    (different : key ≠ other) (text : String) :
    KeyValueStore.get (KeyValueStore.set store key text).2 other =
      KeyValueStore.get store other
  works_remove {store : σ} (working : works store) (key : String) :
    works (KeyValueStore.remove store key).2
  get_remove {store : σ} (working : works store) (key : String) :
    KeyValueStore.get (KeyValueStore.remove store key).2 key = .ok none
  get_remove_of_ne {store : σ} (working : works store) {key other : String}
    (different : key ≠ other) :
    KeyValueStore.get (KeyValueStore.remove store key).2 other =
      KeyValueStore.get store other

/-- A store in memory whose operations were not made to fail does not fail. -/
theorem MemoryStore.faultless :
    KeyValueStore.Faultless fun store : MemoryStore =>
      store.faults = .none where
  get_ok {store} working key := by
    refine ⟨store.documents.find? key, ?_⟩
    simp [KeyValueStore.get, StoreFaults.guard, working, StoreFaults.none]
  set_ok working key text := by
    simp [KeyValueStore.set, StoreFaults.guard, working, StoreFaults.none]
  works_set working key text := by
    simp [KeyValueStore.set, MemoryStore.put, working, StoreFaults.none]
  get_set working key text := by
    simp [KeyValueStore.get, KeyValueStore.set, MemoryStore.put,
      StoreFaults.guard, working, StoreFaults.none]

theorem MemoryStore.separate :
    KeyValueStore.Separate fun store : MemoryStore =>
      store.faults = .none where
  toFaultless := faultless
  get_set_of_ne {store} working {key other} different text := by
    simp [KeyValueStore.get, KeyValueStore.set, MemoryStore.put,
      StoreFaults.guard, working, StoreFaults.none,
      SortedMap.find?_insert_of_ne different]
  works_remove working key := by
    simp [KeyValueStore.remove, working, StoreFaults.none]
  get_remove working key := by
    simp [KeyValueStore.get, KeyValueStore.remove, StoreFaults.guard, working,
      StoreFaults.none]
  get_remove_of_ne {store} working {key other} different := by
    simp [KeyValueStore.get, KeyValueStore.remove, StoreFaults.guard, working,
      StoreFaults.none, SortedMap.find?_erase_of_ne different]

end AgentPipeline
