import AgentPipeline.Proofs.Store.Faultless

/-!
# Stores that may fail

Every operation of a store may fail at any time.  Of a store that fails only
this is used: it neither loses nor invents a text, so what it holds under a
key changes by a write that succeeds.
-/

namespace AgentPipeline

/-- Stores of a kind hold texts under keys, and a failure changes nothing. -/
structure KeyValueStore.Durable {σ : Type} [KeyValueStore σ]
    (holds : σ → String → Option String) : Prop where
  get_ok {store : σ} {key : String} {found : Option String}
    (got : KeyValueStore.get store key = .ok found) : found = holds store key
  set_ok {store : σ} {key text : String}
    (done : (KeyValueStore.set store key text).1 = .ok ()) :
    holds (KeyValueStore.set store key text).2 key = some text
  set_error {store : σ} {key text : String} {error : StorageError}
    (failed : (KeyValueStore.set store key text).1 = .error error) :
    holds (KeyValueStore.set store key text).2 = holds store

namespace KeyValueStore.Durable

variable {σ α : Type} [KeyValueStore σ]
  {holds : σ → String → Option String}

theorem read_eq_ok (durable : Durable holds) {decoder : Decoder α}
    {store : σ} {key : String} {found : Option α}
    (isFound : read decoder store key = .ok found) :
    found = (holds store key).bind decoder.parse? := by
  unfold read at isFound
  cases got : get store key with
  | error error =>
      rw [got] at isFound
      cases isFound
  | ok text =>
      rw [got] at isFound
      cases isFound
      rw [durable.get_ok got]

/-- After a write the store holds the text of the value, or what it held. -/
theorem holds_write (durable : Durable holds) (store : σ) (key : String)
    (value : Json) :
    holds (write store key value).2 key = some value.text ∨
      holds (write store key value).2 key = holds store key := by
  unfold write
  cases outcome : (set store key value.text).1 with
  | ok done => exact .inl (durable.set_ok outcome)
  | error error => exact .inr (congrFun (durable.set_error outcome) key)

/-- A write that fails leaves what the store held. -/
theorem holds_of_write_error (durable : Durable holds) {store after : σ}
    {key : String} {value : Json} {error : StorageError}
    (failed : write store key value = (.error error, after)) :
    holds after = holds store := by
  have notSet : (set store key value.text).1 = .error error :=
    congrArg Prod.fst failed
  have isLeft : (set store key value.text).2 = after :=
    congrArg Prod.snd failed
  rw [← isLeft]
  exact durable.set_error notSet

end KeyValueStore.Durable

theorem MemoryStore.durable :
    KeyValueStore.Durable fun store : MemoryStore =>
      store.documents.find? where
  get_ok {store key found} got := by
    simp only [KeyValueStore.get, StoreFaults.guard] at got
    split at got
    · cases got
    · cases got
      rfl
  set_ok {store key text} done := by
    simp only [KeyValueStore.set, StoreFaults.guard] at done
    split at done
    · cases done
    next works => simp [KeyValueStore.set, MemoryStore.put, works]
  set_error {store key text error} failed := by
    simp only [KeyValueStore.set, StoreFaults.guard] at failed
    split at failed
    next fails => simp [KeyValueStore.set, fails]
    · cases failed

/-- A store in memory that is told which of the next writes succeed; those
after them all do. -/
structure FlakyStore where
  documents : SortedMap String String
  succeeds : List Bool
deriving DecidableEq

namespace FlakyStore

instance : KeyValueStore FlakyStore where
  get store key := .ok (store.documents.find? key)
  set store key text :=
    if store.succeeds.headD true then
      (.ok (), ⟨store.documents.insert key text, store.succeeds.tail⟩)
    else
      (.error (.io key StoreFaults.cause),
        { store with succeeds := store.succeeds.tail })
  remove store key :=
    (.ok (), { store with documents := store.documents.erase key })

theorem durable :
    KeyValueStore.Durable fun store : FlakyStore =>
      store.documents.find? where
  get_ok got := by
    cases got
    rfl
  set_ok {store key text} done := by
    simp only [KeyValueStore.set] at done ⊢
    split at done
    next succeeds =>
      rw [if_pos succeeds]
      exact SortedMap.find?_insert_self _ _ _
    · cases done
  set_error {store key text error} failed := by
    simp only [KeyValueStore.set] at failed ⊢
    split at failed
    · cases failed
    next fails => rw [if_neg fails]

/-- No later write fails. -/
theorem faultless :
    KeyValueStore.Faultless fun store : FlakyStore =>
      store.succeeds = [] where
  get_ok _ _ := ⟨_, rfl⟩
  set_ok working key text := by simp [KeyValueStore.set, working]
  works_set working key text := by simp [KeyValueStore.set, working]
  get_set working key text := by
    simp [KeyValueStore.get, KeyValueStore.set, working]

end FlakyStore

end AgentPipeline
