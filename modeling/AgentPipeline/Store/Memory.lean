import AgentPipeline.SortedMap
import AgentPipeline.Store.Basic

/-!
# Stores in memory

A store in memory keeps its documents in a map.  Each of its three operations
can be made to fail, which leaves the documents as they are.
-/

namespace AgentPipeline

/-- The operations of a store that fail. -/
structure StoreFaults where
  get : Bool
  set : Bool
  remove : Bool
deriving DecidableEq, Inhabited, Repr

namespace StoreFaults

def none : StoreFaults := ⟨false, false, false⟩

/-- What is reported as the cause of a fault. -/
def cause : String := "injected fault"

/-- The outcome of an operation on a key that may fail. -/
def guard {α : Type} (fails : Bool) (key : String) (value : α) :
    Except StorageError α :=
  if fails then .error (.io key cause) else .ok value

end StoreFaults

structure MemoryStore where
  documents : SortedMap String String
  faults : StoreFaults
deriving DecidableEq, Inhabited

namespace MemoryStore

def empty : MemoryStore := ⟨.empty, .none⟩

/-- The store with a text under a key, written without any check. -/
def put (store : MemoryStore) (key text : String) : MemoryStore :=
  { store with documents := store.documents.insert key text }

/-- The number of keys. -/
def size (store : MemoryStore) : Nat := store.documents.size

instance : KeyValueStore MemoryStore where
  get store key :=
    StoreFaults.guard store.faults.get key (store.documents.find? key)
  set store key text :=
    (StoreFaults.guard store.faults.set key (),
      if store.faults.set then store else store.put key text)
  remove store key :=
    (StoreFaults.guard store.faults.remove key (),
      if store.faults.remove then store
      else { store with documents := store.documents.erase key })

end MemoryStore

end AgentPipeline
