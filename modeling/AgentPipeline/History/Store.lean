import AgentPipeline.Codec.Run
import AgentPipeline.Store.Basic
import AgentPipeline.Supply

/-!
# The history

The history holds the newest snapshots of runs, newest first, up to its
capacity.  It is stored whole after every change; when it cannot be stored the
snapshot still counts for the rest of the session.
-/

namespace AgentPipeline

/-- The history over a store. -/
structure History (σ : Type) where
  store : σ
  capacity : Nat
  items : List HistoryItem
deriving DecidableEq, Inhabited

namespace History

variable {σ : Type} [KeyValueStore σ]

def encodeItems (items : List HistoryItem) : Json :=
  .array (items.map HistoryItem.encode)

def itemsDecoder : Decoder (List HistoryItem) :=
  Decoder.list HistoryItem.decoder

/-- Loads the stored history, up to the capacity. -/
def load (store : σ) (capacity : Nat) :
    Except StorageError (History σ) := do
  let found ← KeyValueStore.read itemsDecoder store StoreKey.history.name
  .ok { store, capacity, items := (found.getD []).take capacity }

/-- Stores the items. -/
def save (history : History σ) : Except StorageError Unit × History σ :=
  let (outcome, store) := KeyValueStore.write history.store
    StoreKey.history.name (encodeItems history.items)
  (outcome, { history with store })

/-- The history with an item at its head, not yet stored. -/
def push (history : History σ) (item : HistoryItem) : History σ :=
  { history with items := (item :: history.items).take history.capacity }

/-- Puts a snapshot of a run at the head and stores the history. -/
def record (history : History σ) (supply : Supply) (run : Run) :
    HistoryItem × Except StorageError Unit × History σ × Supply :=
  let (id, supply) := supply.nextId
  let (recordedAt, supply) := supply.tick
  let item : HistoryItem := { id, recordedAt, run }
  let (outcome, history) := (history.push item).save
  (item, outcome, history, supply)

def find? (history : History σ) (id : Uuid) : Option HistoryItem :=
  history.items.find? fun item => item.id = id

/-- Drops all items and the stored document. -/
def clear (history : History σ) : Except StorageError Unit × History σ :=
  let (outcome, store) :=
    KeyValueStore.remove history.store StoreKey.history.name
  (outcome, { history with store, items := [] })

end History

end AgentPipeline
