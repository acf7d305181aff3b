import AgentPipeline.Cancellation.Group

/-!
# Sources of cancellation

A source is a handle on a group of tokens; a clone of a source is another
handle on the same group.  A task may wait for a token: it is parked while the
token is not cancelled, and whoever cancels the token notifies it.
-/

namespace AgentPipeline

/-- A token of one of several groups. -/
structure IssuedToken where
  group : Nat
  token : TokenId
deriving DecidableEq, Inhabited, Repr

/-- Several sources with their groups, and the tasks that wait for tokens. -/
structure CancelSources where
  groups : List CancelGroup
  /-- The group of every source. -/
  sources : List Nat
  /-- The tasks that are parked, each with the token it waits for. -/
  parked : List (Nat × IssuedToken)
deriving DecidableEq, Inhabited, Repr

namespace CancelSources

/-- One source with a group of its own. -/
def initial : CancelSources := ⟨[.new], [0], []⟩

def groupOf? (world : CancelSources) (source : Nat) : Option Nat :=
  world.sources[source]?

def isCancelled (world : CancelSources) (issued : IssuedToken) : Bool :=
  (world.groups[issued.group]?).any (·.isCancelled issued.token)

/-- Why a token was cancelled, if it was. -/
def reason? (world : CancelSources) (issued : IssuedToken) : Option String :=
  (world.groups[issued.group]?).bind (·.reason? issued.token)

/-- Adds a source with a group of its own. -/
def addSource (world : CancelSources) : CancelSources :=
  { world with
    groups := world.groups ++ [.new]
    sources := world.sources ++ [world.groups.length] }

def clone (world : CancelSources) (source : Nat) : CancelSources :=
  match world.groupOf? source with
  | none => world
  | some group => { world with sources := world.sources ++ [group] }

/-- Lets the tasks go that wait for a token, and names them. -/
def notify (world : CancelSources) (issued : IssuedToken) :
    CancelSources × List Nat :=
  let (woken, parked) := world.parked.partition fun waiting =>
    waiting.2 = issued
  ({ world with parked }, woken.map Prod.fst)

/-- Changes a group so that its current token is cancelled.  Those who wait
for the token are notified, unless it was cancelled before. -/
def change (world : CancelSources) (index : Nat)
    (group next : CancelGroup) : CancelSources × List Nat :=
  let changed := { world with groups := world.groups.set index next }
  match group.open? with
  | none => (changed, [])
  | some token => changed.notify ⟨index, token⟩

def issue (world : CancelSources) (source : Nat) :
    CancelSources × Option IssuedToken × List Nat :=
  match world.groupOf? source with
  | none => (world, none, [])
  | some index =>
      match world.groups[index]? with
      | none => (world, none, [])
      | some group =>
          let (next, token) := group.issue
          let (world, woken) := world.change index group next
          (world, some ⟨index, token⟩, woken)

/-- Cancels the current token of a source; true when it was not cancelled
before. -/
def cancel (world : CancelSources) (source : Nat) (reason : String) :
    CancelSources × Bool × List Nat :=
  match world.groupOf? source with
  | none => (world, false, [])
  | some index =>
      match world.groups[index]? with
      | none => (world, false, [])
      | some group =>
          let (next, woken) := world.change index group (group.cancel reason)
          (next, group.isOpen, woken)

def current? (world : CancelSources) (source : Nat) : Option IssuedToken := do
  let index ← world.groupOf? source
  let group ← world.groups[index]?
  let token ← group.current?
  some ⟨index, token⟩

/-- A task begins to wait for a token: it goes on at once when the token is
cancelled, and is parked otherwise. -/
def wait (world : CancelSources) (task : Nat) (issued : IssuedToken) :
    CancelSources × Bool :=
  if world.isCancelled issued then (world, true)
  else ({ world with parked := (task, issued) :: world.parked }, false)

/-- A task no longer waits. -/
def abandon (world : CancelSources) (task : Nat) : CancelSources :=
  { world with parked := world.parked.filter fun waiting => waiting.1 ≠ task }

/-- A task waits for a token while a source is perhaps cancelled and then
perhaps issues a token; with `patient` unset it stops waiting before that.
Besides what was issued it is returned whether the task saw its token
cancelled. -/
def waitMeanwhile (world : CancelSources) (task : Nat) (issued : IssuedToken)
    (patient : Bool) (source : Nat) (reason : Option String) (issues : Bool) :
    CancelSources × Option IssuedToken × Bool :=
  let (waiting, atOnce) := world.wait task issued
  let waiting := if patient then waiting else waiting.abandon task
  let (cancelled, woken) : CancelSources × List Nat := match reason with
    | none => (waiting, [])
    | some reason =>
        let (world, _, woken) := waiting.cancel source reason
        (world, woken)
  let (last, token, wokenLater) := if issues then cancelled.issue source
    else (cancelled, none, [])
  (last.abandon task, token, atOnce || (woken ++ wokenLater).contains task)

end CancelSources

end AgentPipeline
