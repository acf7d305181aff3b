import AgentPipeline.Poller.Operations

/-!
# Sessions of the poller

A session opens over the stored dashboard.  A session that ends while its
timer is alive suspends its run, so that no work goes on unobserved, and the
next session resumes it; a session that never polled leaves the run as it
found it.
-/

namespace AgentPipeline

/-- What is left to do after a session was dropped. -/
inductive Teardown where
  | nothing
  /-- The service is still to be asked to suspend the run. -/
  | request (run : String)
  /-- The dashboard was in use, and the run is still to be suspended. -/
  | whole
deriving DecidableEq, Inhabited, Repr

namespace Poller

variable {σ ς : Type} [KeyValueStore σ] [AgentService ς]

/-- Opens a session without touching the run. -/
def openPassive (store : σ) (supply : Supply) (interval clock : Nat) :
    Except StorageError (Poller σ) := do
  let found ← KeyValueStore.read Dashboard.decoder store
    StoreKey.dashboard.name
  .ok { store, supply, interval, clock
        dashboard := found.getD .empty
        timer := .off
        resumed := false }

/-- Begins to poll a run that was found running. -/
def pickUp (poller : Poller σ) (run : String) : Reaction σ Unit :=
  { poller with resumed := true }.startTimer.answer
    [.announce (.evaluatorResumed run)] ()

/-- Goes on with the run that was found: one that is running is polled, and
one that the end of a session suspended is resumed first. -/
def rehydrate (poller : Poller σ) (service : ς) : Reaction σ Unit × ς :=
  match poller.run? with
  | none => (poller.answer [] (), service)
  | some run =>
      if run.status = .running then (poller.pickUp run.id, service)
      else if run.status = .suspended ∧ run.autoSuspended then
        let (outcome, service) := control run.id .resume service
        let reaction : Reaction σ Unit := match outcome with
          | .error _ => poller.answer [] ()
          | .ok () =>
              let (now, timed) := poller.readClock
              timed.commit { timed.dashboard with
                  run := some (run.become .running false now) } fun poller =>
                poller.pickUp run.id
        (reaction.after [.call (.control run.id .resume)], service)
      else (poller.answer [] (), service)

/-- Whether polling was picked up from the store; true once at most. -/
def takeResumed (poller : Poller σ) : Bool × Poller σ :=
  (poller.resumed, { poller with resumed := false })

/-- Marks a running run as suspended by the end of the session, whether or
not that can be written. -/
def autoSuspend (poller : Poller σ) :
    Poller σ × List PollerEffect × Option String :=
  match poller.running? with
  | none => (poller, [], none)
  | some run =>
      let (now, timed) := poller.readClock
      let (_, poller) := timed.write { timed.dashboard with
        run := some (run.become .suspended true now) }
      (poller,
        [.announce (.evaluatorStatusChanged run.id .suspended false)],
        some run.id)

/-- Asks the service to suspend a run of a session that has ended. -/
def requestSuspend (poller : Poller σ) (effects : List PollerEffect)
    (run : Option String) (service : ς) :
    Poller σ × List PollerEffect × ς :=
  match run with
  | none => (poller, effects, service)
  | some run =>
      let (_, service) := control run .suspend service
      (poller, effects ++ [.call (.control run .suspend)], service)

/-- Ends the session and waits until the service has been asked to suspend
the run. -/
def close (poller : Poller σ) (service : ς) :
    Poller σ × List PollerEffect × ς :=
  if poller.isPolling then
    let (poller, effects, run) := poller.stopTimer.autoSuspend
    poller.requestSuspend effects run service
  else (poller, [], service)

/-- Ends the session and leaves the run going. -/
def detach (poller : Poller σ) : Poller σ := poller.stopTimer

/-- Ends the session without waiting.  While the dashboard is in use the run
is suspended later. -/
def drop (poller : Poller σ) (inUse : Bool) :
    Poller σ × List PollerEffect × Teardown :=
  if poller.isPolling then
    if inUse then (poller.stopTimer, [], .whole)
    else
      let (poller, effects, run) := poller.stopTimer.autoSuspend
      (poller, effects, run.elim .nothing .request)
  else (poller, [], .nothing)

/-- Does what is left to do after a session was dropped. -/
def finishTeardown (poller : Poller σ) (teardown : Teardown) (service : ς) :
    Poller σ × List PollerEffect × ς :=
  match teardown with
  | .nothing => (poller, [], service)
  | .request run => poller.requestSuspend [] (some run) service
  | .whole =>
      let (poller, effects, run) := poller.autoSuspend
      poller.requestSuspend effects run service

end Poller

end AgentPipeline
