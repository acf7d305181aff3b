import AgentPipeline.Poller.Basic
import AgentPipeline.Text.Blank

/-!
# The operations of the poller

While an operation waits for the service nobody else sees the dashboard, so
each of these operations is a single step.
-/

namespace AgentPipeline.Poller

variable {σ ς : Type} [KeyValueStore σ] [AgentService ς]

/-- Remembers the kind of evaluator that the user chose. -/
def selectEvaluator (poller : Poller σ) (kind : String) : Reaction σ Unit :=
  poller.commit { poller.dashboard with selected := some kind } fun poller =>
    poller.answer [] ()

/-- Remembers the item limit for a kind of evaluator. -/
def setItemLimit (poller : Poller σ) (kind : String) (limit : UInt32) :
    Reaction σ Unit :=
  poller.commit
    { poller.dashboard with
      itemLimits := poller.dashboard.itemLimits.insert kind limit }
    fun poller => poller.answer [] ()

def withStarted (dashboard : Dashboard) (run : EvaluatorRun) : Dashboard where
  selected := some run.kind
  itemLimits := dashboard.itemLimits.insert run.kind run.itemLimit
  run := some run

/-- Starts a run and begins to poll it. -/
def start (poller : Poller σ) (kind : String) (itemLimit : UInt32)
    (model : Option ModelConfig) (service : ς) :
    Reaction σ EvaluatorRun × ς :=
  if Text.isBlankText kind then (poller.fail .noEvaluatorSelected, service)
  else
    match model with
    | none => (poller.fail .noModel, service)
    | some chosen =>
        if poller.isBusy then (poller.fail .runAlreadyActive, service)
        else
          let request : Request := .startEvaluator ⟨kind, itemLimit, model⟩
          let (outcome, service) := AgentService.call request service
          let reaction : Reaction σ EvaluatorRun := match outcome with
            | .error error => poller.fail (.service error)
            | .ok (started : StartedRun) =>
                let (now, timed) := poller.readClock
                let run := EvaluatorRun.start kind started.id itemLimit
                  (some chosen.model) now
                timed.commit (withStarted timed.dashboard run) fun poller =>
                  poller.startTimer.answer
                    [.announce (.evaluatorStarted run.id kind)] run
          (reaction.after [.call request], service)

def running? (poller : Poller σ) : Option EvaluatorRun :=
  poller.run?.filter fun run => run.status = .running

/-- Asks the service to change a run; only the failure is returned. -/
def control (run : String) (action : RunControl) (service : ς) :
    Except ServiceError Unit × ς :=
  AgentService.call (.control run action) service

/-- Suspends the run; false when it is not running.  The service is asked
afterwards, and its failure changes nothing. -/
def suspend (poller : Poller σ) (silent : Bool) (service : ς) :
    Reaction σ Bool × ς :=
  match poller.running? with
  | none => (poller.answer [] false, service)
  | some run =>
      let (now, stopped) := poller.stopTimer.readClock
      match stopped.write { stopped.dashboard with
          run := some (run.become .suspended false now) } with
      | (.error error, poller) => (poller.fail (.storage error), service)
      | (.ok (), poller) =>
          let (_, service) := control run.id .suspend service
          (poller.answer
            [.announce (.evaluatorStatusChanged run.id .suspended (!silent)),
              .call (.control run.id .suspend)] true, service)

/-- Continues a suspended run once the service has agreed. -/
def resume (poller : Poller σ) (service : ς) : Reaction σ Unit × ς :=
  match poller.run? with
  | none => (poller.fail .noActiveRun, service)
  | some run =>
      if run.status ≠ .suspended then (poller.fail .notSuspended, service)
      else
        let (outcome, service) := control run.id .resume service
        let reaction : Reaction σ Unit := match outcome with
          | .error error => poller.fail (.service error)
          | .ok () =>
              let (now, timed) := poller.readClock
              timed.commit { timed.dashboard with
                  run := some (run.become .running false now) } fun poller =>
                poller.startTimer.answer
                  [.announce (.evaluatorStatusChanged run.id .running true)]
                  ()
        (reaction.after [.call (.control run.id .resume)], service)

/-- Cancels a live run once the service has agreed. -/
def stop (poller : Poller σ) (service : ς) : Reaction σ Unit × ς :=
  match poller.run? with
  | none => (poller.fail .noActiveRun, service)
  | some run =>
      if !run.status.isLive then (poller.fail .notRunning, service)
      else
        let (outcome, service) := control run.id .stop service
        let reaction : Reaction σ Unit := match outcome with
          | .error error => poller.fail (.service error)
          | .ok () =>
              let (now, stopped) := poller.stopTimer.readClock
              stopped.commit { stopped.dashboard with
                  run := some (run.become .cancelled false now) } fun poller =>
                poller.answer
                  [.announce (.evaluatorStatusChanged run.id .cancelled true)]
                  ()
        (reaction.after [.call (.control run.id .stop)], service)

/-- Fetches the full record of an item. -/
def viewRecord (poller : Poller σ) (index : UInt32) (service : ς) :
    Reaction σ Json × ς :=
  match poller.run? with
  | none => (poller.fail .noActiveRun, service)
  | some run =>
      if !run.hasRecord index then
        (poller.fail (.recordUnavailable index), service)
      else
        let request : Request := .fetchRecord run.id index
        let (outcome, service) := AgentService.call request service
        let reaction : Reaction σ Json := match outcome with
          | .error error => poller.fail (.service error)
          | .ok (record : Json) => poller.answer [] record
        (reaction.after [.call request], service)

/-- Forgets the run, unless it is live. -/
def clear (poller : Poller σ) : Reaction σ (Option EvaluatorRun) :=
  if poller.isBusy then poller.fail .runAlreadyActive
  else
    let cleared := poller.run?
    poller.stopTimer.commit { poller.dashboard with run := none } fun poller =>
      poller.answer [] cleared

end AgentPipeline.Poller
