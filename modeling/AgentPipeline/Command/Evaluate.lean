import AgentPipeline.Command.Basic
import AgentPipeline.Command.Scene

/-!
# Commands for evaluator runs

Every command opens a session over the stored dashboard.  Only the commands
that follow a run poll it; leaving such a session while the run is polled
suspends it on the service, and the next session that follows resumes it.
-/

namespace AgentPipeline

/-- How a session is left. -/
inductive Leave where
  /-- A run that is still polled is suspended. -/
  | close
  /-- The run goes on unobserved. -/
  | detach
deriving DecidableEq, Inhabited, Repr

namespace Act

variable {σ ς α : Type} [KeyValueStore σ] [DelayedService ς]

/-- The poller of the open session. -/
def poller : Act σ ς (Poller σ) := do
  match (← get).world.session with
  | some poller => return poller
  | none => throw (.failed .lostRun)

/-- Carries out an operation of the session. -/
def operate (operation : Poller σ → Reaction σ α) : Act σ ς α := do
  let current ← poller
  let outcome ← onWorld fun world => world.take (operation current)
  expect .evaluator outcome

/-- Carries out an operation of the session that asks the service. -/
def request (operation : Poller σ → ς → Reaction σ α × ς) : Act σ ς α := do
  let current ← poller
  let outcome ← onWorld fun world => world.carryOut current operation
  expect .evaluator outcome

/-- The hint after a run was suspended. -/
def suspendedHint : String :=
  "Run suspended. Resume with \x60agentflow eval resume\x60."

/-- What is written where no run is recorded. -/
def noRunLine : String := "No evaluator run recorded."

/-- The milliseconds after which a watched run is looked at again. -/
def watchInterval : Nat := 200

/-- Lets time pass while the run is polled; looks at it a number of times at
most, and suspends it when the user interrupts. -/
def whilePolling : Nat → Act σ ς Unit
  | 0 => return ()
  | more + 1 => do
      if (← poller).isPolling then
        let next := (← get).world.clock + watchInterval
        match ← interruptionBefore next with
        | some moment =>
            onWorld fun world => (world.runUntil moment, ())
            let _ ← request fun poller => poller.suspend true
            print ""
            print ((Style.colored .yellow).apply (← colors) suspendedHint)
        | none =>
            onWorld fun world => (world.runUntil next, ())
            whilePolling more

/-- How often a watched run is looked at. -/
def looks : Nat := 1000000000

/-- Follows the run until it settles, and reports on it. -/
def watch : Act σ ς Leave := do
  whilePolling looks
  match (← poller).run? with
  | none => throw (.failed .lostRun)
  | some run =>
      print ""
      printAll (run.report (← colors))
      if run.status = .failed then
        throw (.failed (.failedRun run.id run.error))
      return .close

/-- Starts a run, and follows it unless it is left to itself. -/
def startEvaluator (kind : Option String) (limit : Option UInt32)
    (model : Option String) (detach : Bool) : Act σ ς Leave := do
  let dashboard := (← poller).dashboard
  let kind ← expect .evaluator
    (match kind <|> dashboard.selected with
      | some kind => .ok kind
      | none => .error EvaluatorError.noEvaluatorSelected)
  let limit := (limit <|> dashboard.itemLimits.find? kind).getD
    (← get).settings.evaluator.defaultItemLimit
  let registry ← loadRegistry
  let model ← match model with
    | some model => pure (some model)
    | none => expect .storage (registry.selectedDefault (← store))
  let run ← request fun poller =>
    poller.start kind limit (model.map registry.config)
  if detach then
    print ("Started run " ++ run.id
      ++ ". Follow it with \x60agentflow eval watch\x60.")
    return .detach
  else watch

end Act

namespace EvaluatorCommand

variable {σ ς : Type} [KeyValueStore σ] [DelayedService ς]

/-- Whether the command goes on polling a run from the store. -/
def followsRun : EvaluatorCommand → Bool
  | watch | resume => true
  | _ => false

/-- What the command does in its session. -/
def act : EvaluatorCommand → Act σ ς Leave
  | start kind limit model detach =>
      Act.startEvaluator kind limit model detach
  | watch => do
      if (← Act.poller).run?.isNone then
        Act.print Act.noRunLine
        return .close
      else Act.watch
  | status => do
      match (← Act.poller).run? with
      | some run => Act.printAll (run.report (← Act.colors))
      | none => Act.print Act.noRunLine
      return .close
  | suspend => do
      let suspended ← Act.request fun poller => poller.suspend false
      Act.print (if suspended then Act.suspendedHint
        else "No running evaluator run to suspend.")
      return .close
  | resume => do
      let (resumed, poller) := (← Act.poller).takeResumed
      Act.onWorld fun world => (world.keep poller, ())
      if !resumed then Act.request fun poller => poller.resume
      Act.watch
  | stop => do
      Act.request fun poller => poller.stop
      return .close
  | record index => do
      let record ← Act.request fun poller => poller.viewRecord index
      Act.print record.display
      return .close
  | clear => do
      match ← Act.operate Poller.clear with
      | some run => Act.print ("Cleared run " ++ run.id ++ ".")
      | none => Act.print Act.noRunLine
      return .close

/-- Opens a session, does what the command says, and leaves the session. -/
def perform (command : EvaluatorCommand) : Act σ ς Unit := do
  let opened ← Act.onWorld fun world =>
    if command.followsRun then world.openSession else world.openPassive
  Act.expect .evaluator opened
  let _ ← command.act.andFinally fun outcome => do
    Act.onWorld fun world =>
      (match outcome with
        | .ok .detach => world.detachSession
        | .ok .close | .error _ => world.closeSession, ())
    Act.drain

end EvaluatorCommand

end AgentPipeline
