import AgentPipeline.Command.Error
import AgentPipeline.Pipeline.Pursuit
import AgentPipeline.Rehearsal.Evaluation
import AgentPipeline.Terminal.Console

/-!
# Acting

A command acts on a scene: the settings, the store, the service with the
evaluator session, and the console.  The scene also notes which operations of
the pipeline were called.  Where the scene has no answer to a call
or no further line of input the act halts, and it can be performed again from
the start once the scene has more.
-/

namespace AgentPipeline

/-- What an act halts for. -/
inductive Wanted where
  | input
  /-- The answer to a question. -/
  | line (prompt : String)
  /-- The answer to a call that is made at a moment. -/
  | answer (moment : Nat)
deriving DecidableEq, Inhabited, Repr

/-- Why an act ended early. -/
inductive Halt where
  | failed (error : CommandError)
  | wanting (wanted : Wanted)
deriving DecidableEq, Inhabited, Repr

/-- What a command acts on. -/
structure Scene (σ ς : Type) where
  settings : Settings
  /-- The store, the service and the supply, with the evaluator session. -/
  world : EvaluatorRehearsal σ ς
  console : Console
  /-- The operations of the pipeline that were called, and what those have
  returned that are over. -/
  operations : List OperationNotice

/-- A part of a command. -/
abbrev Act (σ ς α : Type) := EStateM Halt (Scene σ ς) α

namespace Scene

/-- A scene in which nothing has happened. -/
def new {σ ς : Type} (settings : Settings) (store : σ) (service : ς)
    (supply : Supply) (console : Console) : Scene σ ς where
  settings
  world := .new service store supply settings.evaluator.pollInterval.toNat
  console
  operations := []

end Scene

namespace Act

variable {σ ς α : Type} [KeyValueStore σ] [DelayedService ς]

def onConsole (change : Console → Console) : Act σ ς Unit :=
  modify fun scene => { scene with console := change scene.console }

def print (line : String) : Act σ ς Unit :=
  onConsole (·.print line)

/-- Notes that an operation of the pipeline was called or has returned. -/
def noteOperation (notice : OperationNotice) : Act σ ς Unit :=
  modify fun scene =>
    { scene with operations := scene.operations ++ [notice] }

def printAll (paragraphs : List String) : Act σ ς Unit :=
  onConsole (·.printAll paragraphs)

/-- Whether styles are written. -/
def colors : Act σ ς Bool := do
  return (← get).console.colors

/-- Waits until all announced events have been reported. -/
def drain : Act σ ς Unit := onConsole Console.drain

/-- The value of an outcome; a failure ends the act. -/
def expect {ε : Type} (failure : ε → CommandError) :
    Except ε α → Act σ ς α
  | .ok value => pure value
  | .error error => throw (.failed (failure error))

/-- Does something to the world.  When the service did not have an answer
nothing is done, and the act halts for it. -/
def onWorld (change : EvaluatorRehearsal σ ς → EvaluatorRehearsal σ ς × α) :
    Act σ ς α := do
  let before := (← get).world
  let (after, value) := change before
  if DelayedService.isSilent after.service then
    let moment := (after.timerAnswer.map (·.sentAt)).getD before.clock
    modify fun scene =>
      { scene with world := { before with service := after.service } }
    drain
    throw (.wanting (.answer moment))
  else
    modify fun scene => { scene with world := { after with log := [] } }
    onConsole (·.absorb after.log)
    return value

def loadRegistry : Act σ ς ModelRegistry := do
  let outcome ← onWorld fun world =>
    let (outcome, service) := ModelRegistry.load world.store world.service
    ({ world with service }, outcome)
  expect .storage outcome

def store : Act σ ς σ := do
  return (← get).world.store

/-- Keeps a store that was changed. -/
def keepStore (store : σ) : Act σ ς Unit :=
  modify fun scene => { scene with world := { scene.world with store } }

/-- Asks a question that is answered with yes or no, and says whether the user
interrupted the command instead of answering at once.  Without a terminal the
default is the answer. -/
def confirm (question : String) (default : Bool) : Act σ ς (Bool × Bool) := do
  match (← get).console.typed with
  | none => return (default, false)
  | some typed =>
      drain
      let prompt := Console.prompt question default
      onConsole fun console =>
        { console with prompts := console.prompts ++ [prompt] }
      match typed with
      | [] =>
          if (← get).console.staysOpen then throw (.wanting (.line prompt))
          return (default, false)
      | line :: rest =>
          onConsole fun console => { console with typed := some rest }
          return Console.reading line default

def readInput : Act σ ς String := do
  let console := (← get).console
  match console.typed, console.piped with
  | some lines, _ =>
      if console.staysOpen then throw (.wanting .input)
      onConsole fun console => { console with typed := some [] }
      return String.join lines
  | none, none => throw (.wanting .input)
  | none, some content =>
      match String.fromUTF8? content with
      | some text => return text
      | none => throw (.failed .unreadableInput)

/-- Takes the interruption that comes before a moment. -/
def interruptionBefore (moment : Nat) : Act σ ς (Option Nat) := do
  match (← get).console.interruptAt with
  | some interruption =>
      if interruption < moment then
        onConsole fun console => { console with interruptAt := none }
        return some interruption
      else return none
  | none => return none

/-- Performs an act that may fail, and then another in any case; one that
halts for something is left at once. -/
def andFinally (act : Act σ ς α)
    (last : Except CommandError α → Act σ ς Unit) : Act σ ς α := do
  let outcome ← try
      let value ← act
      pure (Except.ok value)
    catch halt =>
      match halt with
      | .failed error => pure (.error error)
      | .wanting wanted => throw (.wanting wanted)
  last outcome
  match outcome with
  | .ok value => return value
  | .error error => throw (.failed error)

end Act

end AgentPipeline
