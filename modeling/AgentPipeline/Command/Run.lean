import AgentPipeline.Command.Basic
import AgentPipeline.Command.Scene
import AgentPipeline.Pipeline.Pursuit
import AgentPipeline.Rehearsal.Pipeline

/-!
# Running the pipeline

The command sends a text through the pipeline and asks what to do at the
checkpoint and after an invalid output.  The user interrupts it to cancel the
run.
-/

namespace AgentPipeline

namespace RunCommand

/-- The models that the command chooses; a model named by it comes before the
selected one. -/
def selections (command : RunCommand) (selected : Option String) :
    ModelSelections where
  mode := if command.agentModels.isEmpty then .single else .perAgent
  defaultModel := command.model <|> selected
  perAgent := .ofList command.agentModels

/-- Whether the run stops at the checkpoint. -/
def mode (command : RunCommand) (configured : ProgressionMode) :
    ProgressionMode :=
  if command.auto then .auto
  else if command.manual then .manual
  else configured

end RunCommand

def RunQuestion.text : RunQuestion → String
  | .proceed => "Continue to generate and validate?"
  | .regenerate => "Validation failed. Regenerate with feedback?"

/-- The answer of a user who gives none. -/
def RunQuestion.default : RunQuestion → Bool
  | .proceed => true
  | .regenerate => false

/-- What is written about a run that is left. -/
def RunRemark.line (remark : RunRemark) (run : Run) (colors : Bool) : String :=
  match remark with
  | .stopped =>
      Style.faint.apply colors
        "Stopped at the checkpoint; the snapshot is kept in history."
  | .noAttemptsLeft =>
      (Style.colored .yellow).apply colors
        ("Validation failed after " ++ Text.decimal run.attempt.toNat
          ++ " attempt(s); no attempts left.")

namespace Act

variable {σ ς : Type} [KeyValueStore σ] [DelayedService ς]

/-- Takes over what a pipeline did. -/
def keepPipeline (rehearsal : PipelineRehearsal σ ς) :
    Act σ ς (PipelineRehearsal σ ς) := do
  onWorld fun world =>
    ({ world with
        service := rehearsal.service
        store := rehearsal.pipeline.history.store
        supply := rehearsal.pipeline.supply
        clock := rehearsal.now
        log := rehearsal.log }, ())
  return { rehearsal with log := [] }

/-- Lets a number of things happen to an operation of the pipeline: answers
arrive, or the user cancels the run. -/
def follow (rehearsal : PipelineRehearsal σ ς) :
    Nat → Act σ ς (PipelineRehearsal σ ς)
  | 0 => return rehearsal
  | more + 1 => do
      match rehearsal.due with
      | none => return rehearsal
      | some due =>
          let next := match ← interruptionBefore due.dueAt with
            | some moment =>
                (rehearsal.wait moment).handle (.cancel cancelledByUser)
            | none => rehearsal.deliver due
          follow (← keepPipeline next) more

/-- Carries out an operation of the pipeline. -/
def carryOut (rehearsal : PipelineRehearsal σ ς) (assumesYes : Bool)
    (operation : RunOperation) (turn : Turn σ) :
    Act σ ς (PipelineRehearsal σ ς × PursuitPhase) := do
  noteOperation (.called operation)
  let begun ← keepPipeline (rehearsal.begin turn)
  let ended ← follow begun (PipelineRehearsal.answerLimit + 1)
  if let some result := ended.result then
    noteOperation (.returned operation result)
  return (ended,
    ended.pipeline.phaseAfter assumesYes operation ended.result)

/-- Asks a question about a run; an interruption cancels the current token. -/
def confirmRun (rehearsal : PipelineRehearsal σ ς) (question : RunQuestion) :
    Act σ ς (PipelineRehearsal σ ς × Bool) := do
  let (answer, interrupted) ← confirm question.text question.default
  if interrupted then
    let cancelled := rehearsal.handle (.cancel cancelledByUser)
    return (← keepPipeline cancelled, answer)
  else return (rehearsal, answer)

/-- Takes the answer to a question about a run; a user who assumes yes is not
asked. -/
def askAbout (assumesYes : Bool) (rehearsal : PipelineRehearsal σ ς)
    (question : RunQuestion) : Act σ ς (PipelineRehearsal σ ς × Bool) :=
  if assumesYes then return (rehearsal, true)
  else confirmRun rehearsal question

/-- Ends the pursuit of a run. -/
def endPursuit : PursuitEnd → Act σ ς Run
  | .left run remark => do
      if let some remark := remark then
        print (remark.line run (← colors))
      return run
  | .failed error => throw (.failed (.pipeline error))
  | .unfinished run => throw (.failed (.unfinishedRun run.id.print))

/-- Goes on with a run as the user wants it, with at most a number of
questions. -/
def pursue (assumesYes : Bool) (rehearsal : PipelineRehearsal σ ς) :
    PursuitPhase → Nat → Act σ ς Run
  | .ended ending, _ => endPursuit ending
  | .asking question run, more + 1 => do
      let (asked, yes) ← askAbout assumesYes rehearsal question
      match asked.pipeline.operationFor yes question with
      | none => endPursuit (.left run question.remark)
      | some (operation, turn) =>
          let (next, phase) ← carryOut asked assumesYes operation turn
          pursue assumesYes next phase more
  | .asking _ _, 0 | .working _, _ =>
      throw (.failed (.unfinishedRun
        ((rehearsal.pipeline.run.map (·.id.print)).getD "")))

/-- Starts a run and pursues it.  Every attempt leads to at most one question,
as does the checkpoint. -/
def drive (assumesYes : Bool) (rehearsal : PipelineRehearsal σ ς)
    (request : RunRequest) (registry : ModelRegistry) : Act σ ς Run := do
  let (begun, phase) ← carryOut rehearsal assumesYes .start
    (rehearsal.pipeline.start request registry)
  pursue assumesYes begun phase (rehearsal.pipeline.maxAttempts.toNat + 1)

end Act

namespace RunCommand

variable {σ ς : Type} [KeyValueStore σ] [DelayedService ς]

/-- What a run is started on and with. -/
structure Setting (σ ς : Type) where
  rehearsal : PipelineRehearsal σ ς
  request : RunRequest
  registry : ModelRegistry

/-- The text of the command, or else the input. -/
def readText (command : RunCommand) : Act σ ς String :=
  match command.text with
  | some text => return text
  | none => Act.readInput

/-- Reads the text, loads the registry and the history, and puts together what
the command asks for. -/
def prepare (command : RunCommand) : Act σ ς (Setting σ ς) := do
  let inputText ← command.readText
  let registry ← Act.loadRegistry
  let selected ← Act.expect .storage
    (registry.selectedDefault (← Act.store))
  let settings := (← get).settings.pipeline
  let history ← Act.expect .storage
    (History.load (← Act.store) settings.historyCapacity.toNat)
  let world := (← get).world
  return {
    rehearsal := PipelineRehearsal.new
      (.new history world.supply settings.maxAttempts) world.service
    request := {
      inputText
      selections := command.selections selected
      temperature := command.temperature.getD settings.defaultTemperature
      mode := command.mode settings.mode }
    registry }

def perform (command : RunCommand) : Act σ ς Unit := do
  let setting ← command.prepare
  let run ← (Act.drive command.assumesYes setting.rehearsal setting.request
    setting.registry).andFinally fun _ => Act.drain
  Act.print ""
  Act.printAll (run.report (← Act.colors))

end RunCommand

end AgentPipeline
