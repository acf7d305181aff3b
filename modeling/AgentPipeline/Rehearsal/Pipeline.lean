import AgentPipeline.Pipeline.Operations
import AgentPipeline.Rehearsal.Notice
import AgentPipeline.Service.Delayed

/-!
# Rehearsals of the pipeline

A rehearsal runs the pipeline against a service on a clock of its own, which
stands still except while an answer is waited for.
-/

namespace AgentPipeline

/-- Something done to the cancel handle. -/
inductive HandleAction where
  | cancel (reason : String)
  | issue
deriving DecidableEq, Inhabited, Repr

/-- The answer to a stage call that is still on its way. -/
structure DueAnswer where
  request : StageRequest
  sentAt : Nat
  dueAt : Nat
deriving DecidableEq, Inhabited

/-- A pipeline with the service that it calls. -/
structure PipelineRehearsal (σ ς : Type) where
  pipeline : Pipeline σ
  service : ς
  /-- A stage whose next call fires the cancel handle just before it is
  answered, with the reason. -/
  interruption : Option (Stage × String)
  /-- The milliseconds on the clock. -/
  now : Nat
  due : Option DueAnswer
  /-- What has happened, in order. -/
  log : List Notice
  /-- The result of the last operation, once it has returned. -/
  result : Option (Except PipelineError Run)

namespace PipelineRehearsal

variable {σ ς : Type} [KeyValueStore σ] [DelayedService ς]

/-- A rehearsal in which nothing has happened. -/
def new (pipeline : Pipeline σ) (service : ς) :
    PipelineRehearsal σ ς :=
  ⟨pipeline, service, none, 0, none, [], none⟩

/-- Lets an effect of a turn happen. -/
def perform (rehearsal : PipelineRehearsal σ ς) (effect : Effect) :
    PipelineRehearsal σ ς :=
  match effect with
  | .announce event =>
      { rehearsal with log := rehearsal.log ++ [.event event] }
  | .dispatch request =>
      let call := Request.stage request
      { rehearsal with
        service := DelayedService.receive rehearsal.service call
        due := some ⟨request, rehearsal.now,
          rehearsal.now + DelayedService.delay rehearsal.service call⟩
        log := rehearsal.log ++ [.call call] }

/-- Takes over a turn of the pipeline.  An answer that nobody waits for any
more is not taken from the service. -/
def take (rehearsal : PipelineRehearsal σ ς) (turn : Turn σ) :
    PipelineRehearsal σ ς :=
  let after := turn.effects.foldl perform
    { rehearsal with pipeline := turn.pipeline }
  { after with
    due := if turn.pipeline.awaited.isSome then after.due else none
    result := turn.result <|> rehearsal.result }

def begin (rehearsal : PipelineRehearsal σ ς) (turn : Turn σ) :
    PipelineRehearsal σ ς :=
  { rehearsal with result := none }.take turn

/-- The clock goes on. -/
def wait (rehearsal : PipelineRehearsal σ ς) (now : Nat) :
    PipelineRehearsal σ ς :=
  if rehearsal.now < now then
    { rehearsal with now, log := rehearsal.log ++ [.waited] }
  else rehearsal

/-- The answer on its way arrives; an interruption comes before it. -/
def deliver (rehearsal : PipelineRehearsal σ ς) (due : DueAnswer) :
    PipelineRehearsal σ ς :=
  let waited := rehearsal.wait due.dueAt
  let (outcome, service) :=
    DelayedService.answer waited.service (.stage due.request)
  let answered := { waited with service, due := none }
  let interrupted : PipelineRehearsal σ ς := match answered.interruption with
    | some (stage, reason) =>
        if stage = due.request.stage then
          { answered with interruption := none }.take
            (answered.pipeline.fireCancel reason)
        else answered
    | none => answered
  interrupted.take (interrupted.pipeline.reply outcome
    (UInt64.ofNat (due.dueAt - due.sentAt)))

/-- The number of answers that an operation can wait for. -/
def answerLimit : Nat := Stage.all.length

/-- Lets a number of answers arrive that are due before a moment. -/
def deliverBefore (rehearsal : PipelineRehearsal σ ς) (limit : Option Nat) :
    Nat → PipelineRehearsal σ ς
  | 0 => rehearsal
  | more + 1 =>
      match rehearsal.due with
      | none => rehearsal
      | some due =>
          if limit.all fun limit => due.dueAt ≤ limit then
            (rehearsal.deliver due).deliverBefore limit more
          else rehearsal

/-- Lets time pass until a moment. -/
def runUntil (rehearsal : PipelineRehearsal σ ς) (moment : Nat) :
    PipelineRehearsal σ ς :=
  (rehearsal.deliverBefore (some moment) answerLimit).wait moment

/-- Lets time pass until the operation returns. -/
def runToEnd (rehearsal : PipelineRehearsal σ ς) : PipelineRehearsal σ ς :=
  rehearsal.deliverBefore none answerLimit

/-- Does something to the cancel handle. -/
def handle (rehearsal : PipelineRehearsal σ ς) (action : HandleAction) :
    PipelineRehearsal σ ς :=
  match action with
  | .cancel reason => rehearsal.take (rehearsal.pipeline.fireCancel reason)
  | .issue => rehearsal.take rehearsal.pipeline.issueToken

/-- The caller of the operation goes away. -/
def abandon (rehearsal : PipelineRehearsal σ ς) : PipelineRehearsal σ ς :=
  { rehearsal with pipeline := rehearsal.pipeline.abandon, due := none }

/-- Something that happens at a given time after the start of an operation. -/
inductive TimedAction where
  | handle (action : HandleAction)
  | abandon
deriving DecidableEq, Inhabited, Repr

def act (rehearsal : PipelineRehearsal σ ς) :
    TimedAction → PipelineRehearsal σ ς
  | .handle action => rehearsal.handle action
  | .abandon => rehearsal.abandon

/-- Carries out an operation while things happen at given times, in the order
of these times; the rehearsal ends when both are over. -/
def carryOut (rehearsal : PipelineRehearsal σ ς) (turn : Turn σ)
    (timed : List (Nat × TimedAction)) : PipelineRehearsal σ ς :=
  let start := rehearsal.now
  let sorted := timed.mergeSort fun left right => left.1 ≤ right.1
  (sorted.foldl (fun rehearsal entry =>
      (rehearsal.runUntil (start + entry.1)).act entry.2)
    (rehearsal.begin turn)).runToEnd

end PipelineRehearsal

end AgentPipeline
