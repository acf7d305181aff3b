/-!
# Stages

A run sends its input through four stages, always in the same order.  A family
with one value for every stage is a record with four fields.
-/

namespace AgentPipeline

inductive Stage where
  | parse
  | reason
  | generate
  | validate
deriving DecidableEq, Inhabited, Repr

namespace Stage

/-- The stages in the order in which they run. -/
def all : List Stage := [.parse, .reason, .generate, .validate]

/-- The position in the order, from zero. -/
def index : Stage → Nat
  | .parse => 0
  | .reason => 1
  | .generate => 2
  | .validate => 3

/-- The name of the stage in records and events. -/
def name : Stage → String
  | .parse => "parse"
  | .reason => "reason"
  | .generate => "generate"
  | .validate => "validate"

/-- The agent that runs the stage; models are chosen by agent. -/
def agent : Stage → String
  | .parse => "parser"
  | .reason => "reasoner"
  | .generate => "generator"
  | .validate => "validator"

/-- The path under which the service runs the stage. -/
def endpoint : Stage → String
  | .parse => "/api/parse"
  | .reason => "/api/reason"
  | .generate => "/api/generate"
  | .validate => "/api/validate"

theorem mem_all (stage : Stage) : stage ∈ all := by
  cases stage <;> simp [all]

end Stage

/-- One value for every stage. -/
structure PerStage (α : Type) where
  parse : α
  reason : α
  generate : α
  validate : α
deriving DecidableEq, Inhabited, Repr

namespace PerStage

variable {α β : Type}

/-- The family with the same value for every stage. -/
def all (value : α) : PerStage α := ⟨value, value, value, value⟩

def ofFunction (value : Stage → α) : PerStage α :=
  ⟨value .parse, value .reason, value .generate, value .validate⟩

def get (family : PerStage α) : Stage → α
  | .parse => family.parse
  | .reason => family.reason
  | .generate => family.generate
  | .validate => family.validate

def set (family : PerStage α) (stage : Stage) (value : α) : PerStage α :=
  match stage with
  | .parse => { family with parse := value }
  | .reason => { family with reason := value }
  | .generate => { family with generate := value }
  | .validate => { family with validate := value }

/-- The values in the order of the stages. -/
def toList (family : PerStage α) : List α :=
  [family.parse, family.reason, family.generate, family.validate]

@[simp]
theorem get_set_self (family : PerStage α) (stage : Stage) (value : α) :
    (family.set stage value).get stage = value := by
  cases stage <;> rfl

@[simp]
theorem get_set_of_ne (family : PerStage α) {stage other : Stage}
    (different : other ≠ stage) (value : α) :
    (family.set stage value).get other = family.get other := by
  cases stage <;> cases other <;> first | rfl | exact absurd rfl different

@[simp]
theorem get_ofFunction (value : Stage → α) (stage : Stage) :
    (ofFunction value).get stage = value stage := by
  cases stage <;> rfl

@[ext]
theorem ext_get {left right : PerStage α}
    (same : ∀ stage, left.get stage = right.get stage) : left = right := by
  cases left
  cases right
  have parse := same .parse
  have reason := same .reason
  have generate := same .generate
  have validate := same .validate
  simp only [get] at parse reason generate validate
  simp [parse, reason, generate, validate]

end PerStage

/-- What has happened to a stage in the current attempt. -/
inductive StageState where
  | idle
  | processing
  | completed
  | error
  | cancelled
deriving DecidableEq, Inhabited, Repr

namespace StageState

/-- The moves of a stage: it begins, it ends in one of three ways, or it is
cancelled before it begins. -/
def canMoveTo : StageState → StageState → Bool
  | .idle, .processing | .idle, .cancelled => true
  | .processing, .completed | .processing, .error
  | .processing, .cancelled => true
  | _, _ => false

/-- Completed, failed or cancelled. -/
def isSettled : StageState → Bool
  | .completed | .error | .cancelled => true
  | .idle | .processing => false

def name : StageState → String
  | .idle => "idle"
  | .processing => "processing"
  | .completed => "completed"
  | .error => "error"
  | .cancelled => "cancelled"

/-- The name of the state in messages. -/
def title : StageState → String
  | .idle => "Idle"
  | .processing => "Processing"
  | .completed => "Completed"
  | .error => "Error"
  | .cancelled => "Cancelled"

end StageState

end AgentPipeline
