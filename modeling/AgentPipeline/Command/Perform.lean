import AgentPipeline.Command.Evaluate
import AgentPipeline.Command.History
import AgentPipeline.Command.Models
import AgentPipeline.Command.Run

/-!
# Carrying out commands
-/

namespace AgentPipeline

variable {σ ς : Type} [KeyValueStore σ] [DelayedService ς]

/-- What a command does. -/
def Command.act : Command → Act σ ς Unit
  | .run command => command.perform
  | .history command => command.perform
  | .models command => command.perform
  | .evaluator command => command.perform

/-- The scene after a command, and how the command ended. -/
def Scene.after (scene : Scene σ ς) (command : Command) :
    Scene σ ς × Except Halt Unit :=
  match command.act.run scene with
  | .ok () scene => (scene, .ok ())
  | .error halt scene => (scene, .error halt)

end AgentPipeline
