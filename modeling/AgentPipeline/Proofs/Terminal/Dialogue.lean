import AgentPipeline.Terminal.Console

/-!
# Dialogues on a console

A command puts questions, and the user answers them or interrupts the command.
What the command writes meanwhile does not matter to this.
-/

namespace AgentPipeline

/-- The part of a console that a dialogue takes place on. -/
structure Dialogue where
  /-- The lines that are still to be read; `none` when there is no terminal. -/
  typed : Option (List String)
  staysOpen : Bool
  /-- The moment at which the user interrupts the command. -/
  interruptAt : Option Nat
  /-- The questions that were put. -/
  prompts : List String

def Console.dialogue (console : Console) : Dialogue where
  typed := console.typed
  staysOpen := console.staysOpen
  interruptAt := console.interruptAt
  prompts := console.prompts

section Output

variable (console : Console)

@[simp]
theorem Console.dialogue_drain : console.drain.dialogue = console.dialogue :=
  rfl

@[simp]
theorem Console.dialogue_absorb (notices : List Notice) :
    (console.absorb notices).dialogue = console.dialogue := by
  induction notices generalizing console with
  | nil => rfl
  | cons notice later ih =>
      cases notice with
      | event | waited => exact ih _
      | call =>
          refine (ih _).trans ?_
          split <;> rfl

end Output

namespace Dialogue

/-- What the line says that is read for a question, and whether the user
interrupts the command; without a line the default is the answer. -/
def heard (default : Bool) : Option String → Bool × Bool
  | none => (default, false)
  | some line => Console.reading line default

/-- A question is put, if there is a terminal, and answered with the next
line. -/
def ask (dialogue : Dialogue) (question : String) (default : Bool) :
    (Bool × Bool) × Dialogue :=
  match dialogue.typed with
  | none => (heard default none, dialogue)
  | some lines =>
      (heard default lines.head?,
        { dialogue with
          typed := some lines.tail
          prompts := dialogue.prompts ++ [Console.prompt question default] })

section Ask

variable (dialogue : Dialogue) (question : String) (default : Bool)

theorem ask_heard : (dialogue.ask question default).1 =
    heard default (dialogue.typed.bind List.head?) := by
  unfold ask
  split
  next noTerminal => rw [noTerminal, Option.bind_none]
  next lines isTyped => rw [isTyped, Option.bind_some]

/-- With a question a line is read, if there is one. -/
theorem ask_dialogue : (dialogue.ask question default).2 =
    { dialogue with
      typed := dialogue.typed.map List.tail
      prompts := dialogue.prompts ++ if dialogue.typed.isSome
        then [Console.prompt question default] else [] } := by
  unfold ask
  split
  next noTerminal =>
    cases dialogue
    cases noTerminal
    simp
  next lines isTyped => simp [isTyped]

end Ask

end Dialogue

end AgentPipeline
