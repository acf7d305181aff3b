import AgentPipeline.Command.Run
import AgentPipeline.Proofs.Terminal.Dialogue

/-!
# Questions about a run

While a run is pursued some questions are put in a dialogue, and the user
interrupts the command a number of times.  Main statement:
`Continues.declined`.
-/

namespace AgentPipeline

/-- A question as it is put. -/
def RunQuestion.prompt (question : RunQuestion) : String :=
  Console.prompt question.text question.default

namespace Dialogue

/-- What a dialogue answers to some questions: to each the next line says
whether the answer is yes, and whether the user interrupts the command. -/
def answers (dialogue : Dialogue) (questions : List RunQuestion) :
    List (Bool × Bool) :=
  questions.mapIdx fun index question =>
    heard question.default (dialogue.typed.bind (·[index]?))

/-- From one state of a dialogue to another some questions are answered, and a
number of times the user interrupts the command. -/
structure Continues (before : Dialogue) (asked : List (RunQuestion × Bool))
    (interruptions : Nat) (after : Dialogue) : Prop where
  typed : after.typed = before.typed.map (·.drop asked.length)
  staysOpen : after.staysOpen = before.staysOpen
  prompts : after.prompts = before.prompts ++
    if before.typed.isSome then asked.map (·.1.prompt) else []
  answered : asked.map (·.2) =
    (before.answers (asked.map (·.1))).map (·.1)
  interruptAt : after.interruptAt = before.interruptAt ∨
    after.interruptAt = none
  interruptions : interruptions =
    (before.answers (asked.map (·.1))).countP (·.2) +
      if after.interruptAt = before.interruptAt then 0 else 1

theorem continues_nothing (dialogue : Dialogue) :
    dialogue.Continues [] 0 dialogue where
  typed := by simp
  staysOpen := rfl
  prompts := by simp
  answered := rfl
  interruptAt := .inl rfl
  interruptions := by simp [answers]

theorem answers_concat (dialogue : Dialogue) (questions : List RunQuestion)
    (question : RunQuestion) :
    dialogue.answers (questions ++ [question]) =
      dialogue.answers questions ++
        [heard question.default
          (dialogue.typed.bind (·[questions.length]?))] := by
  simp [answers]

section Continues

variable {before middle : Dialogue} {asked : List (RunQuestion × Bool)}
  {interruptions : Nat}
  (continues : before.Continues asked interruptions middle)
include continues

/-- The next question is answered with the next line. -/
theorem Continues.ask {question : RunQuestion} {yes interrupted : Bool}
    {after : Dialogue} (isAsked : middle.ask question.text question.default =
      ((yes, interrupted), after)) :
    before.Continues (asked ++ [(question, yes)])
      (interruptions + if interrupted then 1 else 0) after := by
  have isHeard : heard question.default
      (before.typed.bind (·[(asked.map (·.1)).length]?)) =
        (yes, interrupted) := by
    have heardNext := ask_heard middle question.text question.default
    rw [isAsked, continues.typed] at heardNext
    refine Eq.trans ?_ heardNext.symm
    rw [List.length_map]
    cases before.typed with
    | none => rfl
    | some lines => simp [List.head?_drop]
  have isAfter := ask_dialogue middle question.text question.default
  rw [isAsked] at isAfter
  dsimp only at isAfter
  subst isAfter
  have answers : before.answers ((asked ++ [(question, yes)]).map (·.1)) =
      before.answers (asked.map (·.1)) ++ [(yes, interrupted)] := by
    rw [List.map_append, List.map_singleton, answers_concat, isHeard]
  refine ⟨?typed, continues.staysOpen, ?prompts, ?answered,
    continues.interruptAt, ?interruptions⟩
  case typed =>
    dsimp only
    rw [continues.typed, Option.map_map, List.length_append]
    exact congrArg (Option.map · before.typed) (funext fun lines =>
      List.tail_drop)
  case prompts =>
    rw [continues.prompts, continues.typed, Option.isSome_map,
      List.append_assoc]
    split
    · rw [List.map_append]
      rfl
    · rfl
  case answered =>
    rw [answers, List.map_append, List.map_append, continues.answered]
    rfl
  case interruptions =>
    rw [answers, List.countP_append, continues.interruptions]
    cases interrupted with
    | false => simp
    | true =>
        rw [if_pos rfl, List.countP_singleton, if_pos rfl]
        exact Nat.add_right_comm _ _ _

/-- The user interrupts the command while no question is open. -/
theorem Continues.interrupt (isSet : middle.interruptAt ≠ none) :
    before.Continues asked (interruptions + 1)
      { middle with interruptAt := none } where
  typed := continues.typed
  staysOpen := continues.staysOpen
  prompts := continues.prompts
  answered := continues.answered
  interruptAt := .inr rfl
  interruptions := by
    have same : middle.interruptAt = before.interruptAt :=
      continues.interruptAt.resolve_right isSet
    rw [continues.interruptions, if_pos same, if_neg (same ▸ isSet.symm)]

end Continues

/-- The only question was whether to go on behind the checkpoint, and the user
declined without an interruption: a line that was typed says so. -/
theorem Continues.declined {before after : Dialogue}
    (continues : before.Continues [(.proceed, false)] 0 after) :
    ∃ line rest, before.typed = some (line :: rest) ∧
      Console.reading line true = (false, false) ∧
      after = { before with
        typed := some rest
        prompts := before.prompts ++ [RunQuestion.proceed.prompt] } := by
  obtain ⟨typed, staysOpen, prompts, answered, interruptAt, interruptions⟩ :=
    continues
  have isAnswers : before.answers
      ([((.proceed : RunQuestion), false)].map (·.1)) =
        [heard true (before.typed.bind (·[0]?))] := rfl
  rw [isAnswers] at answered interruptions
  have isNo : (heard true (before.typed.bind (·[0]?))).1 = false :=
    (List.cons.inj answered).1.symm
  rw [List.countP_singleton] at interruptions
  obtain ⟨noneTyped, noneElse⟩ := Nat.add_eq_zero_iff.mp interruptions.symm
  have calm : (heard true (before.typed.bind (·[0]?))).2 = false := by
    simpa using noneTyped
  have sameMoment : after.interruptAt = before.interruptAt := by
    simpa using noneElse
  cases isTyped : before.typed with
  | none => simp [isTyped, heard] at isNo
  | some lines =>
      cases lines with
      | nil => simp [isTyped, heard] at isNo
      | cons line rest =>
          rw [isTyped] at isNo calm typed prompts
          refine ⟨line, rest, rfl, Prod.ext isNo calm, ?_⟩
          cases after
          cases typed
          cases staysOpen
          cases prompts
          cases sameMoment
          rfl

end Dialogue

end AgentPipeline
