import AgentPipeline.Command.Scene
import AgentPipeline.Proofs.Terminal.Dialogue

/-!
# What acts lead to

An act leads from a scene to one in which it has given a value, has failed, or
has halted.  There is one rule for each part of an act.
-/

namespace AgentPipeline.Act

variable {σ ς α β : Type} {scene : Scene σ ς}
  {done : α → Scene σ ς → Prop} {failed : CommandError → Scene σ ς → Prop}
  {halted : Wanted → Scene σ ς → Prop}

/-- What an act leads to when it is performed in a scene. -/
def Leads (act : Act σ ς α) (scene : Scene σ ς)
    (done : α → Scene σ ς → Prop) (failed : CommandError → Scene σ ς → Prop)
    (halted : Wanted → Scene σ ς → Prop) : Prop :=
  match act.run scene with
  | .ok value last => done value last
  | .error (.failed error) last => failed error last
  | .error (.wanting wanted) last => halted wanted last

theorem leads_pure {value : α} (isDone : done value scene) :
    (pure value : Act σ ς α).Leads scene done failed halted := isDone

theorem leads_failed {error : CommandError} (isFailed : failed error scene) :
    (throw (.failed error) : Act σ ς α).Leads scene done failed halted :=
  isFailed

/-- What follows may depend on the scene in which it is performed. -/
theorem leads_of_get {next : Scene σ ς → Act σ ς α}
    (leads : (next scene).Leads scene done failed halted) :
    (get >>= next : Act σ ς α).Leads scene done failed halted := leads

theorem Leads.bind {act : Act σ ς β} {next : β → Act σ ς α}
    (leads : act.Leads scene
      (fun result middle => (next result).Leads middle done failed halted)
      failed halted) :
    (act >>= next).Leads scene done failed halted := by
  simp only [Leads, EStateM.run, Bind.bind, EStateM.bind] at leads ⊢
  cases performed : act scene with
  | ok result middle =>
      rw [performed] at leads
      exact leads
  | error halt last =>
      rw [performed] at leads
      cases halt with
      | failed | wanting => exact leads

theorem Leads.mono {act : Act σ ς α} {weaker : α → Scene σ ς → Prop}
    {weakerFailed : CommandError → Scene σ ς → Prop}
    {weakerHalted : Wanted → Scene σ ς → Prop}
    (leads : act.Leads scene done failed halted)
    (isDone : ∀ value last, done value last → weaker value last)
    (isFailed : ∀ error last, failed error last → weakerFailed error last)
    (isHalted : ∀ wanted last,
      halted wanted last → weakerHalted wanted last) :
    act.Leads scene weaker weakerFailed weakerHalted := by
  unfold Leads at leads ⊢
  cases performed : act.run scene with
  | ok value last =>
      rw [performed] at leads
      exact isDone value last leads
  | error halt last =>
      rw [performed] at leads
      cases halt with
      | failed error => exact isFailed error last leads
      | wanting wanted => exact isHalted wanted last leads

theorem Leads.imp {act : Act σ ς α} {weaker : α → Scene σ ς → Prop}
    (leads : act.Leads scene done failed halted)
    (isDone : ∀ value last, done value last → weaker value last) :
    act.Leads scene weaker failed halted :=
  leads.mono isDone (fun _ _ => id) fun _ _ => id

/-- What follows an act builds on what the act leads to. -/
theorem Leads.andThen {act : Act σ ς β} {next : β → Act σ ς α}
    {reached : β → Scene σ ς → Prop}
    (leads : act.Leads scene reached failed halted)
    (goesOn : ∀ result middle, reached result middle →
      (next result).Leads middle done failed halted) :
    (act >>= next).Leads scene done failed halted :=
  .bind (leads.imp goesOn)

theorem leads_expect {ε : Type} {failure : ε → CommandError}
    {outcome : Except ε α}
    (isOk : ∀ value, outcome = .ok value → done value scene)
    (isError : ∀ error, outcome = .error error →
      failed (failure error) scene) :
    (expect failure outcome).Leads scene done failed halted := by
  cases outcome with
  | ok value => exact isOk value rfl
  | error error => exact isError error rfl

theorem leads_onConsole {change : Console → Console}
    {done : Unit → Scene σ ς → Prop}
    (isDone : done () { scene with console := change scene.console }) :
    (onConsole change).Leads scene done failed halted := isDone

theorem leads_colors {done : Bool → Scene σ ς → Prop}
    (isDone : done scene.console.colors scene) :
    (colors : Act σ ς Bool).Leads scene done failed halted := isDone

theorem leads_store {done : σ → Scene σ ς → Prop}
    (isDone : done scene.world.store scene) :
    (store : Act σ ς σ).Leads scene done failed halted := isDone

theorem leads_noteOperation {notice : OperationNotice}
    {done : Unit → Scene σ ς → Prop}
    (isDone : done ()
      { scene with operations := scene.operations ++ [notice] }) :
    (noteOperation notice).Leads scene done failed halted := isDone

/-- A question is put and answered, or the terminal may still bring the line
that answers it. -/
theorem leads_confirm {question : String} {default : Bool}
    {done : Bool × Bool → Scene σ ς → Prop}
    (isDone : ∀ answer console, scene.console.dialogue.ask question default =
      (answer, console.dialogue) → done answer { scene with console })
    (isHalted : ∀ console, console.typed = some [] →
      console.staysOpen = true →
      scene.console.dialogue.ask question default =
        ((default, false), console.dialogue) →
          halted (.line (Console.prompt question default))
            { scene with console }) :
    (confirm question default).Leads scene done failed halted := by
  unfold Dialogue.ask at isDone isHalted
  refine leads_of_get ?_
  cases isTyped : scene.console.typed with
  | none =>
      simp only [Console.dialogue, isTyped] at isDone
      exact leads_pure (isDone _ scene.console (by rw [isTyped]; rfl))
  | some typed =>
      simp only [Console.dialogue, isTyped] at isDone isHalted
      refine .bind (leads_onConsole (.bind (leads_onConsole ?_)))
      cases typed with
      | nil =>
          have nothingTyped : ∀ prompts, Dialogue.mk (some [])
              scene.console.staysOpen scene.console.interruptAt prompts =
                ⟨scene.console.typed, _, _, prompts⟩ :=
            fun prompts => congrArg (Dialogue.mk · _ _ prompts) isTyped.symm
          refine leads_of_get ?_
          split
          next staysOpen =>
            exact isHalted _ isTyped staysOpen
              (Prod.ext rfl (nothingTyped _))
          next => exact leads_pure (isDone _ _ (Prod.ext rfl (nothingTyped _)))
      | cons line rest =>
          exact .bind (leads_onConsole (leads_pure (isDone _ _ rfl)))

/-- The interruption that comes before a moment is taken, and otherwise
nothing. -/
theorem leads_interruptionBefore {moment : Nat}
    {done : Option Nat → Scene σ ς → Prop} (isNone : done none scene)
    (isTaken : ∀ interruption console,
      scene.console.interruptAt = some interruption → console.dialogue =
        { scene.console.dialogue with interruptAt := none } →
          done (some interruption) { scene with console }) :
    (interruptionBefore moment).Leads scene done failed halted := by
  refine leads_of_get ?_
  cases isAt : scene.console.interruptAt with
  | none => exact leads_pure isNone
  | some interruption =>
      dsimp only
      split
      · exact .bind (leads_onConsole (leads_pure (isTaken _ _ isAt rfl)))
      · exact leads_pure isNone

/-- What is done to the world is done, or the service is silent and nothing
but the service has changed; the dialogue does not go on. -/
theorem leads_onWorld [DelayedService ς]
    {change : EvaluatorRehearsal σ ς → EvaluatorRehearsal σ ς × α}
    (isDone : ∀ console, console.dialogue = scene.console.dialogue →
      done (change scene.world).2
        { scene with
          world := { (change scene.world).1 with log := [] }, console })
    (isHalted : ∀ moment console,
      console.dialogue = scene.console.dialogue →
      DelayedService.isSilent (change scene.world).1.service = true →
        halted (.answer moment)
          { scene with
            world := { scene.world with
              service := (change scene.world).1.service }
            console }) :
    (onWorld change).Leads scene done failed halted := by
  refine leads_of_get ?_
  dsimp only
  split
  next silent => exact isHalted _ _ (Console.dialogue_drain _) silent
  next => exact isDone _ (Console.dialogue_absorb _ _)

/-- What is caught goes on in the scene in which it was thrown. -/
theorem leads_tryCatch {act : Act σ ς α} {handler : Halt → Act σ ς α}
    (leads : act.Leads scene done
      (fun error middle =>
        (handler (.failed error)).Leads middle done failed halted)
      (fun wanted middle =>
        (handler (.wanting wanted)).Leads middle done failed halted)) :
    (tryCatch act handler).Leads scene done failed halted := by
  unfold Leads at leads ⊢
  simp only [EStateM.run, tryCatch, tryCatchThe,
    MonadExceptOf.tryCatch] at leads ⊢
  delta EStateM.tryCatch
  dsimp only
  cases performed : act scene with
  | ok value middle =>
      rw [performed] at leads
      exact leads
  | error halt middle =>
      rw [performed] at leads
      cases halt with
      | failed | wanting => exact leads

/-- The last part is performed after a value and after a failure, but not when
the act has halted. -/
theorem leads_andFinally {act : Act σ ς α}
    {last : Except CommandError α → Act σ ς Unit}
    (leads : act.Leads scene
      (fun value middle => (last (.ok value)).Leads middle
        (fun _ => done value) failed halted)
      (fun error middle => (last (.error error)).Leads middle
        (fun _ => failed error) failed halted)
      halted) :
    (act.andFinally last).Leads scene done failed halted := by
  refine .bind (leads_tryCatch (.bind (leads.mono ?value ?failure ?halt)))
  case value => exact fun _ _ lastLeads => leads_pure (.bind lastLeads)
  case failure => exact fun _ _ lastLeads => leads_pure (.bind lastLeads)
  case halt => exact fun _ _ isHalted => isHalted

end AgentPipeline.Act
