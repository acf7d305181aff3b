import AgentPipeline.Proofs.Command.Leads

/-!
# What acts give

An act is performed in a scene.  `Act.Yields` says which values it gives and
which errors, wherever it is performed and whatever it leads to, and that it
halts only for what the scene does not have.
-/

namespace AgentPipeline

/-- What an act halts for, the scene does not have: no line is left though the
terminal may still bring one, or the service had no answer. -/
inductive Scene.Lacks {σ ς : Type} [DelayedService ς] (scene : Scene σ ς) :
    Wanted → Prop
  | line (prompt : String) (noneLeft : scene.console.typed = some [])
      (staysOpen : scene.console.staysOpen = true) :
      scene.Lacks (.line prompt)
  | answer (moment : Nat)
      (isSilent : DelayedService.isSilent scene.world.service = true) :
      scene.Lacks (.answer moment)

namespace Act

variable {σ ς α : Type} [DelayedService ς]

/-- What an act gives in a scene: a value of some kind, or an error of some
kind, unless it halts for what the scene lacks. -/
def YieldsIn (scene : Scene σ ς) (act : Act σ ς α) (value : α → Prop)
    (failure : CommandError → Prop) : Prop :=
  match act.run scene with
  | .ok result _ => value result
  | .error (.failed error) _ => failure error
  | .error (.wanting wanted) after => after.Lacks wanted

/-- What an act gives wherever it is performed. -/
def Yields (act : Act σ ς α) (value : α → Prop)
    (failure : CommandError → Prop) : Prop :=
  ∀ scene, act.YieldsIn scene value failure

theorem yieldsIn_iff_leads {scene : Scene σ ς} {act : Act σ ς α}
    {value : α → Prop} {failure : CommandError → Prop} :
    act.YieldsIn scene value failure ↔
      act.Leads scene (fun result _ => value result)
        (fun error _ => failure error) fun wanted last => last.Lacks wanted :=
  Iff.rfl

end Act

end AgentPipeline
