import AgentPipeline.Service.Delayed

/-!
# Services that are overheard

Everything that is asked of a service reaches it in some order.  `Receives`
says what has reached it between two of its states, and a service that is
overheard remembers all of it.  Main statement: `Receives.requests_eq`.
-/

namespace AgentPipeline

/-- From one state of a service to another these calls reach it, in their
order, and some answers are taken. -/
inductive Receives {ς : Type} [DelayedService ς] (first : ς) :
    List Request → ς → Prop where
  | nothing : Receives first [] first
  | call {requests : List Request} {service : ς}
      (earlier : Receives first requests service) (request : Request) :
      Receives first (requests ++ [request])
        (DelayedService.receive service request)
  | answer {requests : List Request} {service : ς}
      (earlier : Receives first requests service) (request : Request) :
      Receives first requests (DelayedService.answer service request).2

theorem Receives.trans {ς : Type} [DelayedService ς] {first middle last : ς}
    {requests later : List Request} (earlier : Receives first requests middle)
    (further : Receives middle later last) :
    Receives first (requests ++ later) last := by
  induction further with
  | nothing => simpa using earlier
  | call _ request ih =>
      rw [← List.append_assoc]
      exact ih.call request
  | answer _ request ih => exact ih.answer request

/-- A service with the requests that have reached it, in order. -/
structure OverheardService (ς : Type) where
  service : ς
  requests : List Request

instance {ς : Type} [DelayedService ς] :
    DelayedService (OverheardService ς) where
  receive overheard request :=
    ⟨DelayedService.receive overheard.service request,
      overheard.requests ++ [request]⟩
  delay overheard request := DelayedService.delay overheard.service request
  answer overheard request :=
    let (outcome, service) := DelayedService.answer overheard.service request
    (outcome, { overheard with service })
  isSilent overheard := DelayedService.isSilent overheard.service

/-- What has reached an overheard service is what it remembers. -/
theorem Receives.requests_eq {ς : Type} [DelayedService ς]
    {first last : OverheardService ς} {requests : List Request}
    (receives : Receives first requests last) :
    last.requests = first.requests ++ requests := by
  induction receives with
  | nothing => exact (List.append_nil _).symm
  | call _ request ih =>
      rw [← List.append_assoc, ← ih]
      rfl
  | answer _ request ih => exact ih

end AgentPipeline
