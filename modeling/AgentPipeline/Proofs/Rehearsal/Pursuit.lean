import AgentPipeline.Proofs.Pipeline.PursuitNotices
import AgentPipeline.Proofs.Service.Overheard
import AgentPipeline.Rehearsal.Pipeline

/-!
# Rehearsing the pursuit of a run

A rehearsal of the pipeline keeps track of a pursuit: whatever is done to it
is something that can happen in the pursuit, its service receives the calls of
the pursuit and no others, and its operations return what they return there.
-/

namespace AgentPipeline

/-- Firing the handle makes nobody wait. -/
theorem Pipeline.isSome_of_fireCancel {σ : Type} [KeyValueStore σ]
    (pipeline : Pipeline σ) {reason : String}
    (waits : (pipeline.fireCancel reason).pipeline.awaited.isSome) :
    pipeline.awaited.isSome := by
  unfold fireCancel notice at waits
  split at waits
  next waiting _ => exact Option.isSome_of_eq_some waiting
  next => exact waits

/-- An operation that works has not returned. -/
theorem Pipeline.result_of_working {σ : Type} {pipeline : Pipeline σ}
    {assumesYes : Bool} {operation working : RunOperation}
    {result : Option (Except PipelineError Run)}
    (isPhase : pipeline.phaseAfter assumesYes operation result =
      .working working) : result = none := by
  have rests : ∀ run, pipeline.phaseWith assumesYes run ≠ .working working := by
    intro run
    unfold phaseWith
    repeat' split
    all_goals simp
  cases result with
  | none => rfl
  | some result =>
      cases result with
      | error => cases isPhase
      | ok run =>
          cases operation with
          | settlePendingCancel => cases isPhase
          | start | continueRun | regenerate => exact absurd isPhase (rests run)

/-- A call that is waited for under a cancelled token is given up. -/
theorem Pipeline.awaited_fireCancel {σ : Type} [KeyValueStore σ]
    {pipeline : Pipeline σ} (shaped : pipeline.IsShaped) {call : AwaitedCall}
    (waiting : pipeline.awaited = some call)
    (token : pipeline.cancellation.current? = some call.token)
    (reason : String) :
    (pipeline.fireCancel reason).pipeline.awaited = none := by
  obtain ⟨run, current, _⟩ := shaped.waits call waiting
  have marked := CancelGroup.isSome_pending?_cancel
    (Option.isSome_of_eq_some token) reason
  obtain ⟨first, pending⟩ := Option.isSome_iff_exists.mp marked
  have cancelled : (pipeline.cancellation.cancel reason).reason? call.token =
      some first := by
    rw [CancelGroup.reason?_eq_pending?
      ((CancelGroup.current?_cancel _ reason).trans token), pending]
  simp [fireCancel, notice, waiting, current, cancelled]

namespace PipelineRehearsal

variable {σ ς : Type}

/-- The pursuit that is rehearsed. -/
abbrev pursuit (rehearsal : PipelineRehearsal σ ς) (assumesYes : Bool)
    (phase : PursuitPhase) : Pursuit σ :=
  ⟨rehearsal.pipeline, assumesYes, phase⟩

/-- The phase of a pursuit while an operation is carried out. -/
def during (rehearsal : PipelineRehearsal σ ς) (assumesYes : Bool)
    (operation : RunOperation) : PursuitPhase :=
  rehearsal.pipeline.phaseAfter assumesYes operation rehearsal.result

/-- What an operation has returned, once it has. -/
def returned (rehearsal : PipelineRehearsal σ ς) (operation : RunOperation) :
    List OperationNotice :=
  rehearsal.result.toList.map (.returned operation)

theorem wait_same (rehearsal : PipelineRehearsal σ ς) (moment : Nat) :
    (rehearsal.wait moment).pipeline = rehearsal.pipeline ∧
      (rehearsal.wait moment).service = rehearsal.service ∧
      (rehearsal.wait moment).interruption = rehearsal.interruption ∧
      (rehearsal.wait moment).due = rehearsal.due ∧
      (rehearsal.wait moment).result = rehearsal.result := by
  unfold wait
  split
  · exact ⟨rfl, rfl, rfl, rfl, rfl⟩
  · exact ⟨rfl, rfl, rfl, rfl, rfl⟩

/-! ## Turns -/

variable [DelayedService ς]

/-- The effects of a turn leave the pipeline alone. -/
theorem foldl_perform (effects : List Effect)
    (rehearsal : PipelineRehearsal σ ς) :
    (effects.foldl perform rehearsal).pipeline = rehearsal.pipeline ∧
      (effects.foldl perform rehearsal).interruption =
        rehearsal.interruption := by
  induction effects generalizing rehearsal with
  | nil => exact ⟨rfl, rfl⟩
  | cons effect later ih =>
      rw [List.foldl_cons]
      cases effect with
      | announce | dispatch => exact ih _

/-- A call that was dispatched is on its way. -/
theorem due_foldl_perform {effects : List Effect}
    {rehearsal : PipelineRehearsal σ ς}
    (isSent : (∃ request, Effect.dispatch request ∈ effects) ∨
      rehearsal.due.isSome) :
    (effects.foldl perform rehearsal).due.isSome := by
  induction effects generalizing rehearsal with
  | nil => simpa using isSent
  | cons effect later ih =>
      rw [List.foldl_cons]
      apply ih
      cases effect with
      | announce event => simpa [perform] using isSent
      | dispatch request => exact .inr rfl

section Take

variable (rehearsal : PipelineRehearsal σ ς) (turn : Turn σ)

@[simp]
theorem take_pipeline : (rehearsal.take turn).pipeline = turn.pipeline :=
  (foldl_perform turn.effects { rehearsal with pipeline := turn.pipeline }).1

theorem take_interruption :
    (rehearsal.take turn).interruption = rehearsal.interruption :=
  (foldl_perform turn.effects { rehearsal with pipeline := turn.pipeline }).2

theorem take_due (due : turn.pipeline.awaited.isSome →
    (∃ request, Effect.dispatch request ∈ turn.effects) ∨
      rehearsal.due.isSome) :
    (rehearsal.take turn).due.isSome =
      (rehearsal.take turn).pipeline.awaited.isSome := by
  rw [take_pipeline]
  simp only [take]
  split
  next waits =>
    rw [waits]
    exact due_foldl_perform (due waits)
  next free => simpa using free

/-- With a turn its calls reach the service. -/
theorem receives_take :
    Receives rehearsal.service (turn.requests.map .stage)
      (rehearsal.take turn).service := by
  obtain ⟨pipeline, effects, result⟩ := turn
  have performs : ∀ rehearsal : PipelineRehearsal σ ς,
      Receives rehearsal.service
        ((Turn.mk pipeline effects result).requests.map .stage)
        (effects.foldl perform rehearsal).service := by
    induction effects with
    | nil => exact fun _ => .nothing
    | cons effect later ih =>
        intro rehearsal
        cases effect with
        | announce event => exact ih (rehearsal.perform (.announce event))
        | dispatch request =>
            exact (Receives.nothing.call (.stage request)).trans
              (ih (rehearsal.perform (.dispatch request)))
  exact performs { rehearsal with pipeline }

theorem take_result (notReturned : rehearsal.result = none) :
    (rehearsal.take turn).result = turn.result := by
  simp [take, notReturned]

/-- While an operation is carried out, a turn goes on with it. -/
theorem during_take (notReturned : rehearsal.result = none)
    (assumesYes : Bool) (operation : RunOperation) :
    (rehearsal.take turn).during assumesYes operation =
      turn.pipeline.phaseAfter assumesYes operation turn.result := by
  rw [during, take_pipeline, take_result _ _ notReturned]

theorem returned_take (notReturned : rehearsal.result = none)
    (operation : RunOperation) :
    (rehearsal.take turn).returned operation = turn.returns operation := by
  rw [returned, take_result _ _ notReturned]
  rfl

end Take

variable [KeyValueStore σ]

/-- An answer that arrives is a turn of the pipeline; nothing is called. -/
theorem deliver_eq {rehearsal : PipelineRehearsal σ ς}
    (undisturbed : rehearsal.interruption = none) (due : DueAnswer) :
    ∃ (answered : PipelineRehearsal σ ς) (outcome : Except ServiceError Json)
        (milliseconds : UInt64),
      answered.interruption = none ∧ answered.result = rehearsal.result ∧
        Receives rehearsal.service [] answered.service ∧
        rehearsal.deliver due =
          answered.take (rehearsal.pipeline.reply outcome milliseconds) := by
  obtain ⟨pipeline, service, interruption, _, result⟩ :=
    rehearsal.wait_same due.dueAt
  have calm := interruption.trans undisturbed
  rw [← pipeline, ← result, ← service]
  unfold deliver
  generalize rehearsal.wait due.dueAt = waited at calm ⊢
  let answer := DelayedService.answer waited.service (.stage due.request)
  refine ⟨{ waited with service := answer.2, due := none }, answer.1,
    UInt64.ofNat (due.dueAt - due.sentAt), calm, rfl,
    Receives.nothing.answer _, ?_⟩
  dsimp only
  split
  next disturbed => cases calm.symm.trans disturbed
  next => rfl

/-! ## Keeping track -/

/-- Since a run was started in a rehearsal on a service all of this has
happened in its pursuit, which thereby has got to where the rehearsal is, in
some phase. -/
structure Tracks (start : PursuitStart σ) (service : ς)
    (events : List PursuitEvent) (rehearsal : PipelineRehearsal σ ς)
    (phase : PursuitPhase) : Prop where
  undisturbed : rehearsal.interruption = none
  due : rehearsal.due.isSome = rehearsal.pipeline.awaited.isSome
  reached : start.pursuit.after events =
    rehearsal.pursuit start.assumesYes phase
  received : Receives service ((start.requests events).map .stage)
    rehearsal.service

/-- An operation is being carried out, and until it returns nothing more is
noted. -/
structure Works (start : PursuitStart σ) (service : ς)
    (events : List PursuitEvent) (rehearsal : PipelineRehearsal σ ς)
    (operation : RunOperation) (noted : List OperationNotice) : Prop where
  tracks : Tracks start service events rehearsal
    (rehearsal.during start.assumesYes operation)
  noted : start.notices events = noted ++ rehearsal.returned operation

variable {start : PursuitStart σ} {service : ς} {events : List PursuitEvent}
  {rehearsal : PipelineRehearsal σ ς} {phase : PursuitPhase}

/-- With the turn in which the run is started its first call is on its way. -/
theorem works_start (undisturbed : rehearsal.interruption = none)
    (due : start.turn.pipeline.awaited.isSome →
      ∃ request, Effect.dispatch request ∈ start.turn.effects) :
    Works start rehearsal.service [] (rehearsal.begin start.turn) .start
      [.called .start] := by
  let fresh : PipelineRehearsal σ ς := { rehearsal with result := none }
  refine ⟨⟨?undisturbed, ?due, ?reached, ?received⟩, ?noted⟩
  case undisturbed => exact (take_interruption fresh _).trans undisturbed
  case due => exact take_due fresh _ fun waits => .inl (due waits)
  case reached =>
    rw [pursuit, begin, during_take _ _ rfl, take_pipeline]
    rfl
  case received =>
    have received := receives_take fresh start.turn
    rwa [← List.append_nil start.turn.requests] at received
  case noted =>
    rw [begin, returned_take _ _ rfl]
    exact List.append_nil _

section Tracks

variable (tracks : Tracks start service events rehearsal phase)
include tracks

theorem Tracks.isSteady (steady : start.pursuit.IsSteady) :
    (rehearsal.pursuit start.assumesYes phase).IsSteady := by
  rw [← tracks.reached]
  exact steady.after events

theorem Tracks.phase_eq : (start.pursuit.after events).phase = phase := by
  rw [tracks.reached]

/-- What was reported does not matter. -/
theorem Tracks.reported (log : List Notice) :
    Tracks start service events { rehearsal with log } phase :=
  ⟨tracks.undisturbed, tracks.due, tracks.reached, tracks.received⟩

/-- What an event adds to the calls and to what was noted. -/
theorem Tracks.adds (event : PursuitEvent) {step : PursuitStep σ}
    (isStep : (rehearsal.pursuit start.assumesYes phase).step event = step) :
    start.requests (events ++ [event]) =
        start.requests events ++ step.turn.requests ∧
      start.notices (events ++ [event]) =
        start.notices events ++ step.notices phase := by
  constructor
  · rw [PursuitStart.requests, Pursuit.requests, Pursuit.along_concat,
      tracks.reached, isStep, ← List.append_assoc]
    rfl
  · rw [PursuitStart.notices, Pursuit.notices, Pursuit.along_concat,
      tracks.reached, isStep, ← List.append_assoc]
    rfl

/-- Something happens in the pursuit, and the rehearsal takes the turn that
comes of it. -/
theorem Tracks.take (event : PursuitEvent) {step : PursuitStep σ}
    (isStep : (rehearsal.pursuit start.assumesYes phase).step event = step)
    {base : PipelineRehearsal σ ς} (undisturbed : base.interruption = none)
    (due : step.turn.pipeline.awaited.isSome →
      (∃ request, Effect.dispatch request ∈ step.turn.effects) ∨
        base.due.isSome)
    (received : Receives rehearsal.service [] base.service) :
    Tracks start service (events ++ [event]) (base.take step.turn)
      step.phase where
  undisturbed := (take_interruption base _).trans undisturbed
  due := take_due base _ due
  reached := by
    have next : (start.pursuit.after events).next event =
        ⟨step.turn.pipeline, start.assumesYes, step.phase⟩ := by
      rw [tracks.reached, Pursuit.next, isStep]
    rw [Pursuit.after_append, pursuit, take_pipeline]
    exact next
  received := by
    have before := tracks.received.trans received
    rw [List.append_nil] at before
    rw [(tracks.adds event isStep).1, List.map_append]
    exact before.trans (receives_take base _)

/-- The handle is fired, and nobody has taken notice yet. -/
theorem Tracks.fire (reason : String) :
    Tracks start service (events ++ [.fire reason])
      { rehearsal with
        pipeline := rehearsal.pipeline.withTokens
          (rehearsal.pipeline.cancellation.cancel reason) } phase where
  undisturbed := tracks.undisturbed
  due := tracks.due
  reached := by
    rw [Pursuit.after_append, tracks.reached]
    exact Pursuit.next_fire _ reason
  received := by
    have sent : start.requests (events ++ [.fire reason]) =
        start.requests events :=
      (tracks.adds (.fire reason) rfl).1.trans (List.append_nil _)
    rw [sent]
    exact tracks.received

end Tracks

/-- At rest nothing comes of it at once that the handle is fired. -/
theorem Tracks.cancel {question : RunQuestion} {run : Run}
    (tracks : Tracks start service events rehearsal (.asking question run))
    (reason : String) :
    Tracks start service (events ++ [.fire reason, .notice])
        (rehearsal.handle (.cancel reason)) (.asking question run) ∧
      start.notices (events ++ [.fire reason, .notice]) =
        start.notices events := by
  have fired := tracks.fire reason
  rw [List.append_cons]
  constructor
  · refine fired.take .notice rfl tracks.undisturbed (fun waits => ?_) .nothing
    right
    exact tracks.due.trans (rehearsal.pipeline.isSome_of_fireCancel waits)
  · rw [(fired.adds .notice rfl).2, (tracks.adds (.fire reason) rfl).2]
    exact (List.append_nil _).trans (List.append_nil _)

/-- An answer that leads to no operation ends the pursuit. -/
theorem Tracks.leave {question : RunQuestion} {run : Run}
    (tracks : Tracks start service events rehearsal (.asking question run))
    {yes : Bool} (leads : rehearsal.pipeline.operationFor
      (start.assumesYes || yes) question = none) :
    (start.pursuit.after (events ++ [.answer yes])).phase =
        .ended (.left run question.remark) ∧
      start.requests (events ++ [.answer yes]) = start.requests events ∧
      start.notices (events ++ [.answer yes]) = start.notices events := by
  have isStep : (rehearsal.pursuit start.assumesYes
      (.asking question run)).step (.answer yes) = ⟨none,
        rehearsal.pipeline.idle, .ended (.left run question.remark)⟩ := by
    simp [Pursuit.step, Pursuit.answer, leads]
  obtain ⟨requests, notices⟩ := tracks.adds (.answer yes) isStep
  refine ⟨?_, requests.trans (List.append_nil _),
    notices.trans (List.append_nil _)⟩
  rw [Pursuit.after_append, tracks.reached, Pursuit.after_cons, Pursuit.next,
    isStep]
  rfl

/-! ## Carrying out operations -/

section Works

variable {operation : RunOperation} {noted : List OperationNotice}

/-- With an answer that leads to an operation its call is on its way, and one
of the questions is used up. -/
theorem Tracks.begin (tracks : Tracks start service events rehearsal phase)
    (steady : start.pursuit.IsSteady) {question : RunQuestion} {run : Run}
    (isPhase : phase = .asking question run) {yes : Bool} {turn : Turn σ}
    (leads : rehearsal.pipeline.operationFor (start.assumesYes || yes)
      question = some (operation, turn)) :
    Works start service (events ++ [.answer yes]) (rehearsal.begin turn)
        operation (start.notices events ++ [.called operation]) ∧
      (start.pursuit.after (events ++ [.answer yes])).questionsLeft <
        (start.pursuit.after events).questionsLeft := by
  subst isPhase
  let fresh : PipelineRehearsal σ ς := { rehearsal with result := none }
  have isStep : (rehearsal.pursuit start.assumesYes
      (.asking question run)).step (.answer yes) = ⟨some operation, turn,
        turn.pipeline.phaseAfter start.assumesYes operation turn.result⟩ := by
    simp [Pursuit.step, Pursuit.answer, leads]
  have here := tracks.isSteady steady
  have goes := Pursuit.goes_step here (.answer yes)
  rw [isStep] at goes
  refine ⟨⟨?tracks, ?noted⟩, ?fewer⟩
  case tracks =>
    rw [begin, during_take fresh turn rfl]
    refine tracks.take (.answer yes) isStep tracks.undisturbed ?_ .nothing
    intro waits
    obtain ⟨call, waits⟩ := Option.isSome_iff_exists.mp waits
    exact .inl (goes.sends here rfl waits).1
  case noted =>
    rw [(tracks.adds (.answer yes) isStep).2, begin,
      returned_take fresh turn rfl, List.append_assoc]
    simp [PursuitStep.notices]
  case fewer =>
    rw [Pursuit.after_append, tracks.reached]
    exact Pursuit.questionsLeft_answered here rfl yes

/-- An operation that waits goes on, or it returns. -/
theorem Tracks.goesOn
    (tracks : Tracks start service events rehearsal (.working operation))
    (isNoted : start.notices events = noted) {event : PursuitEvent}
    {turn : Turn σ}
    (isStep : (rehearsal.pursuit start.assumesYes (.working operation)).step
      event = Pursuit.meanwhile
        (rehearsal.pursuit start.assumesYes (.working operation)) turn)
    {base : PipelineRehearsal σ ς} (undisturbed : base.interruption = none)
    (notReturned : base.result = none)
    (due : turn.pipeline.awaited.isSome →
      (∃ request, Effect.dispatch request ∈ turn.effects) ∨ base.due.isSome)
    (received : Receives rehearsal.service [] base.service) :
    Works start service (events ++ [event]) (base.take turn) operation
      noted where
  tracks := by
    rw [during_take base turn notReturned]
    exact tracks.take event isStep undisturbed due received
  noted := by
    rw [(tracks.adds event isStep).2, isNoted,
      returned_take base turn notReturned]
    simp [PursuitStep.notices, Pursuit.meanwhile, PursuitPhase.operation?]

variable (works : Works start service events rehearsal operation noted)
include works

theorem Works.reported (log : List Notice) :
    Works start service events { rehearsal with log } operation noted :=
  ⟨works.tracks.reported log, works.noted⟩

theorem Works.wait (moment : Nat) :
    Works start service events (rehearsal.wait moment) operation noted := by
  obtain ⟨pipeline, sameService, interruption, due, result⟩ :=
    rehearsal.wait_same moment
  obtain ⟨undisturbed, isDue, reached, received⟩ := works.tracks
  refine ⟨⟨interruption.trans undisturbed, ?_, ?_, ?_⟩, ?_⟩
  · rw [due, pipeline, isDue]
  · rw [reached, pursuit, pursuit, during, during, pipeline, result]
  · rwa [sameService]
  · rw [returned, result]
    exact works.noted

/-- An operation that waits has not returned. -/
theorem Works.isWorking (steady : start.pursuit.IsSteady) {call : AwaitedCall}
    (waiting : rehearsal.pipeline.awaited = some call) :
    rehearsal.result = none ∧
      Tracks start service events rehearsal (.working operation) ∧
      start.notices events = noted := by
  have notReturned : rehearsal.result = none := by
    cases (works.tracks.isSteady steady).fits with
    | working isPhase => exact Pipeline.result_of_working isPhase
    | paused _ free | invalid _ free | ended _ free =>
        cases free.symm.trans waiting
  obtain ⟨tracks, isNoted⟩ := works
  rw [during, notReturned] at tracks
  rw [returned, notReturned] at isNoted
  exact ⟨notReturned, tracks, isNoted.trans (List.append_nil _)⟩

/-- While a call is waited for, an interruption ends the operation. -/
theorem Works.interrupted (steady : start.pursuit.IsSteady)
    {call : AwaitedCall} (waiting : rehearsal.pipeline.awaited = some call)
    (reason : String) :
    Works start service (events ++ [.fire reason, .notice])
        (rehearsal.handle (.cancel reason)) operation noted ∧
      (rehearsal.handle (.cancel reason)).pipeline.awaited = none := by
  obtain ⟨notReturned, tracks, isNoted⟩ := works.isWorking steady waiting
  have here := tracks.isSteady steady
  have token : rehearsal.pipeline.cancellation.current? =
      some call.token := by
    cases here.fits with
    | working _ _ waits token =>
        obtain rfl := Option.some.inj (waits.symm.trans waiting)
        exact token
    | paused isOther | invalid isOther | ended isOther => cases isOther
  have fired := (tracks.adds (.fire reason) rfl).2
  rw [List.append_cons]
  constructor
  · refine (tracks.fire reason).goesOn ?_ rfl tracks.undisturbed notReturned
      (fun waits => .inr ?_) .nothing
    · exact fired.trans ((List.append_nil _).trans isNoted)
    · exact tracks.due.trans (rehearsal.pipeline.isSome_of_fireCancel waits)
  · rw [handle, take_pipeline]
    exact Pipeline.awaited_fireCancel here.shaped waiting token reason

/-- An answer ends the operation, or it leads to the call of a later stage. -/
theorem Works.delivered (steady : start.pursuit.IsSteady) {call : AwaitedCall}
    (waiting : rehearsal.pipeline.awaited = some call) (due : DueAnswer) :
    ∃ outcome milliseconds,
      Works start service (events ++ [.reply outcome milliseconds])
        (rehearsal.deliver due) operation noted ∧
      ∀ next, (rehearsal.deliver due).pipeline.awaited = some next →
        call.stage.index < next.stage.index := by
  obtain ⟨notReturned, tracks, isNoted⟩ := works.isWorking steady waiting
  obtain ⟨answered, outcome, milliseconds, undisturbed, result, received,
    delivered⟩ := deliver_eq tracks.undisturbed due
  have here := tracks.isSteady steady
  have goes := Pursuit.goes_step here (.reply outcome milliseconds)
  have sends : ∀ next, (rehearsal.pipeline.reply outcome
      milliseconds).pipeline.awaited = some next → _ :=
    fun next waits => goes.sends here rfl waits
  refine ⟨outcome, milliseconds, ?_, ?_⟩
  · rw [delivered]
    refine tracks.goesOn isNoted rfl undisturbed (result.trans notReturned)
      (fun waits => ?_) received
    obtain ⟨next, waits⟩ := Option.isSome_iff_exists.mp waits
    exact .inl (sends next waits).1
  · intro next waits
    rw [delivered, take_pipeline] at waits
    exact (sends next waits).2 call waiting

end Works

end PipelineRehearsal

end AgentPipeline
