import AgentPipeline.Pipeline.Pursuit
import AgentPipeline.Proofs.Pipeline.Snapshot

/-!
# What happens in the pursuit of a run

While a run is pursued the user answers the questions about it, the cancel
handle is fired at any moment, and the operation that waits goes on.  `Goes`
says what comes of each event: which operation is called, which turn the
pipeline takes and which phase follows.  Main statement: `goes_step`.
-/

namespace AgentPipeline

/-- The user answers a question, the cancel handle is fired, or the operation
that waits goes on. -/
inductive PursuitEvent where
  | answer (yes : Bool)
  /-- The handle is fired; nobody has taken notice yet. -/
  | fire (reason : String)
  /-- The operation that waits sees that its token is cancelled. -/
  | notice
  | reply (outcome : Except ServiceError Json) (milliseconds : UInt64)

/-- What happens to the pipeline, unless it is for the user to act. -/
def PursuitEvent.occurrence? : PursuitEvent → Option Occurrence
  | .answer _ => none
  | .fire reason => some (.fire reason)
  | .notice => some .notice
  | .reply outcome milliseconds => some (.reply outcome milliseconds)

/-- A pipeline with the phase that the pursuit of its run is in. -/
structure Pursuit (σ : Type) where
  pipeline : Pipeline σ
  assumesYes : Bool
  phase : PursuitPhase

/-- What comes of an event. -/
structure PursuitStep (σ : Type) where
  /-- The operation that is called. -/
  called : Option RunOperation
  turn : Turn σ
  phase : PursuitPhase

/-- An answer matters while a question is open, and the answer to a call while
an operation waits for it. -/
def PursuitPhase.awaits : PursuitPhase → PursuitEvent → Bool
  | .working _, .reply .. | .asking .., .answer _ => true
  | _, _ => false

namespace Pursuit

variable {σ : Type}

/-! ## The states of a pursuit -/

/-- What the phase of a pursuit says of its pipeline. -/
inductive Fits (pursuit : Pursuit σ) : Prop
  | working {operation : RunOperation} {call : AwaitedCall}
      (isPhase : pursuit.phase = .working operation)
      (drives : operation ≠ .settlePendingCancel)
      (waiting : pursuit.pipeline.awaited = some call)
      (token : pursuit.pipeline.cancellation.current? = some call.token)
  | paused {run : Run} (isPhase : pursuit.phase = .asking .proceed run)
      (free : pursuit.pipeline.awaited = none)
      (current : pursuit.pipeline.run = some run)
      (paused : run.status = .pausedAtCheckpoint)
  | invalid {run : Run} (isPhase : pursuit.phase = .asking .regenerate run)
      (free : pursuit.pipeline.awaited = none)
      (current : pursuit.pipeline.run = some run)
      (completed : run.status = .completed)
      (failed : run.validationFailure.isSome)
      (left : run.attempt < pursuit.pipeline.maxAttempts)
      (asks : pursuit.assumesYes = false)
  | ended {ending : PursuitEnd} (isPhase : pursuit.phase = .ended ending)
      (free : pursuit.pipeline.awaited = none)
      (isEnd : ∀ run, ending ≠ .unfinished run)

/-- What holds of a pursuit whatever has happened. -/
structure IsSteady (pursuit : Pursuit σ) : Prop where
  shaped : pursuit.pipeline.IsShaped
  fits : pursuit.Fits

variable {pursuit : Pursuit σ}

theorem Fits.of_tokens (fits : pursuit.Fits) {tokens : CancelGroup}
    (sameToken : tokens.current? = pursuit.pipeline.cancellation.current?) :
    Fits ⟨pursuit.pipeline.withTokens tokens, pursuit.assumesYes,
      pursuit.phase⟩ := by
  cases fits with
  | working isPhase drives waiting token =>
      exact .working isPhase drives waiting (sameToken.trans token)
  | paused isPhase free current paused =>
      exact .paused isPhase free current paused
  | invalid isPhase free current completed failed left asks =>
      exact .invalid isPhase free current completed failed left asks
  | ended isPhase free isEnd => exact .ended isPhase free isEnd

/-- The token of a call that is dispatched is the current one. -/
theorem current?_of_dispatches {happening : Happening σ} {base : Pipeline σ}
    {run : Run} {token : TokenId} {input : StageInput} {events : List Event}
    (fits : pursuit.Fits)
    (dispatches : pursuit.pipeline.Dispatches happening base run token input
      events) : base.cancellation.current? = some token := by
  cases dispatches with
  | start | regenerate => exact CancelGroup.current?_issue _
  | continueRun _ _ _ _ _ hasToken => exact hasToken
  | reply waiting =>
      cases fits with
      | working _ _ waits token =>
          obtain rfl := Option.some.inj (waits.symm.trans waiting)
          exact token
      | paused _ free | invalid _ free | ended _ free => simp [free] at waiting

/-! ## The end of an operation -/

/-- Where the end of an operation leads that leaves a run with a result. -/
inductive LeadsTo (pursuit : Pursuit σ) (run : Run) :
    Except PipelineError Run → PursuitPhase → Prop
  | fail {stage : Stage} {message : String} :
      pursuit.LeadsTo run (.error (.stage stage message))
        (.ended (.failed (.stage stage message)))
  | rest {remark : Option RunRemark}
      (notPaused : run.status ≠ .pausedAtCheckpoint) :
      pursuit.LeadsTo run (.ok run) (.ended (.left run remark))
  | pause {call : AwaitedCall}
      (waiting : pursuit.pipeline.awaited = some call)
      (isReason : call.stage = .reason)
      (paused : run.status = .pausedAtCheckpoint) :
      pursuit.LeadsTo run (.ok run) (.asking .proceed run)
  | invalid (completed : run.status = .completed)
      (failed : run.validationFailure.isSome)
      (left : run.attempt < pursuit.pipeline.maxAttempts)
      (asks : pursuit.assumesYes = false) :
      pursuit.LeadsTo run (.ok run) (.asking .regenerate run)

section Conclude

variable {happening : Happening σ} {tokens : CancelGroup} {run : Run}
  {events : List Event} {result : Except PipelineError Run}

theorem leadsTo_of_completed {pipeline : Pipeline σ}
    (sameLimit : pipeline.maxAttempts = pursuit.pipeline.maxAttempts)
    (completed : run.status = .completed) :
    pursuit.LeadsTo run (.ok run)
      (pipeline.phaseWith pursuit.assumesYes run) := by
  have notPaused : run.status ≠ .pausedAtCheckpoint := by simp [completed]
  simp only [Pipeline.phaseWith, completed]
  split
  · exact .rest notPaused
  next failed =>
  split
  · exact .rest notPaused
  next left =>
  split
  · exact .rest notPaused
  next asks =>
    rw [sameLimit] at left
    refine .invalid completed ?_ (UInt32.not_le.mp left) (by simpa using asks)
    simpa [Option.isNone_iff_eq_none, Option.isSome_iff_ne_none] using failed

/-- Every end of an operation that drives a run leads to one of four phases. -/
theorem leadsTo_phaseAfter
    (concludes : pursuit.pipeline.Concludes happening tokens run events
      result) {pipeline : Pipeline σ}
    (sameLimit : pipeline.maxAttempts = pursuit.pipeline.maxAttempts)
    {operation : RunOperation}
    (drives : operation ≠ .settlePendingCancel) :
    pursuit.LeadsTo run result
      (pipeline.phaseAfter pursuit.assumesYes operation (some result)) := by
  have driven : ∀ run, pipeline.phaseAfter pursuit.assumesYes operation
      (some (.ok run)) = pipeline.phaseWith pursuit.assumesYes run := by
    intro run
    cases operation with
    | settlePendingCancel => exact absurd rfl drives
    | start | continueRun | regenerate => rfl
  cases concludes with
  | fail _ _ _ _ isFailure =>
      subst isFailure
      exact .fail
  | cancel =>
      rw [driven]
      exact .rest (by simp)
  | pause waiting _ _ _ isReason _ isPaused =>
      subst isPaused
      rw [driven]
      exact .pause waiting isReason rfl
  | complete _ _ _ _ _ isCompleted =>
      subst isCompleted
      rw [driven]
      exact leadsTo_of_completed sameLimit rfl

end Conclude

/-! ## What comes of an event -/

/-- The pipeline takes a turn that the user has no part in. -/
def meanwhile (pursuit : Pursuit σ) (turn : Turn σ) : PursuitStep σ where
  called := none
  turn
  phase := match pursuit.phase with
    | .working operation =>
        turn.pipeline.phaseAfter pursuit.assumesYes operation turn.result
    | .asking question run => .asking question run
    | .ended ending => .ended ending

theorem isMeanwhile_of_occurrence {event : PursuitEvent}
    {occurrence : Occurrence}
    (occurs : event.occurrence? = some occurrence) :
    (Happening.occurrence occurrence : Happening σ).isMeanwhile = true := by
  cases event with
  | answer => cases occurs
  | fire | notice | reply =>
      cases occurs
      rfl

/-- Until an operation returns the phase stays. -/
theorem meanwhile_of_none {turn : Turn σ} (goesOn : turn.result = none) :
    pursuit.meanwhile turn = ⟨none, turn, pursuit.phase⟩ := by
  unfold meanwhile
  cases pursuit.phase with
  | working => simp only [goesOn, Pipeline.phaseAfter]
  | asking | ended => rfl

variable [KeyValueStore σ]

/-- The pursuit once the run has been started. -/
def begin (pipeline : Pipeline σ) (assumesYes : Bool) (request : RunRequest)
    (registry : ModelRegistry) : Pursuit σ :=
  let turn := pipeline.start request registry
  ⟨turn.pipeline, assumesYes,
    turn.pipeline.phaseAfter assumesYes .start turn.result⟩

/-- The user answers the question about a run that is open. -/
def answer (pursuit : Pursuit σ) (yes : Bool) (question : RunQuestion)
    (run : Run) : PursuitStep σ :=
  match pursuit.pipeline.operationFor (pursuit.assumesYes || yes) question with
  | some (operation, turn) =>
      ⟨some operation, turn, turn.pipeline.phaseAfter pursuit.assumesYes
        operation turn.result⟩
  | none =>
      ⟨none, pursuit.pipeline.idle, .ended (.left run question.remark)⟩

def step (pursuit : Pursuit σ) : PursuitEvent → PursuitStep σ
  | .answer yes =>
      match pursuit.phase with
      | .asking question run => pursuit.answer yes question run
      | .working operation =>
          ⟨none, pursuit.pipeline.idle, .working operation⟩
      | .ended ending => ⟨none, pursuit.pipeline.idle, .ended ending⟩
  | .fire reason => pursuit.meanwhile (pursuit.pipeline.occur (.fire reason))
  | .notice => pursuit.meanwhile (pursuit.pipeline.occur .notice)
  | .reply outcome milliseconds =>
      pursuit.meanwhile (pursuit.pipeline.occur (.reply outcome milliseconds))

def next (pursuit : Pursuit σ) (event : PursuitEvent) : Pursuit σ :=
  let step := pursuit.step event
  ⟨step.turn.pipeline, pursuit.assumesYes, step.phase⟩

/-- The pursuit when all of this has happened. -/
def after (pursuit : Pursuit σ) (events : List PursuitEvent) : Pursuit σ :=
  events.foldl next pursuit

@[simp]
theorem after_nil (pursuit : Pursuit σ) : pursuit.after [] = pursuit := rfl

@[simp]
theorem after_cons (pursuit : Pursuit σ) (event : PursuitEvent)
    (later : List PursuitEvent) :
    pursuit.after (event :: later) = (pursuit.next event).after later := rfl

theorem after_append (pursuit : Pursuit σ) (events later : List PursuitEvent) :
    pursuit.after (events ++ later) = (pursuit.after events).after later :=
  List.foldl_append

theorem after_assumesYes (pursuit : Pursuit σ) (events : List PursuitEvent) :
    (pursuit.after events).assumesYes = pursuit.assumesYes := by
  induction events generalizing pursuit with
  | nil => rfl
  | cons event later ih => exact ih (pursuit.next event)

/-- What the single events show while all of this happens, in order. -/
def along {α : Type} (shown : Pursuit σ → PursuitEvent → List α)
    (pursuit : Pursuit σ) : List PursuitEvent → List α
  | [] => []
  | event :: later =>
      shown pursuit event ++ (pursuit.next event).along shown later

theorem along_append {α : Type} (shown : Pursuit σ → PursuitEvent → List α)
    (pursuit : Pursuit σ) (events later : List PursuitEvent) :
    pursuit.along shown (events ++ later) =
      pursuit.along shown events ++
        (pursuit.after events).along shown later := by
  induction events generalizing pursuit with
  | nil => rfl
  | cons event rest ih =>
      rw [List.cons_append, along, ih, ← List.append_assoc]
      rfl

theorem along_concat {α : Type} (shown : Pursuit σ → PursuitEvent → List α)
    (pursuit : Pursuit σ) (events : List PursuitEvent) (event : PursuitEvent) :
    pursuit.along shown (events ++ [event]) =
      pursuit.along shown events ++ shown (pursuit.after events) event := by
  rw [along_append, along, along, List.append_nil]

/-- What an event leads to.  None of the operations is refused that an answer
leads to. -/
inductive Goes (pursuit : Pursuit σ) : PursuitEvent → PursuitStep σ → Prop
  | fire (reason : String) :
      pursuit.Goes (.fire reason) ⟨none,
        (pursuit.pipeline.withTokens
          (pursuit.pipeline.cancellation.cancel reason)).idle,
        pursuit.phase⟩
  | stay {event : PursuitEvent}
      (notAwaited : pursuit.phase.awaits event = false) :
      pursuit.Goes event ⟨none, pursuit.pipeline.idle, pursuit.phase⟩
  | advance {operation : RunOperation} {base : Pipeline σ} {run : Run}
      {token : TokenId} {input : StageInput} {events : List Event}
      {outcome : Except ServiceError Json} {milliseconds : UInt64}
      (isPhase : pursuit.phase = .working operation)
      (dispatches : pursuit.pipeline.Dispatches
        (.occurrence (.reply outcome milliseconds)) base run token input
        events) :
      pursuit.Goes (.reply outcome milliseconds) ⟨none,
        (base.dispatch run token input).afterEvents events,
        .working operation⟩
  | conclude {operation : RunOperation} {event : PursuitEvent}
      {happening : Happening σ} {tokens : CancelGroup} {run : Run}
      {events : List Event} {result : Except PipelineError Run}
      {phase : PursuitPhase}
      (isPhase : pursuit.phase = .working operation)
      (concludes : pursuit.pipeline.Concludes happening tokens run events
        result)
      (leads : pursuit.LeadsTo run result phase) :
      pursuit.Goes event ⟨none,
        ((pursuit.pipeline.withTokens tokens).conclude run
          result).afterEvents events,
        phase⟩
  | settle {yes : Bool} {run : Run} {reason : String}
      (isPhase : pursuit.phase = .asking .proceed run)
      (concludes : pursuit.pipeline.Concludes
        (.occurrence .settlePendingCancel) pursuit.pipeline.cancellation
        (run.cancel reason).1 (run.cancel reason).2
        (.ok (run.cancel reason).1)) :
      pursuit.Goes (.answer yes) ⟨some .settlePendingCancel,
        pursuit.pipeline.concludeCancelled run reason,
        .ended (.left (run.cancel reason).1 none)⟩
  | continueRun {yes : Bool} {paused : Run} {base : Pipeline σ} {run : Run}
      {token : TokenId} {input : StageInput} {events : List Event}
      (isPhase : pursuit.phase = .asking .proceed paused)
      (dispatches : pursuit.pipeline.Dispatches (.occurrence .continueRun)
        base run token input events) :
      pursuit.Goes (.answer yes) ⟨some .continueRun,
        (base.dispatch run token input).afterEvents events,
        .working .continueRun⟩
  | regenerate {invalid : Run} {base : Pipeline σ} {run : Run}
      {token : TokenId} {input : StageInput} {events : List Event}
      (isPhase : pursuit.phase = .asking .regenerate invalid)
      (dispatches : pursuit.pipeline.Dispatches (.occurrence .regenerate)
        base run token input events) :
      pursuit.Goes (.answer true) ⟨some .regenerate,
        (base.dispatch run token input).afterEvents events,
        .working .regenerate⟩
  | leave {question : RunQuestion} {run : Run}
      (isPhase : pursuit.phase = .asking question run)
      (asks : pursuit.assumesYes = false)
      (nothingPending : question = .proceed →
        pursuit.pipeline.cancellation.pending? = none) :
      pursuit.Goes (.answer false) ⟨none, pursuit.pipeline.idle,
        .ended (.left run question.remark)⟩

/-! ## Every event -/

theorem step_of_occurrence {event : PursuitEvent} {occurrence : Occurrence}
    (occurs : event.occurrence? = some occurrence) (pursuit : Pursuit σ) :
    pursuit.step event =
      pursuit.meanwhile (pursuit.pipeline.occur occurrence) := by
  cases event with
  | answer => cases occurs
  | fire | notice | reply =>
      cases occurs
      rfl

theorem goes_of_passes {event : PursuitEvent} {occurrence : Occurrence}
    (occurs : event.occurrence? = some occurrence) {next : Pipeline σ}
    (passes : pursuit.pipeline.Passes (.occurrence occurrence) next)
    (waits : ∀ operation, pursuit.phase = .working operation →
      pursuit.pipeline.awaited.isSome) :
    pursuit.Goes event ⟨none, next.idle, pursuit.phase⟩ := by
  cases event with
  | answer => cases occurs
  | fire reason =>
      cases occurs
      cases passes with
      | busy _ isOperation => cases isOperation
      | fire => exact .fire reason
  | notice =>
      cases occurs
      cases passes with
      | busy _ isOperation => cases isOperation
      | notice => exact .stay (by cases pursuit.phase <;> rfl)
  | reply outcome milliseconds =>
      cases occurs
      cases passes with
      | busy _ isOperation => cases isOperation
      | reply free =>
          refine .stay ?_
          cases phase : pursuit.phase with
          | working operation => simpa [free] using waits operation phase
          | asking | ended => rfl

/-- While an operation waits it goes on to the next call, or it returns. -/
theorem goes_of_waiting (shaped : pursuit.pipeline.IsShaped)
    {operation : RunOperation} (isPhase : pursuit.phase = .working operation)
    (drives : operation ≠ .settlePendingCancel) {call : AwaitedCall}
    (waiting : pursuit.pipeline.awaited = some call) {event : PursuitEvent}
    {occurrence : Occurrence}
    (occurs : event.occurrence? = some occurrence) :
    pursuit.Goes event
      (pursuit.meanwhile (pursuit.pipeline.occur occurrence)) := by
  have takes := Pipeline.takes_happen shaped (.occurrence occurrence)
  change pursuit.pipeline.Takes _ (pursuit.pipeline.occur occurrence) at takes
  generalize pursuit.pipeline.occur occurrence = turn at takes ⊢
  cases takes with
  | refuse free => simp [free] at waiting
  | pass passes =>
      rw [meanwhile_of_none rfl]
      exact goes_of_passes occurs passes fun _ _ =>
        Option.isSome_of_eq_some waiting
  | dispatch dispatches =>
      rw [meanwhile_of_none rfl, isPhase]
      cases event with
      | answer => cases occurs
      | fire | notice =>
          cases occurs
          cases dispatches
      | reply outcome milliseconds =>
          cases occurs
          exact .advance isPhase dispatches
  | conclude concludes =>
      have leads := leadsTo_phaseAfter concludes rfl drives
      simp only [meanwhile, isPhase]
      exact .conclude isPhase concludes leads

/-- Where no operation waits the user is to act. -/
theorem goes_of_free (shaped : pursuit.pipeline.IsShaped)
    (free : pursuit.pipeline.awaited = none)
    (notWorking : ∀ operation, pursuit.phase ≠ .working operation)
    {event : PursuitEvent} {occurrence : Occurrence}
    (occurs : event.occurrence? = some occurrence) :
    pursuit.Goes event
      (pursuit.meanwhile (pursuit.pipeline.occur occurrence)) := by
  have takes := Pipeline.takes_happen shaped (.occurrence occurrence)
  have isMeanwhile := isMeanwhile_of_occurrence (σ := σ) occurs
  obtain ⟨next, passes, isTurn⟩ := takes.passes_of_free isMeanwhile free
  change pursuit.pipeline.occur occurrence = next.idle at isTurn
  rw [isTurn, meanwhile_of_none rfl]
  exact goes_of_passes occurs passes fun operation isPhase =>
    absurd isPhase (notWorking operation)

/-! ## Answers -/

/-- At the checkpoint a pending cancellation comes first; otherwise the run is
continued, or the user declines. -/
theorem goes_answer_proceed (shaped : pursuit.pipeline.IsShaped) {run : Run}
    (isPhase : pursuit.phase = .asking .proceed run)
    (free : pursuit.pipeline.awaited = none)
    (current : pursuit.pipeline.run = some run)
    (paused : run.status = .pausedAtCheckpoint) (yes : Bool) :
    pursuit.Goes (.answer yes) (pursuit.answer yes .proceed run) := by
  have isLive : run.isLive = true := by
    simp [Run.isLive, paused, RunStatus.isTerminal]
  cases pending : pursuit.pipeline.cancellation.pending? with
  | some reason =>
      have settles : pursuit.pipeline.settlePendingCancel =
          some (pursuit.pipeline.concludeCancelled run reason) := by
        simp [Pipeline.settlePendingCancel, pending, current, isLive]
      simp only [answer, Pipeline.operationFor, settles]
      exact .settle isPhase (Pipeline.concludes_cancel shaped current isLive
        (.pending free pending))
  | none =>
      have settles : pursuit.pipeline.settlePendingCancel = none := by
        simp [Pipeline.settlePendingCancel, pending]
      simp only [answer, Pipeline.operationFor, settles]
      cases goesOn : pursuit.assumesYes || yes with
      | false =>
          obtain ⟨asks, rfl⟩ := Bool.or_eq_false_iff.mp goesOn
          exact .leave isPhase asks fun _ => pending
      | true =>
          have takes := Pipeline.continueRun_takes shaped free
          obtain ⟨token, hasToken⟩ := Option.isSome_iff_exists.mp
            (shaped.hasToken (Option.isSome_of_eq_some current))
          have isOpen : pursuit.pipeline.cancellation.isCancelled token =
              false := by
            simp [CancelGroup.isCancelled,
              CancelGroup.reason?_eq_pending? hasToken, pending]
          obtain ⟨_, _, _, _, _, accepted⟩ :=
            (Pipeline.continueRun_dispatches_iff shaped free).mpr
              ⟨run, token, current, paused, hasToken, isOpen⟩
          obtain ⟨_, _, _, _, _, dispatches, isTurn⟩ :=
            accepted.takes rfl takes
          simp only [if_true, isTurn]
          exact .continueRun isPhase dispatches

theorem goes_answer_regenerate (shaped : pursuit.pipeline.IsShaped)
    {run : Run} (isPhase : pursuit.phase = .asking .regenerate run)
    (free : pursuit.pipeline.awaited = none)
    (current : pursuit.pipeline.run = some run)
    (completed : run.status = .completed)
    (failed : run.validationFailure.isSome)
    (left : run.attempt < pursuit.pipeline.maxAttempts)
    (asks : pursuit.assumesYes = false) (yes : Bool) :
    pursuit.Goes (.answer yes) (pursuit.answer yes .regenerate run) := by
  simp only [answer, Pipeline.operationFor, asks, Bool.false_or]
  cases yes with
  | false => exact .leave isPhase asks (by simp)
  | true =>
      have takes := Pipeline.regenerate_takes shaped free
      obtain ⟨_, _, _, _, _, accepted⟩ :=
        (Pipeline.regenerate_dispatches_iff shaped free).mpr
          ⟨run, current, completed, failed, left⟩
      obtain ⟨_, _, _, _, _, dispatches, isTurn⟩ := accepted.takes rfl takes
      simp only [if_true, isTurn]
      exact .regenerate isPhase dispatches

/-- Whatever happens in the pursuit of a run, it leads to what is described. -/
theorem goes_step (steady : pursuit.IsSteady) (event : PursuitEvent) :
    pursuit.Goes event (pursuit.step event) := by
  obtain ⟨shaped, fits⟩ := steady
  cases occurs : event.occurrence? with
  | some occurrence =>
      rw [step_of_occurrence occurs]
      cases fits with
      | working isPhase drives waiting =>
          exact goes_of_waiting shaped isPhase drives waiting occurs
      | paused isPhase free | invalid isPhase free | ended isPhase free =>
          exact goes_of_free shaped free (by simp [isPhase]) occurs
  | none =>
      cases event with
      | fire | notice | reply => cases occurs
      | answer yes =>
          cases fits with
          | working isPhase | ended isPhase =>
              simp only [step, isPhase]
              rw [← isPhase]
              exact .stay (by rw [isPhase]; rfl)
          | paused isPhase free current paused =>
              simp only [step, isPhase]
              exact goes_answer_proceed shaped isPhase free current paused yes
          | invalid isPhase free current completed failed left asks =>
              simp only [step, isPhase]
              exact goes_answer_regenerate shaped isPhase free current
                completed failed left asks yes

theorem Goes.fits {event : PursuitEvent} {step : PursuitStep σ}
    (goes : pursuit.Goes event step) (steady : pursuit.IsSteady) :
    Fits ⟨step.turn.pipeline, pursuit.assumesYes, step.phase⟩ := by
  obtain ⟨_, fits⟩ := steady
  cases goes with
  | fire reason => exact fits.of_tokens (CancelGroup.current?_cancel _ _)
  | stay => exact fits
  | advance isPhase dispatches =>
      have token := current?_of_dispatches fits dispatches
      cases fits with
      | working isWorking drives =>
          obtain rfl := PursuitPhase.working.inj (isPhase.symm.trans isWorking)
          exact .working rfl drives rfl token
      | paused isAsking | invalid isAsking | ended isAsking =>
          cases isPhase.symm.trans isAsking
  | conclude _ _ leads =>
      cases leads with
      | fail | rest => exact .ended rfl rfl (by simp)
      | pause _ _ paused => exact .paused rfl rfl rfl paused
      | invalid completed failed left asks =>
          exact .invalid rfl rfl rfl completed failed left asks
  | settle => exact .ended rfl rfl (by simp)
  | continueRun _ dispatches | regenerate _ dispatches =>
      have token := current?_of_dispatches fits dispatches
      exact .working rfl (by simp) rfl token
  | leave isPhase =>
      cases fits with
      | working isWorking | ended isWorking =>
          cases isPhase.symm.trans isWorking
      | paused _ free | invalid _ free => exact .ended rfl free (by simp)

theorem Goes.isShaped {event : PursuitEvent} {step : PursuitStep σ}
    (goes : pursuit.Goes event step) (shaped : pursuit.pipeline.IsShaped) :
    step.turn.pipeline.IsShaped := by
  cases goes with
  | fire reason => exact (Pipeline.Passes.fire reason).isShaped shaped
  | stay | leave => exact shaped
  | advance _ dispatches | continueRun _ dispatches
  | regenerate _ dispatches =>
      exact (Pipeline.Takes.dispatch dispatches).isShaped shaped
  | conclude _ concludes | settle _ concludes =>
      exact (Pipeline.Takes.conclude concludes).isShaped shaped

theorem IsSteady.next (steady : pursuit.IsSteady) (event : PursuitEvent) :
    (pursuit.next event).IsSteady :=
  ⟨(goes_step steady event).isShaped steady.shaped,
    (goes_step steady event).fits steady⟩

section Begin

variable (history : History σ) (supply : Supply) (maxAttempts : UInt32)
  (assumesYes : Bool) (request : RunRequest) (registry : ModelRegistry)

/-- A run that is started on a new pipeline is refused, or its first call is
dispatched. -/
theorem start_new :
    let fresh : Pipeline σ := .new history supply maxAttempts
    (∃ error, fresh.start request registry = fresh.refuse error) ∨
      fresh.start request registry =
        ((fresh.prepared request registry).dispatch
          (fresh.runOf request registry) fresh.cancellation.issue.2
          (.parse request.inputText)).afterEvents
            [.runStarted fresh.supply.nextId.1 1] := by
  intro fresh
  have takes := Pipeline.start_takes (rfl : fresh.awaited = none) request
    registry
  generalize fresh.start request registry = turn at takes
  cases takes with
  | refuse => exact .inl ⟨_, rfl⟩
  | dispatch dispatches =>
      cases dispatches with
      | start => exact .inr rfl
  | pass passes =>
      cases passes with
      | busy waiting => cases waiting
  | conclude concludes =>
      cases concludes with
      | cancel current => cases current

theorem begin_isSteady :
    (begin (.new history supply maxAttempts) assumesYes request
      registry).IsSteady := by
  have shaped : (Pipeline.new history supply maxAttempts).IsShaped :=
    Pipeline.new_isShaped history supply maxAttempts
  have free : (Pipeline.new history supply maxAttempts).awaited = none := rfl
  refine ⟨(Pipeline.start_takes free request registry).isShaped shaped, ?_⟩
  rcases start_new history supply maxAttempts request registry with
    ⟨error, isTurn⟩ | isTurn
  · simp only [begin, isTurn]
    exact .ended rfl rfl (by simp)
  · simp only [begin, isTurn]
    exact .working rfl (by simp) rfl (CancelGroup.current?_issue _)

end Begin

/-- Whatever happens to a pursuit keeps it steady. -/
theorem IsSteady.after {pursuit : Pursuit σ} (steady : pursuit.IsSteady)
    (events : List PursuitEvent) : (pursuit.after events).IsSteady := by
  induction events generalizing pursuit with
  | nil => exact steady
  | cons event later ih => exact ih (steady.next event)

end Pursuit

end AgentPipeline
