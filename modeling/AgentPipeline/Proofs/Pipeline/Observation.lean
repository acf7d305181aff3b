import AgentPipeline.Proofs.Pipeline.Snapshot

/-!
# What an observer of events knows

An observer sees the events of a pipeline and nothing else.  From the events
that are about the current run it can tell the status of the run, its attempt
and the states of its stages; and the events of an operation that returns
close with the end of the run and its snapshot.
Main statements: `isObserved_through`, `observed_through`.
-/

namespace AgentPipeline

/-- What an observer knows about a run. -/
structure RunView where
  status : RunStatus
  attempt : UInt32
  states : PerStage StageState
deriving DecidableEq

def Run.view (run : Run) : RunView := ⟨run.status, run.attempt, run.states⟩

namespace Event

/-- The run of the pipeline that an event is about. -/
def run? : Event → Option Uuid
  | .runStarted run _ | .stageStarted run _ | .stageCompleted run _ _
  | .stageFailed run _ _ | .stageCancelled run _ | .checkpointReached run
  | .runCompleted run _ _ | .runFailed run _ | .runCancelled run _ => some run
  | .historyRecorded .. | .evaluatorStarted .. | .pollTick ..
  | .evaluatorStatusChanged .. | .evaluatorResumed _ | .protocolViolation _
  | .registryMirrorFailed .. => none

/-- The run that comes to rest with an event, and its status then. -/
def ending? : Event → Option (Uuid × RunStatus)
  | .checkpointReached run => some (run, .pausedAtCheckpoint)
  | .runCompleted run _ _ => some (run, .completed)
  | .runFailed run _ => some (run, .failed)
  | .runCancelled run _ => some (run, .cancelled)
  | _ => none

def isFailure : Event → Bool
  | .stageFailed .. | .runFailed .. => true
  | _ => false

/-- A run begins, or one of its stages begins or completes. -/
def isProgress : Event → Bool
  | .runStarted .. | .stageStarted .. | .stageCompleted .. => true
  | _ => false

theorem of_isProgress {event : Event} (progress : event.isProgress = true) :
    event.ending? = none ∧ event.isFailure = false := by
  cases event <;> first | exact ⟨rfl, rfl⟩ | cases progress

end Event

namespace RunView

def new : RunView := ⟨.running, 1, .all .idle⟩

/-- A further attempt begins. -/
def reopen (view : RunView) (attempt : UInt32) : RunView where
  status := .running
  attempt
  states := { view.states with generate := .idle, validate := .idle }

def place (view : RunView) (stage : Stage) (state : StageState) : RunView :=
  { view with states := view.states.set stage state }

/-- The run is cancelled, and with it the stages that have not begun. -/
def stop (view : RunView) : RunView :=
  { view with
    status := .cancelled
    states := PerStage.ofFunction fun stage =>
      if view.states.get stage = .idle then .cancelled
      else view.states.get stage }

/-- What an observer makes of an event about the run. -/
def see (known : Option RunView) : Event → Option RunView
  | .runStarted _ attempt =>
      if attempt = 1 then some .new else known.map (·.reopen attempt)
  | .stageStarted _ stage => known.map fun view =>
      { view.place stage .processing with status := .running }
  | .stageCompleted _ stage _ => known.map (·.place stage .completed)
  | .stageFailed _ stage _ => known.map (·.place stage .error)
  | .stageCancelled _ stage => known.map (·.place stage .cancelled)
  | .checkpointReached _ =>
      known.map fun view => { view with status := .pausedAtCheckpoint }
  | .runCompleted .. =>
      known.map fun view => { view with status := .completed }
  | .runFailed .. => known.map fun view => { view with status := .failed }
  | .runCancelled .. => known.map stop
  | _ => known

/-- What is known after those of some events that are about a run. -/
def seeAll (run : Uuid) (known : Option RunView) (events : List Event) :
    Option RunView :=
  (events.filter fun event => event.run? = some run).foldl see known

@[simp]
theorem seeAll_nil (run : Uuid) (known : Option RunView) :
    seeAll run known [] = known := rfl

theorem seeAll_append (run : Uuid) (known : Option RunView)
    (first second : List Event) :
    seeAll run known (first ++ second) =
      seeAll run (seeAll run known first) second := by
  simp [seeAll]

theorem seeAll_cons {run : Uuid} {event : Event} (about : event.run? = some run)
    (known : Option RunView) (later : List Event) :
    seeAll run known (event :: later) = seeAll run (see known event) later := by
  simp [seeAll, about]

theorem seeAll_cons_of_none {run : Uuid} {event : Event}
    (about : event.run? = none) (known : Option RunView)
    (later : List Event) :
    seeAll run known (event :: later) = seeAll run known later := by
  simp [seeAll, about]

/-- Stages are cancelled one after another. -/
theorem seeAll_stageCancelled (run : Uuid) (stages : List Stage)
    (view : RunView) :
    seeAll run (some view) (stages.map (.stageCancelled run)) =
      some { view with states := PerStage.ofFunction fun stage =>
        if stage ∈ stages then .cancelled else view.states.get stage } := by
  induction stages generalizing view with
  | nil =>
      have same : view.states = PerStage.ofFunction view.states.get := by
        ext stage
        simp
      simp [← same]
  | cons first rest ih =>
      rw [List.map_cons, seeAll_cons rfl]
      simp only [see, Option.map_some]
      rw [ih]
      congr 2
      ext stage
      by_cases isFirst : stage = first
      · simp [place, isFirst]
      · simp [place, isFirst]

end RunView

/-- A further attempt within a limit has a number, and not that of the first. -/
theorem next_attempt {attempt limit : UInt32} (left : attempt < limit) :
    0 < attempt + 1 ∧ (0 < attempt → attempt + 1 ≠ 1) := by
  have bound := limit.toNat_lt
  rw [UInt32.lt_iff_toNat_lt] at left
  have next : (attempt + 1).toNat = attempt.toNat + 1 := by
    rw [UInt32.toNat_add, UInt32.toNat_one]
    omega
  constructor
  · rw [UInt32.lt_iff_toNat_lt, next]
    exact Nat.zero_lt_succ _
  · intro positive isFirst
    rw [UInt32.lt_iff_toNat_lt, UInt32.toNat_zero] at positive
    rw [isFirst, UInt32.toNat_one] at next
    omega

namespace Run

/-- An observer who knows the run sees how it is cancelled. -/
theorem seeAll_cancel (run : Run) (reason : String) :
    RunView.seeAll run.id (some run.view) (run.cancel reason).2 =
      some (run.cancel reason).1.view := by
  have stopped : ∀ stage, (run.cancel reason).1.states.get stage =
      if run.isOpen stage then .cancelled else run.states.get stage := by
    intro stage
    simp [cancel, cancelOpenStages]
  unfold cancel cancelOpenStages
  dsimp only
  rw [RunView.seeAll_append, RunView.seeAll_stageCancelled,
    RunView.seeAll_cons rfl]
  simp only [RunView.see, RunView.stop, Option.map_some, RunView.seeAll_nil]
  congr 2
  ext stage
  cases state : run.states.get stage <;>
    simp [view, state, Run.isOpen, StageState.canMoveTo, Stage.mem_all]

/-- The events close with the end of the run and with its snapshot. -/
structure ClosesWith (run : Run) (events front : List Event) (ending : Event)
    (item : Uuid) : Prop where
  isSplit : events = front ++ [ending, .historyRecorded item run.status]
  isEnding : ending.ending? = some (run.id, run.status)
  single : ∀ event ∈ front, event.ending? = none
  notFailed : run.status = .cancelled →
    ∀ event ∈ events, event.isFailure = false

def Closes (run : Run) (events : List Event) : Prop :=
  ∃ front ending item, run.ClosesWith events front ending item

theorem closes_of_pair {run : Run} {first ending : Event}
    (isEnding : ending.ending? = some (run.id, run.status))
    (single : first.ending? = none) (notCancelled : run.status ≠ .cancelled)
    (item : Uuid) :
    run.Closes ([first, ending] ++ [.historyRecorded item run.status]) := by
  refine ⟨[first], ending, item, rfl, isEnding, ?_, ?_⟩
  · intro event isEvent
    obtain rfl := List.mem_singleton.mp isEvent
    exact single
  · intro cancelled
    exact absurd cancelled notCancelled

theorem closes_cancel (run : Run) (reason : String) (item : Uuid) :
    (run.cancel reason).1.Closes
      ((run.cancel reason).2 ++ [.historyRecorded item .cancelled]) := by
  have isStage : ∀ event ∈ run.cancelOpenStages.2.1,
      ∃ stage, event = .stageCancelled run.id stage := by
    intro event isEvent
    obtain ⟨stage, -, rfl⟩ := List.mem_map.mp isEvent
    exact ⟨stage, rfl⟩
  refine ⟨run.cancelOpenStages.2.1, .runCancelled run.id reason, item, ?_,
    rfl, ?_, ?_⟩
  · exact List.append_assoc _ _ _
  · intro event isEvent
    obtain ⟨stage, rfl⟩ := isStage event isEvent
    rfl
  · intro _ event isEvent
    rw [show (run.cancel reason).2 = run.cancelOpenStages.2.1 ++
      [.runCancelled run.id reason] from rfl, List.mem_append,
      List.mem_append, List.mem_singleton, List.mem_singleton] at isEvent
    rcases isEvent with (isEvent | rfl) | rfl
    · obtain ⟨stage, rfl⟩ := isStage event isEvent
      rfl
    · rfl
    · rfl

/-- Progress may come before. -/
theorem Closes.of_isProgress {run : Run} {before events : List Event}
    (closes : run.Closes events)
    (progress : ∀ event ∈ before, event.isProgress = true) :
    run.Closes (before ++ events) := by
  obtain ⟨front, ending, item, closing⟩ := closes
  refine ⟨before ++ front, ending, item, ?_, closing.isEnding, ?_, ?_⟩
  · rw [closing.isSplit, List.append_assoc]
  · intro event isEvent
    rcases List.mem_append.mp isEvent with isBefore | isFront
    · exact (Event.of_isProgress (progress event isBefore)).1
    · exact closing.single event isFront
  · intro cancelled event isEvent
    rcases List.mem_append.mp isEvent with isBefore | isLater
    · exact (Event.of_isProgress (progress event isBefore)).2
    · exact closing.notFailed cancelled event isLater

end Run

namespace Pipeline

variable {σ : Type} [KeyValueStore σ]

/-- All that an observer is told, in order. -/
def eventsThrough (pipeline : Pipeline σ)
    (happenings : List (Happening σ)) : List Event :=
  (pipeline.turnsThrough happenings).flatMap Turn.events

theorem eventsThrough_cons (pipeline : Pipeline σ)
    (happening : Happening σ) (later : List (Happening σ)) :
    pipeline.eventsThrough (happening :: later) =
      (pipeline.happen happening).events ++
        (pipeline.happen happening).pipeline.eventsThrough later := rfl

/-! ## The run as it is seen -/

/-- Who was told all of this sees the current run as it is. -/
def IsObserved (pipeline : Pipeline σ) (told : List Event) : Prop :=
  ∀ run, pipeline.run = some run →
    0 < run.attempt ∧ RunView.seeAll run.id none told = some run.view

omit [KeyValueStore σ] in
theorem Passes.run
    {pipeline next : Pipeline σ} {happening : Happening σ}
    (passes : pipeline.Passes happening next) :
    next.run = pipeline.run ∨ next.run = none := by
  cases passes with
  | discard => exact .inr rfl
  | _ => exact .inl rfl

omit [KeyValueStore σ] in
/-- Before its call is dispatched, the run for which it is is seen as it is,
except perhaps that it still seems to be paused. -/
theorem Dispatches.isObserved
    {pipeline base : Pipeline σ} {happening : Happening σ} {run : Run}
    {token : TokenId} {input : StageInput} {events told : List Event}
    (dispatches : pipeline.Dispatches happening base run token input events)
    (observed : pipeline.IsObserved told) :
    0 < run.attempt ∧ ∃ status, RunView.seeAll run.id none (told ++ events) =
      some { run.view with status } := by
  rw [RunView.seeAll_append]
  cases dispatches with
  | start =>
      refine ⟨by simp [runOf, Run.new], .running, ?_⟩
      rw [RunView.seeAll_cons rfl]
      rfl
  | continueRun _ current _ _ paused =>
      obtain ⟨positive, seen⟩ := observed _ current
      exact ⟨positive, _, seen⟩
  | @regenerate run _ _ _ _ _ current _ _ _ _ _ _ _ left =>
      obtain ⟨positive, seen⟩ := observed _ current
      obtain ⟨nextPositive, notFirst⟩ := next_attempt left
      refine ⟨nextPositive, .running, ?_⟩
      change RunView.seeAll run.id (RunView.seeAll run.id none told) _ = _
      rw [seen, RunView.seeAll_cons rfl]
      simp only [RunView.see, if_neg (notFirst positive)]
      rfl
  | @reply _ run _ _ _ _ current =>
      obtain ⟨positive, seen⟩ := observed _ current
      refine ⟨positive, run.status, ?_⟩
      change RunView.seeAll run.id (RunView.seeAll run.id none told) _ = _
      rw [seen, RunView.seeAll_cons rfl]
      rfl

omit [KeyValueStore σ] in
theorem Concludes.isObserved
    {pipeline : Pipeline σ} {happening : Happening σ} {tokens : CancelGroup}
    {run : Run} {events told : List Event}
    {result : Except PipelineError Run}
    (concludes : pipeline.Concludes happening tokens run events result)
    (observed : pipeline.IsObserved told) :
    0 < run.attempt ∧
      RunView.seeAll run.id none (told ++ events) = some run.view := by
  rw [RunView.seeAll_append]
  cases concludes with
  | @cancel _ _ run reason _ _ current =>
      obtain ⟨positive, seen⟩ := observed _ current
      refine ⟨positive, ?_⟩
      rw [Run.cancel_id, seen, Run.seeAll_cancel]
  | @fail _ run _ _ _ _ current =>
      obtain ⟨positive, seen⟩ := observed _ current
      refine ⟨positive, ?_⟩
      change RunView.seeAll run.id (RunView.seeAll run.id none told) _ = _
      rw [seen, RunView.seeAll_cons rfl, RunView.seeAll_cons rfl]
      rfl
  | @pause _ run _ _ _ _ current _ _ _ _ isEnd
  | @complete _ run _ _ _ _ current _ _ _ isEnd =>
      obtain ⟨positive, seen⟩ := observed _ current
      subst isEnd
      refine ⟨positive, ?_⟩
      change RunView.seeAll run.id (RunView.seeAll run.id none told) _ = _
      rw [seen, RunView.seeAll_cons rfl, RunView.seeAll_cons rfl]
      rfl

/-- Whoever sees the run as it is sees it so after every turn. -/
theorem Takes.isObserved
    {pipeline : Pipeline σ} {happening : Happening σ} {turn : Turn σ}
    (takes : pipeline.Takes happening turn) {told : List Event}
    (observed : pipeline.IsObserved told) :
    turn.pipeline.IsObserved (told ++ turn.events) := by
  intro run current
  cases takes with
  | pass passes =>
      rw [show Turn.events _ = [] from rfl, List.append_nil]
      rcases passes.run with same | none
      · exact observed run (same.symm.trans current)
      · cases none.symm.trans current
  | refuse =>
      rw [show Turn.events _ = [] from rfl, List.append_nil]
      exact observed run current
  | @dispatch _ base started token input events dispatches =>
      obtain ⟨positive, status, seen⟩ := dispatches.isObserved observed
      have running := dispatches.isReady.running
      cases current
      refine ⟨positive, ?_⟩
      rw [Turn.events_afterEvents, ← List.append_assoc,
        RunView.seeAll_append]
      change RunView.seeAll started.id (RunView.seeAll started.id none _)
        [.stageStarted started.id input.stage] = _
      rw [seen, RunView.seeAll_cons rfl]
      simp [RunView.see, RunView.place, Run.view, Run.begun, running]
  | @conclude _ tokens ended events result concludes =>
      obtain ⟨positive, seen⟩ := concludes.isObserved observed
      cases current
      refine ⟨positive, ?_⟩
      rw [Turn.events_afterEvents, ← List.append_assoc,
        RunView.seeAll_append, seen]
      exact RunView.seeAll_cons_of_none rfl _ _

theorem isObserved_through
    {pipeline : Pipeline σ} (shaped : pipeline.IsShaped) {told : List Event}
    (observed : pipeline.IsObserved told) (happenings : List (Happening σ)) :
    (pipeline.through happenings).IsObserved
      (told ++ pipeline.eventsThrough happenings) := by
  induction happenings generalizing pipeline told with
  | nil =>
      rw [show pipeline.eventsThrough [] = [] from rfl, List.append_nil]
      exact observed
  | cons happening later ih =>
      have takes := takes_happen shaped happening
      rw [through_cons, eventsThrough_cons, ← List.append_assoc]
      exact ih (takes.isShaped shaped) (takes.isObserved observed)

/-! ## The end of an operation -/

omit [KeyValueStore σ] in
theorem Dispatches.isProgress
    {pipeline base : Pipeline σ} {happening : Happening σ} {run : Run}
    {token : TokenId} {input : StageInput} {events : List Event}
    (dispatches : pipeline.Dispatches happening base run token input
      events) : ∀ event ∈ events, event.isProgress = true := by
  cases dispatches <;> simp [Event.isProgress]

omit [KeyValueStore σ] in
theorem Concludes.closes
    {pipeline : Pipeline σ} {happening : Happening σ} {tokens : CancelGroup}
    {run : Run} {events : List Event} {result : Except PipelineError Run}
    (concludes : pipeline.Concludes happening tokens run events result)
    (item : Uuid) :
    run.Closes (events ++ [.historyRecorded item run.status]) := by
  cases concludes with
  | @cancel _ _ run reason => exact run.closes_cancel reason item
  | fail => exact Run.closes_of_pair rfl rfl (by simp [Run.fail]) item
  | pause _ _ _ _ _ _ isEnd =>
      subst isEnd
      exact Run.closes_of_pair rfl rfl (by simp [Run.pauseAtCheckpoint]) item
  | complete _ _ _ _ _ isEnd =>
      subst isEnd
      exact Run.closes_of_pair rfl rfl (by simp [Run.complete]) item

/-- In a turn an operation returns and its events close, or there is progress
at most, unless it is refused. -/
theorem Takes.closes_or_isProgress
    {pipeline : Pipeline σ} {happening : Happening σ} {turn : Turn σ}
    (takes : pipeline.Takes happening turn)
    (accepted : ∀ error, turn ≠ pipeline.refuse error) :
    (turn.pipeline.awaited = none ∧ turn.result.isSome ∧
      ∃ run, turn.pipeline.run = some run ∧ run.Closes turn.events) ∨
    (turn.result = none ∧ ∀ event ∈ turn.events, event.isProgress = true) := by
  cases takes with
  | pass => exact .inr ⟨rfl, by simp [Turn.events, idle]⟩
  | refuse => exact absurd rfl (accepted _)
  | dispatch dispatches =>
      refine .inr ⟨rfl, ?_⟩
      intro event isEvent
      rw [Turn.events_afterEvents] at isEvent
      rcases List.mem_append.mp isEvent with isBefore | isStart
      · exact dispatches.isProgress event isBefore
      · obtain rfl := List.mem_singleton.mp isStart
        rfl
  | @conclude _ _ run _ _ concludes =>
      refine .inl ⟨rfl, rfl, run, rfl, ?_⟩
      rw [Turn.events_afterEvents]
      exact concludes.closes _

theorem eventsThrough_of_free
    {pipeline : Pipeline σ} (shaped : pipeline.IsShaped)
    (free : pipeline.awaited = none) {later : List (Happening σ)}
    (meanwhile : ∀ happening ∈ later, happening.isMeanwhile = true) :
    pipeline.eventsThrough later = [] := by
  induction later generalizing pipeline with
  | nil => rfl
  | cons happening later ih =>
      rw [List.forall_mem_cons] at meanwhile
      have takes := takes_happen shaped happening
      have nextShaped := takes.isShaped shaped
      obtain ⟨next, passes, isIdle⟩ := takes.passes_of_free meanwhile.1 free
      rw [isIdle] at nextShaped
      rw [eventsThrough_cons, isIdle]
      exact ih nextShaped (passes.free free) meanwhile.2

/-- Once an operation has returned its events have closed; until then there is
progress at most. -/
structure ClosesOnReturn (pipeline : Pipeline σ)
    (happenings : List (Happening σ)) : Prop where
  returned : ∀ turn ∈ pipeline.turnsThrough happenings, turn.result.isSome →
    ∃ run, turn.pipeline.run = some run ∧
      run.Closes (pipeline.eventsThrough happenings)
  waiting : (∀ turn ∈ pipeline.turnsThrough happenings,
      turn.result = none) →
    ∀ event ∈ pipeline.eventsThrough happenings, event.isProgress = true

theorem closesOnReturn_cons
    {pipeline : Pipeline σ} (shaped : pipeline.IsShaped)
    {happening : Happening σ} {later : List (Happening σ)}
    (accepted : ∀ error,
      pipeline.happen happening ≠ pipeline.refuse error)
    (meanwhile : ∀ happening ∈ later, happening.isMeanwhile = true)
    (afterwards :
      (pipeline.happen happening).pipeline.ClosesOnReturn later) :
    pipeline.ClosesOnReturn (happening :: later) := by
  have takes := takes_happen shaped happening
  have nextShaped := takes.isShaped shaped
  rcases takes.closes_or_isProgress accepted with
    ⟨free, hasResult, run, current, closes⟩ | ⟨noResult, progress⟩
  · -- Nobody returns any more once the operation has returned.
    have silent := eventsThrough_of_free nextShaped free meanwhile
    have nobody := (recordsNothing_of_free nextShaped free meanwhile).2
    constructor
    · intro turn isTurn returned
      rcases List.mem_cons.mp isTurn with rfl | isLater
      · refine ⟨run, current, ?_⟩
        rw [eventsThrough_cons, silent, List.append_nil]
        exact closes
      · simp [nobody turn isLater] at returned
    · intro noResult
      rw [noResult _ List.mem_cons_self] at hasResult
      cases hasResult
  · constructor
    · intro turn isTurn returned
      rcases List.mem_cons.mp isTurn with rfl | isLater
      · simp [noResult] at returned
      · obtain ⟨run, current, closes⟩ :=
          afterwards.returned turn isLater returned
        exact ⟨run, current, closes.of_isProgress progress⟩
    · intro noResults event isEvent
      rcases List.mem_append.mp isEvent with isFirst | isLater
      · exact progress event isFirst
      · refine afterwards.waiting ?_ event isLater
        intro turn isTurn
        exact noResults turn (List.mem_cons_of_mem _ isTurn)

theorem closesOnReturn_meanwhile
    {pipeline : Pipeline σ} (shaped : pipeline.IsShaped)
    {later : List (Happening σ)}
    (meanwhile : ∀ happening ∈ later, happening.isMeanwhile = true) :
    pipeline.ClosesOnReturn later := by
  induction later generalizing pipeline with
  | nil =>
      constructor
      · intro turn isTurn
        cases isTurn
      · intro _ event isEvent
        cases isEvent
  | cons happening later ih =>
      rw [List.forall_mem_cons] at meanwhile
      have takes := takes_happen shaped happening
      exact closesOnReturn_cons shaped
        (takes.accepted_meanwhile meanwhile.1) meanwhile.2
        (ih (takes.isShaped shaped) meanwhile.2)

/-! ## Every state -/

/-- What an observer is told of the operations of a pipeline while none
waits. -/
structure TellsEnds (pipeline : Pipeline σ) : Prop where
  closes : ∀ operation (later : List (Happening σ)),
    operation.isOperation = true →
    (∀ happening ∈ later, happening.isMeanwhile = true) →
    (∀ error, pipeline.occur operation ≠ pipeline.refuse error) →
    pipeline.ClosesOnReturn (.occurrence operation :: later)
  /-- A drive returns when the service has answered. -/
  returns : ∀ operation (later : List (Happening σ)),
    operation.isDrive = true →
    (∀ happening ∈ later, happening.isMeanwhile = true) →
    (∀ error, pipeline.occur operation ≠ pipeline.refuse error) →
    4 ≤ later.countP Happening.isReply →
    ∃ turn ∈ pipeline.turnsThrough (.occurrence operation :: later),
      turn.result.isSome
  refused : ∀ operation error,
    pipeline.occur operation = pipeline.refuse error →
    (pipeline.occur operation).events = []

theorem tellsEnds_of_isShaped
    {pipeline : Pipeline σ} (shaped : pipeline.IsShaped)
    (free : pipeline.awaited = none) : pipeline.TellsEnds := by
  constructor
  · intro operation later isOperation meanwhile accepted
    have takes := takes_happen shaped (.occurrence operation)
    exact closesOnReturn_cons shaped accepted meanwhile
      (closesOnReturn_meanwhile (takes.isShaped shaped) meanwhile)
  · intro operation later isDrive meanwhile accepted answered
    exact (recordsExactly_of_isShaped shaped free).returns operation later
      meanwhile accepted (.inl ⟨isDrive, answered⟩)
  · intro operation error refused
    rw [refused]
    rfl

/-- Whatever has happened to a pipeline, its events tell how its run stands,
and how its operations end. -/
theorem observed_through (history : History σ) (supply : Supply)
    (maxAttempts : UInt32) (happenings : List (Happening σ)) :
    (∀ run,
      ((new history supply maxAttempts).through happenings).run = some run →
      RunView.seeAll run.id none
        ((new history supply maxAttempts).eventsThrough happenings) =
          some run.view) ∧
    (((new history supply maxAttempts).through happenings).awaited = none →
      ((new history supply maxAttempts).through happenings).TellsEnds) := by
  have shaped := new_isShaped history supply maxAttempts
  have observed : (new history supply maxAttempts).IsObserved [] := by
    intro run current
    cases current
  constructor
  · intro run current
    exact (isObserved_through shaped observed happenings run current).2
  · intro free
    exact tellsEnds_of_isShaped
      (isShaped_through history supply maxAttempts happenings) free

/-- What the events of a run tell that is cancelled at the checkpoint. -/
example :
    RunView.seeAll (Supply.nextId ⟨0, 0, ⟨0, 0⟩⟩).1 none
      ((new ⟨MemoryStore.empty, 1, []⟩ ⟨0, 0, ⟨0, 0⟩⟩ 3).eventsThrough
        [.occurrence (startShort .manual), .occurrence (.reply (.ok .null) 5),
          .occurrence (.reply (.ok (.bool true)) 7),
          .occurrence (.cancelWith "stop")]) =
      some ⟨.cancelled, 1, ⟨.completed, .completed, .cancelled, .cancelled⟩⟩ :=
  by decide +kernel

end Pipeline

end AgentPipeline
