import AgentPipeline.Proofs.Poller.Mirror

/-!
# The life of an evaluator run

Answers to polls are taken over while anything else may have happened since
the poll was sent.  Still a run moves between few statuses only, what it holds
fits its status, and an answer that comes too late changes nothing.
-/

namespace AgentPipeline

namespace EvaluatorStatus

theorem not_isTerminal_of_isLive {status : EvaluatorStatus}
    (live : status.isLive = true) : status.isTerminal = false := by
  cases status <;> first | rfl | cases live

theorem isTerminal_of_not_isLive {status : EvaluatorStatus}
    (notLive : status.isLive = false) (notIdle : status ≠ .idle) :
    status.isTerminal = true := by
  cases status with
  | idle => exact absurd rfl notIdle
  | running | suspended => cases notLive
  | cancelled | completed | failed => rfl

end EvaluatorStatus

namespace EvaluatorRun

/-- What a run holds fits its status. -/
structure IsConsistent (run : EvaluatorRun) : Prop where
  notIdle : run.status ≠ .idle
  metrics : run.metrics ≠ none → run.status = .completed
  error : run.error ≠ none → run.status.isTerminal = true
  autoSuspended : run.autoSuspended = true → run.status = .suspended

theorem isConsistent_start (kind id : String) (itemLimit : UInt32)
    (model : Option String) (now : Timestamp) :
    (start kind id itemLimit model now).IsConsistent where
  notIdle := nofun
  metrics present := absurd rfl present
  error present := absurd rfl present
  autoSuspended := nofun

/-- A live run has neither metrics nor an error. -/
theorem IsConsistent.of_isLive {run : EvaluatorRun}
    (consistent : run.IsConsistent) (live : run.status.isLive = true) :
    run.metrics = none ∧ run.error = none := by
  constructor
  · cases present : run.metrics with
    | none => rfl
    | some table =>
        have completed := consistent.metrics (by simp [present])
        rw [completed] at live
        cases live
  · cases present : run.error with
    | none => rfl
    | some error =>
        have terminal := consistent.error (by simp [present])
        rw [EvaluatorStatus.not_isTerminal_of_isLive live] at terminal
        cases terminal

theorem IsConsistent.unmarked_of_running {run : EvaluatorRun}
    (consistent : run.IsConsistent) (running : run.status = .running) :
    run.autoSuspended = false := by
  cases marked : run.autoSuspended with
  | false => rfl
  | true =>
      have suspended := consistent.autoSuspended marked
      rw [running] at suspended
      cases suspended

/-- The client may give a live run another status, and mark it as suspended by
the end of a session only if it is suspended. -/
theorem IsConsistent.become {run : EvaluatorRun}
    (consistent : run.IsConsistent) (live : run.status.isLive = true)
    {status : EvaluatorStatus} {automatic : Bool} (now : Timestamp)
    (notIdle : status ≠ .idle)
    (isSuspended : automatic = true → status = .suspended) :
    (run.become status automatic now).IsConsistent := by
  obtain ⟨noMetrics, noError⟩ := consistent.of_isLive live
  exact ⟨notIdle, fun present => absurd noMetrics present,
    fun present => absurd noError present, isSuspended⟩

/-- A snapshot that is taken over by a running run leaves it consistent. -/
theorem TakesOver.isConsistent
    {run after : EvaluatorRun} {snapshot : RunSnapshot} {now : Timestamp}
    (taken : TakesOver run snapshot now after)
    (consistent : run.IsConsistent) (running : run.status = .running) :
    after.IsConsistent := by
  obtain ⟨noMetrics, noError⟩ :=
    consistent.of_isLive (by rw [running]; rfl)
  have notAutomatic := consistent.unmarked_of_running running
  cases taken with
  | settled isTerminal isAfter =>
      subst isAfter
      refine ⟨?_, ?_, fun _ => isTerminal, ?_⟩
      · intro isIdle
        rw [show snapshot.status = .idle from isIdle] at isTerminal
        cases isTerminal
      · intro present
        by_cases completed : snapshot.status = .completed
        · exact completed
        · simp [settle, completed, noMetrics] at present
      · intro automatic
        simp [settle, notAutomatic] at automatic
  | suspended _ isAfter =>
      subst isAfter
      refine ⟨?_, ?_, ?_, fun _ => rfl⟩
      · intro isIdle
        cases isIdle
      · intro present
        simp [noMetrics] at present
      · intro present
        simp [noError] at present
  | goesOn isAfter =>
      subst isAfter
      refine ⟨?_, ?_, ?_, ?_⟩
      · simp [running]
      · intro present
        simp [noMetrics] at present
      · intro present
        simp [noError] at present
      · intro automatic
        simp [notAutomatic] at automatic

end EvaluatorRun

/-- Identifier and status of a run, if there is one. -/
abbrev Standing := Option (String × EvaluatorStatus)

def EvaluatorRun.standing (run : EvaluatorRun) : String × EvaluatorStatus :=
  (run.id, run.status)

/-- There is no run that could still change its status. -/
def Standing.IsOver (standing : Standing) : Prop :=
  ∀ id status, standing = some (id, status) → status.isTerminal = true

inductive StandingMove : RunCause → Standing → Standing → Prop where
  | same (cause : RunCause) (standing : Standing) :
      StandingMove cause standing standing
  | start {before : Standing} (isOver : before.IsOver) (id : String) :
      StandingMove .start before (some (id, .running))
  | suspend (id : String) :
      StandingMove .suspend (some (id, .running)) (some (id, .suspended))
  | resume (id : String) :
      StandingMove .resume (some (id, .suspended)) (some (id, .running))
  | stop (id : String) {status : EvaluatorStatus}
      (live : status.isLive = true) :
      StandingMove .stop (some (id, status)) (some (id, .cancelled))
  | clear {before : Standing} (isOver : before.IsOver) :
      StandingMove .clear before none
  | settle (poll : Poll) (snapshot : RunSnapshot) (id : String)
      {status : EvaluatorStatus}
      (isSettled : status.isTerminal = true ∨ status = .suspended) :
      StandingMove (.poll poll snapshot) (some (id, .running))
        (some (id, status))

theorem EvaluatorRun.isOver_of_notLive {run : Option EvaluatorRun}
    (consistent : ∀ present, run = some present → present.IsConsistent)
    (notLive : ∀ present, run = some present →
      present.status.isLive = false) :
    Standing.IsOver (run.map standing) := by
  intro id status isStanding
  obtain ⟨present, rfl, same⟩ := Option.map_eq_some_iff.mp isStanding
  cases same
  exact EvaluatorStatus.isTerminal_of_not_isLive (notLive present rfl)
    (consistent present rfl).notIdle

namespace RunMove

variable {now : Timestamp} {cause : RunCause}
  {before after : Option EvaluatorRun}

theorem isConsistent (move : RunMove now cause before after)
    (consistent : ∀ run, before = some run → run.IsConsistent) :
    ∀ run, after = some run → run.IsConsistent := by
  intro run isRun
  cases move with
  | keep => exact consistent run isRun
  | start _ _ _ _ _ =>
      cases isRun
      exact EvaluatorRun.isConsistent_start _ _ _ _ _
  | suspend running automatic =>
      cases isRun
      exact (consistent _ rfl).become (by rw [running]; rfl) now (by nofun)
        fun _ => rfl
  | resume suspended =>
      cases isRun
      exact (consistent _ rfl).become (by rw [suspended]; rfl) now
        (by nofun) (by nofun)
  | stop live =>
      cases isRun
      exact (consistent _ rfl).become live now (by nofun) (by nofun)
  | clear _ => cases isRun
  | poll _ running taken =>
      cases isRun
      exact (EvaluatorRun.takeOver_eq_ok taken).isConsistent
        (consistent _ rfl) running

/-- Only a start brings another run. -/
theorem id (move : RunMove now cause before after) (isOld : cause ≠ .start) :
    ∀ run, after = some run →
      ∃ earlier, before = some earlier ∧ run.id = earlier.id := by
  intro run isRun
  cases move with
  | keep => exact ⟨run, isRun, rfl⟩
  | start _ _ _ _ _ => exact absurd rfl isOld
  | suspend _ _ | resume _ | stop _ =>
      cases isRun
      exact ⟨_, rfl, rfl⟩
  | clear _ => cases isRun
  | poll _ _ taken =>
      cases isRun
      exact ⟨_, rfl, (EvaluatorRun.takeOver_eq_ok taken).id⟩

theorem standing (move : RunMove now cause before after)
    (consistent : ∀ run, before = some run → run.IsConsistent) :
    StandingMove cause (before.map EvaluatorRun.standing)
      (after.map EvaluatorRun.standing) := by
  cases move with
  | keep => exact .same _ _
  | start notLive kind id _ _ =>
      exact .start (EvaluatorRun.isOver_of_notLive consistent notLive) id
  | suspend running _ =>
      simp only [Option.map_some, EvaluatorRun.standing,
        EvaluatorRun.become, running]
      exact .suspend _
  | resume suspended =>
      simp only [Option.map_some, EvaluatorRun.standing,
        EvaluatorRun.become, suspended]
      exact .resume _
  | stop live => exact .stop _ live
  | clear notLive =>
      exact .clear (EvaluatorRun.isOver_of_notLive consistent notLive)
  | poll _ running taken =>
      cases EvaluatorRun.takeOver_eq_ok taken with
      | settled isTerminal isAfter =>
          simp only [Option.map_some, EvaluatorRun.standing, isAfter, running,
            EvaluatorRun.settle, EvaluatorRun.reached_id]
          exact .settle _ _ _ (.inl isTerminal)
      | suspended _ isAfter =>
          simp only [Option.map_some, EvaluatorRun.standing, isAfter, running,
            EvaluatorRun.reached_id]
          exact .settle _ _ _ (.inr rfl)
      | goesOn isAfter =>
          simp only [Option.map_some, EvaluatorRun.standing, isAfter,
            EvaluatorRun.reached_id, EvaluatorRun.reached_status]
          exact .same _ _

/-- The table of metrics is taken from a snapshot if it changes. -/
theorem keepsMetrics (move : RunMove now cause before after)
    (keeps : ∀ run, before = some run → Dashboard.KeepsMetrics run.metrics)
    (answered : ∀ poll snapshot, cause = .poll poll snapshot →
      Dashboard.KeepsMetrics snapshot.metrics) :
    ∀ run, after = some run → Dashboard.KeepsMetrics run.metrics := by
  intro run isRun
  cases move with
  | keep => exact keeps run isRun
  | start _ _ _ _ _ =>
      cases isRun
      rfl
  | suspend _ _ | resume _ | stop _ =>
      cases isRun
      have kept := keeps _ rfl
      exact kept
  | clear _ => cases isRun
  | poll _ _ taken =>
      cases isRun
      cases EvaluatorRun.takeOver_eq_ok taken with
      | settled _ isAfter =>
          simp only [isAfter, EvaluatorRun.settle,
            EvaluatorRun.reached_metrics]
          split
          · exact answered _ _ rfl
          · exact keeps _ rfl
      | suspended _ isAfter =>
          simp only [isAfter, EvaluatorRun.reached_metrics]
          exact keeps _ rfl
      | goesOn isAfter =>
          simp only [isAfter, EvaluatorRun.reached_metrics]
          exact keeps _ rfl

end RunMove

/-- A table of metrics that the step brings can be stored. -/
def SessionStep.KeepsMetrics : SessionStep → Prop
  | .answer _ _ (.ok snapshot) => Dashboard.KeepsMetrics snapshot.metrics
  | _ => True

namespace Desk

variable {σ ς : Type} [KeyValueStore σ] {works : σ → Prop}

def standing (desk : Desk σ ς) : Standing :=
  desk.poller.run?.map EvaluatorRun.standing

/-- A poll that was sent is one of the run that was started last by then. -/
def WasSent (desk : Desk σ ς) (sent : SentPoll) : Prop :=
  sent.runs ≤ desk.started.length ∧
    (desk.started.take sent.runs).getLast? = some sent.poll.run

/-- What holds at a desk whatever has happened. -/
structure IsOrderly (works : σ → Prop) (desk : Desk σ ς) : Prop where
  kept : desk.IsKept works fun dashboard stored => stored = dashboard
  keepsMetrics : ∀ run, desk.poller.dashboard.run = some run →
    Dashboard.KeepsMetrics run.metrics
  isConsistent : ∀ run, desk.poller.dashboard.run = some run →
    run.IsConsistent
  isLast : ∀ run, desk.poller.dashboard.run = some run →
    desk.started.getLast? = some run.id
  wereSent : ∀ sent ∈ desk.asked, desk.WasSent sent

theorem isOrderly_new {store : σ} (working : works store)
    (isEmpty : KeyValueStore.get store StoreKey.dashboard.name = .ok none)
    (service : ς) (supply : Supply) (interval : Nat) :
    (new store service supply interval).IsOrderly works where
  kept := by
    refine ⟨working, ?_, none, ?_, rfl⟩
    · intro run isRun
      cases isRun
    · simp [new, KeyValueStore.read, isEmpty, Except.map]
  keepsMetrics := by
    intro run isRun
    cases isRun
  isConsistent := by
    intro run isRun
    cases isRun
  isLast := by
    intro run isRun
    cases isRun
  wereSent := by
    intro sent wasSent
    cases wasSent

omit [KeyValueStore σ] in
/-- A run that is started later makes no difference to a poll. -/
theorem WasSent.of_grows {desk after : Desk σ ς} {sent : SentPoll}
    (wasSent : desk.WasSent sent) (grows : desk.started <+: after.started) :
    after.WasSent sent := by
  obtain ⟨later, isStarted⟩ := grows
  constructor
  · rw [← isStarted, List.length_append]
    exact Nat.le_add_right_of_le wasSent.1
  · rw [← isStarted, List.take_append_of_le_length wasSent.1]
    exact wasSent.2

namespace IsOrderly

variable {desk after : Desk σ ς} {now : Timestamp} {cause : RunCause}

/-- A session finds the dashboard as it was left. -/
theorem known (orderly : desk.IsOrderly works) {dashboard : Dashboard}
    (known : desk.Knows dashboard) : dashboard = desk.poller.dashboard :=
  orderly.kept.known Dashboard.agreement_eq known

/-- The run in memory stays as it is or moves. -/
theorem runMove (orderly : desk.IsOrderly works)
    (moved : Moved now cause desk after) :
    after.poller.dashboard.run = desk.poller.dashboard.run ∨
      RunMove now cause desk.poller.dashboard.run
        after.poller.dashboard.run := by
  cases moved with
  | unchanged known isDashboard _ _ _ =>
      rw [isDashboard, orderly.known known]
      exact .inl rfl
  | moved known _ move _ _ _ =>
      rw [orderly.known known] at move
      exact .inr move
  | started isStart isRun move _ _ _ =>
      rw [isStart, isRun]
      exact .inr move
  | asked _ isDashboard _ _ _ =>
      rw [isDashboard]
      exact .inl rfl

theorem isConsistent_moved (orderly : desk.IsOrderly works)
    (moved : Moved now cause desk after) :
    ∀ run, after.poller.dashboard.run = some run → run.IsConsistent := by
  rcases orderly.runMove moved with same | move
  · rw [same]
    exact orderly.isConsistent
  · exact move.isConsistent orderly.isConsistent

theorem keepsMetrics_moved (orderly : desk.IsOrderly works)
    (moved : Moved now cause desk after)
    (answered : ∀ poll snapshot, cause = .poll poll snapshot →
      Dashboard.KeepsMetrics snapshot.metrics) :
    ∀ run, after.poller.dashboard.run = some run →
      Dashboard.KeepsMetrics run.metrics := by
  rcases orderly.runMove moved with same | move
  · rw [same]
    exact orderly.keepsMetrics
  · exact move.keepsMetrics orderly.keepsMetrics answered

theorem standingMove (orderly : desk.IsOrderly works)
    (moved : Moved now cause desk after) :
    StandingMove cause desk.standing after.standing := by
  unfold standing Poller.run?
  rcases orderly.runMove moved with same | move
  · rw [same]
    exact .same _ _
  · exact move.standing orderly.isConsistent

theorem isLast_moved (orderly : desk.IsOrderly works)
    (moved : Moved now cause desk after) :
    ∀ run, after.poller.dashboard.run = some run →
      after.started.getLast? = some run.id := by
  intro run isRun
  cases moved with
  | unchanged known isDashboard _ isStarted _ =>
      rw [isDashboard, orderly.known known] at isRun
      rw [isStarted]
      exact orderly.isLast run isRun
  | moved known isOld move _ isStarted _ =>
      obtain ⟨earlier, isEarlier, sameId⟩ := move.id isOld run isRun
      rw [orderly.known known] at isEarlier
      rw [isStarted, sameId]
      exact orderly.isLast earlier isEarlier
  | started _ isStarting _ _ isStarted _ =>
      rw [isStarting] at isRun
      cases isRun
      rw [isStarted]
      exact List.getLast?_concat
  | asked _ isDashboard _ isStarted _ =>
      rw [isDashboard] at isRun
      rw [isStarted]
      exact orderly.isLast run isRun

theorem wereSent_moved (orderly : desk.IsOrderly works)
    (grows : desk.started <+: after.started)
    (moved : Moved now cause desk after) :
    ∀ sent ∈ after.asked, after.WasSent sent := by
  intro sent wasSent
  cases moved with
  | unchanged _ _ _ _ isAsked | moved _ _ _ _ _ isAsked
  | started _ _ _ _ _ isAsked =>
      rw [isAsked] at wasSent
      exact (orderly.wereSent sent wasSent).of_grows grows
  | asked isRun _ _ isStarted isAsked =>
      rw [isAsked] at wasSent
      rcases List.mem_cons.mp wasSent with rfl | wasSent
      · refine ⟨Nat.le_of_eq (congrArg List.length isStarted.symm), ?_⟩
        rw [isStarted, List.take_length]
        exact orderly.isLast _ isRun
      · exact (orderly.wereSent sent wasSent).of_grows grows

theorem step [AgentService ς] (orderly : desk.IsOrderly works)
    (faultless : KeyValueStore.Faultless works) (moment : Moment)
    (happening : SessionStep) (survives : happening.KeepsMetrics) :
    (desk.step moment happening).IsOrderly works := by
  have grows := desk.started_step moment happening
  have moved := desk.step_moved moment happening
  have times := orderly.kept.hasTimes_moved Dashboard.agreement_eq
    moment.isNameable moved
  have keeps := orderly.keepsMetrics_moved moved (by
    intro poll snapshot isPoll
    obtain ⟨sent, -, -, forTimer, rfl⟩ := SessionStep.cause_eq_poll isPoll
    exact survives)
  refine ⟨?_, keeps, orderly.isConsistent_moved moved,
    orderly.isLast_moved moved, orderly.wereSent_moved grows moved⟩
  refine orderly.kept.moved faultless Dashboard.agreement_eq
    moment.isNameable moved ?_
  rw [Dashboard.parse?_text_of_keeps times keeps]
  rfl

theorem after_steps [AgentService ς] (orderly : desk.IsOrderly works)
    (faultless : KeyValueStore.Faultless works)
    {steps : List (Moment × SessionStep)}
    (survive : ∀ next ∈ steps, next.2.KeepsMetrics) :
    (desk.after steps).IsOrderly works := by
  induction steps generalizing desk with
  | nil => exact orderly
  | cons next rest ih =>
      have survives := survive next (by simp)
      exact ih (orderly.step faultless next.1 next.2 survives)
        fun later isLater => survive later (List.mem_cons_of_mem _ isLater)

end IsOrderly

/-! ## Answers that come too late -/

/-- The run is no longer the one that was polled, or it is not running. -/
def IsLate (desk : Desk σ ς) (sent : SentPoll) : Prop :=
  sent.runs ≠ desk.started.length ∨
    ∀ run, desk.poller.run? = some run → run.status ≠ .running

/-- In a list without repetitions the last element stands nowhere else. -/
theorem eq_length_of_getLast?_take
    {names : List String} (unique : names.Nodup) {count : Nat}
    {name : String} (isInside : count ≤ names.length)
    (isTaken : (names.take count).getLast? = some name)
    (isLast : names.getLast? = some name) : count = names.length := by
  rcases Nat.lt_or_eq_of_le isInside with isShorter | same
  · have isDropped : (names.drop count).getLast? = some name := by
      rw [List.getLast?_drop, if_neg (Nat.not_le_of_lt isShorter), isLast]
    rw [← List.take_append_drop count names, List.nodup_append] at unique
    exact absurd rfl (unique.2.2 name (List.mem_of_getLast? isTaken) name
      (List.mem_of_getLast? isDropped))
  · exact same

/-- A poll of another run is told from one of the present run, because no two
runs have the same identifier. -/
theorem IsOrderly.polledRun?_eq_none {desk : Desk σ ς}
    (orderly : desk.IsOrderly works) (unique : desk.started.Nodup)
    {sent : SentPoll} (wasSent : sent ∈ desk.asked)
    (late : desk.IsLate sent) :
    desk.poller.polledRun? sent.poll = none := by
  cases polled : desk.poller.polledRun? sent.poll with
  | none => rfl
  | some run =>
      obtain ⟨isRun, isPolled, running⟩ := Poller.polledRun?_eq_some polled
      obtain ⟨isInside, isTaken⟩ := orderly.wereSent sent wasSent
      have isLast := orderly.isLast run isRun
      rw [isPolled] at isLast
      rcases late with isOther | notRunning
      · exact absurd
          (eq_length_of_getLast?_take unique isInside isTaken isLast) isOther
      · exact absurd running (notRunning run isRun)

end Desk

namespace Poller

variable {σ ς : Type} [KeyValueStore σ]

/-- An answer for which there is no run any more is dropped. -/
theorem handleAnswer_of_polledRun?_eq_none
    {poller : Poller σ} {poll : Poll} (moved : poller.polledRun? poll = none)
    (outcome : Except ServiceError RunSnapshot) :
    (poller.handleAnswer poll outcome).poller = poller ∧
      (poller.handleAnswer poll outcome).effects = [] := by
  cases outcome with
  | error error => exact ⟨rfl, rfl⟩
  | ok snapshot =>
      simp only [handleAnswer, handleSnapshot, moved]
      exact ⟨rfl, rfl⟩

theorem handleTimerAnswer_of_polledRun?_eq_none
    {poller : Poller σ} {poll : Poll} (moved : poller.polledRun? poll = none)
    (outcome : Except ServiceError RunSnapshot) :
    (poller.handleTimerAnswer poll outcome).poller.dashboard =
        poller.dashboard ∧
      (poller.handleTimerAnswer poll outcome).poller.store = poller.store ∧
      (poller.handleTimerAnswer poll outcome).effects = [] := by
  obtain ⟨same, silent⟩ :=
    handleAnswer_of_polledRun?_eq_none moved outcome
  obtain ⟨sameDashboard, sameStore, sameEffects⟩ :=
    handleTimerAnswer_same poller poll outcome
  rw [sameDashboard, sameStore, sameEffects, same]
  exact ⟨rfl, rfl, silent⟩

/-- Why a start is refused while a run is live.  What the request lacks is
found out first. -/
def refusal (kind : String) (model : Option ModelConfig) : EvaluatorError :=
  if Text.isBlankText kind then .noEvaluatorSelected
  else if model.isNone then .noModel
  else .runAlreadyActive

/-- While a run is live no start asks the service. -/
theorem start_of_isBusy [AgentService ς] {poller : Poller σ}
    (busy : poller.isBusy = true) (kind : String) (itemLimit : UInt32)
    (model : Option ModelConfig) (service : ς) :
    poller.start kind itemLimit model service =
      (poller.fail (refusal kind model), service) := by
  unfold start refusal
  split
  · rfl
  · cases model with
    | none => rfl
    | some chosen => rfl

end Poller

/-! ## Everything that happens -/

namespace Desk

variable {σ ς : Type} [KeyValueStore σ] [AgentService ς] {works : σ → Prop}

/-- What is promised of the run at a desk. -/
structure Lives (desk : Desk σ ς) : Prop where
  /-- Whoever opens a session finds the run as it is in memory. -/
  stored : ∃ found, KeyValueStore.read Dashboard.decoder desk.poller.store
      StoreKey.dashboard.name = .ok found ∧
    found.getD .empty = desk.poller.dashboard
  isConsistent : ∀ run, desk.poller.run? = some run → run.IsConsistent
  moves : ∀ moment happening, StandingMove (happening.cause desk.asked)
    desk.standing (desk.step moment happening).standing
  refuses : desk.poller.isBusy = true → ∀ kind itemLimit model,
    desk.poller.start kind itemLimit model desk.service =
      (desk.poller.fail (Poller.refusal kind model), desk.service)
  drops : ∀ sent ∈ desk.asked, desk.IsLate sent → ∀ outcome,
    (desk.poller.handleAnswer sent.poll outcome).poller = desk.poller ∧
      (desk.poller.handleAnswer sent.poll outcome).effects = []
  dropsForTimer : ∀ sent ∈ desk.asked, desk.IsLate sent → ∀ outcome,
    (desk.poller.handleTimerAnswer sent.poll outcome).poller.dashboard =
        desk.poller.dashboard ∧
      (desk.poller.handleTimerAnswer sent.poll outcome).poller.store =
        desk.poller.store ∧
      (desk.poller.handleTimerAnswer sent.poll outcome).effects = []

theorem IsOrderly.lives {desk : Desk σ ς} (orderly : desk.IsOrderly works)
    (unique : desk.started.Nodup) : desk.Lives where
  stored := by
    obtain ⟨found, isFound, same⟩ := orderly.kept.stored
    exact ⟨found, isFound, same⟩
  isConsistent := orderly.isConsistent
  moves moment happening :=
    orderly.standingMove (desk.step_moved moment happening)
  refuses busy kind itemLimit model :=
    Poller.start_of_isBusy busy kind itemLimit model desk.service
  drops _ wasSent late outcome :=
    Poller.handleAnswer_of_polledRun?_eq_none
      (orderly.polledRun?_eq_none unique wasSent late) outcome
  dropsForTimer _ wasSent late outcome :=
    Poller.handleTimerAnswer_of_polledRun?_eq_none
      (orderly.polledRun?_eq_none unique wasSent late) outcome

/-- From an empty store on, whatever happens in whichever order and whatever
the service answers, the promise holds, as long as sessions do not overlap,
the service gives no identifier to two runs, and every table of metrics can be
stored. -/
theorem lives_after
    (faultless : KeyValueStore.Faultless works) (store : σ)
    (working : works store)
    (isEmpty : KeyValueStore.get store StoreKey.dashboard.name = .ok none)
    (service : ς) (supply : Supply) (interval : Nat)
    (steps : List (Moment × SessionStep))
    (survive : ∀ next ∈ steps, next.2.KeepsMetrics)
    (unique :
      ((new store service supply interval).after steps).started.Nodup) :
    ((new store service supply interval).after steps).Lives :=
  ((isOrderly_new working isEmpty service supply interval).after_steps
    faultless survive).lives unique

/-- The run completes with a table of metrics while another poll is on its
way, the answer to which comes too late. -/
def completion : List (Moment × SessionStep) :=
  let sent : SentPoll := ⟨⟨"run-1", 0⟩, 1⟩
  let completed : RunSnapshot :=
    ⟨.completed, 1, .empty, none, some (.bool true), none⟩
  let running : RunSnapshot := ⟨.running, 2, .empty, none, none, none⟩
  beginning ++
    [(epoch, .ask), (epoch, .timerDue),
      (epoch, .answer sent true (.ok completed)),
      (epoch, .answer sent false (.ok running))]

theorem lives_completion : (ofOneRun.after completion).Lives ∧
    (ofOneRun.after completion).standing = some ("run-1", .completed) := by
  refine ⟨?_, by decide +kernel⟩
  refine lives_after MemoryStore.faultless .empty rfl rfl oneRun
    ⟨0, 0, ⟨0, 0⟩⟩ 600 completion ?_ (by decide +kernel)
  intro next isNext
  simp only [completion, beginning, List.cons_append, List.nil_append,
    List.mem_cons, List.not_mem_nil, or_false] at isNext
  rcases isNext with rfl | rfl | rfl | rfl | rfl | rfl
  all_goals trivial

end Desk

/-! ## Sessions that overlap -/

namespace Poller

variable {σ ς α : Type} [KeyValueStore σ] {works : σ → Prop}

/-- Two sessions that overlap: the first is dropped while its dashboard is in
use, the second stops the run, and only then the run is suspended for the
first.  The result is the status in the second session and the stored one. -/
def overlapping [AgentService ς] (first : Poller σ) (service : ς) :
    Except StorageError (Option EvaluatorStatus × Option EvaluatorStatus) := do
  let (dropped, _, rest) := first.drop true
  let second ← openPassive dropped.store dropped.supply dropped.interval
    dropped.clock
  let (stopped, service) := second.stop service
  let late := { dropped with store := stopped.poller.store }
  let (suspended, _, _) := late.finishTeardown rest service
  let found ← KeyValueStore.read Dashboard.decoder suspended.store
    StoreKey.dashboard.name
  .ok (stopped.poller.run?.map EvaluatorRun.status,
    (found.getD .empty).run.map EvaluatorRun.status)

omit [KeyValueStore σ] in
theorem works_readClock {poller : Poller σ} (working : works poller.store) :
    works poller.readClock.2.store := by
  rw [(readClock_same poller).2.2]
  exact working

theorem commit_eq (faultless : KeyValueStore.Faultless works)
    {poller : Poller σ} (working : works poller.store)
    (dashboard : Dashboard) (goOn : Poller σ → Reaction σ α) :
    poller.commit dashboard goOn = goOn (poller.write dashboard).2 := by
  have written := faultless.set_ok working StoreKey.dashboard.name
    dashboard.encode.text
  unfold commit write KeyValueStore.write
  dsimp only
  rw [written]

/-- A run is stopped if the service says so. -/
theorem stop_of_answered [AgentService ς]
    (faultless : KeyValueStore.Faultless works) (poller : Poller σ)
    (working : works poller.store) {run : EvaluatorRun}
    (isRun : poller.run? = some run) (live : run.status.isLive = true)
    {service : ς} (answered : (control run.id .stop service).1 = .ok ()) :
    works (poller.stop service).1.poller.store ∧
      (poller.stop service).1.poller.run? =
        some (run.become .cancelled false poller.supply.now) := by
  have kept : works poller.stopTimer.readClock.2.store :=
    works_readClock working
  unfold stop
  rw [isRun]
  dsimp only
  rw [live, if_neg (by decide)]
  rcases controlled : control run.id .stop service with ⟨outcome, later⟩
  rw [controlled] at answered
  cases answered
  dsimp only [Reaction.after]
  rw [commit_eq faultless kept]
  exact ⟨faultless.works_write kept _ _, rfl⟩

/-- What the suspension by the end of a session leaves in the store. -/
theorem read_autoSuspend
    (faultless : KeyValueStore.Faultless works) (poller : Poller σ)
    (working : works poller.store) {run : EvaluatorRun}
    (isRun : poller.dashboard.run = some run)
    (running : run.status = .running) (times : run.HasTimes)
    (nameable : poller.supply.now.IsNameable)
    (keeps : Dashboard.KeepsMetrics run.metrics) :
    KeyValueStore.read Dashboard.decoder poller.autoSuspend.1.store
      StoreKey.dashboard.name =
        .ok (some { poller.dashboard with
          run := some (run.become .suspended true poller.supply.now) }) := by
  have present : poller.running? = some run := by
    simp [running?, run?, isRun, running]
  have kept : works poller.readClock.2.store := works_readClock working
  unfold autoSuspend
  rw [present]
  dsimp only
  rw [← Dashboard.parse?_text_of_keeps]
  · exact faultless.read_write kept _ _ _
  · intro suspended isSuspended
    cases isSuspended
    exact ⟨times.startedAt, nameable⟩
  · intro suspended isSuspended
    cases isSuspended
    exact keeps

end Poller

namespace Desk

variable {σ ς : Type} [KeyValueStore σ] [AgentService ς] {works : σ → Prop}

/-- Whenever sessions overlap so, a run that was stopped is suspended after
all. -/
theorem IsOrderly.overlapping {desk : Desk σ ς}
    (orderly : desk.IsOrderly works)
    (faultless : KeyValueStore.Faultless works)
    (polling : desk.poller.isPolling = true)
    (nameable : desk.poller.supply.now.IsNameable) {run : EvaluatorRun}
    (isRun : desk.poller.dashboard.run = some run)
    (running : run.status = .running) {service : ς}
    (answered : (Poller.control run.id .stop service).1 = .ok ()) :
    desk.poller.overlapping service =
      .ok (some .cancelled, some .suspended) := by
  obtain ⟨found, isFound, same⟩ := orderly.kept.stored
  have live : run.status.isLive = true := by rw [running]; rfl
  have times := orderly.kept.hasTimes run isRun
  have keeps := orderly.keepsMetrics run isRun
  let second : Poller σ :=
    { desk.poller with
      dashboard := found.getD .empty, timer := .off, resumed := false }
  have isSecond : Poller.openPassive desk.poller.store desk.poller.supply
      desk.poller.interval desk.poller.clock = .ok second := by
    unfold Poller.openPassive
    rw [isFound]
    rfl
  obtain ⟨working, isStopped⟩ := Poller.stop_of_answered faultless second
    orderly.kept.working ((congrArg Dashboard.run same).trans isRun) live
    answered
  let late : Poller σ :=
    { desk.poller with
      store := (second.stop service).1.poller.store, timer := .off }
  have isLate := Poller.read_autoSuspend faultless late working isRun running
    times nameable keeps
  have isDropped : desk.poller.drop true =
      (desk.poller.stopTimer, [], .whole) := by
    simp [Poller.drop, polling]
  unfold Poller.overlapping
  rw [isDropped]
  simp only [bind, Except.bind, Poller.stopTimer, isSecond,
    Poller.finishTeardown, Poller.requestSuspend_poller]
  rw [isLate, isStopped]
  rfl

/-- A service that answers when it is asked to stop the run. -/
def stopping : RecordedService :=
  .replaying [⟨.control "run-1" .stop, .ok (), 0⟩]

/-- A start that names no evaluator is refused for that reason, even while a
run is live.  And a run that was stopped is suspended after all if sessions
overlap. -/
theorem not_refused_as_active_nor_final :
    (¬∀ (steps : List (Moment × SessionStep)) (kind : String)
        (itemLimit : UInt32) (model : Option ModelConfig),
      (ofOneRun.after steps).poller.isBusy = true →
      ((ofOneRun.after steps).poller.start kind itemLimit model
        (ofOneRun.after steps).service).1.result =
          .error .runAlreadyActive) ∧
    ¬∀ (steps : List (Moment × SessionStep)) (service : RecordedService)
        (status stored : EvaluatorStatus),
      (ofOneRun.after steps).poller.overlapping service =
        .ok (some status, some stored) →
      status.isTerminal = true → stored = status := by
  constructor
  · intro claimed
    have busy : (ofOneRun.after beginning).poller.isBusy = true := by
      decide +kernel
    have active := claimed beginning "" 5 none busy
    rw [Poller.start_of_isBusy busy] at active
    cases active
  · intro claimed
    have survive : ∀ next ∈ beginning, next.2.KeepsMetrics := by
      intro next isNext
      simp only [beginning, List.mem_cons, List.not_mem_nil, or_false]
        at isNext
      rcases isNext with rfl | rfl
      all_goals trivial
    have orderly : (ofOneRun.after beginning).IsOrderly
        fun store : MemoryStore => store.faults = .none := by
      refine IsOrderly.after_steps ?_ MemoryStore.faultless survive
      refine isOrderly_new ?_ ?_ _ _ _
      · rfl
      · rfl
    have begun : (ofOneRun.after beginning).poller.dashboard.run.map
        EvaluatorRun.standing = some ("run-1", .running) := by
      decide +kernel
    obtain ⟨run, isRun, standing⟩ := Option.map_eq_some_iff.mp begun
    obtain ⟨isFirst, running⟩ := Prod.ext_iff.mp standing
    have answered : (Poller.control run.id .stop stopping).1 = .ok () := by
      rw [show run.id = "run-1" from isFirst]
      decide +kernel
    have overlap := orderly.overlapping MemoryStore.faultless
      (by decide +kernel) (by constructor <;> decide +kernel) isRun running
      answered
    have same := claimed beginning stopping _ _ overlap rfl
    cases same

end Desk

end AgentPipeline
