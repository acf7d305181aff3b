import AgentPipeline.Proofs.Poller.Mirror
import AgentPipeline.Proofs.Store.Durable

/-!
# The cursor of a run

The service may answer a poll with any cursor, and a store may fail whenever
the dashboard is written.  Still the cursor of a run never goes back in a
session, and never goes back in the store.  To say so, the runs are numbered:
two runs may have the same identifier, and a run that was not written is
forgotten when the next session is opened.
Main statement: `cursor_after`.
-/

namespace AgentPipeline

namespace EvaluatorRun

/-- The run is the same as an earlier one and has been read as far. -/
def Extends (run earlier : EvaluatorRun) : Prop :=
  run.id = earlier.id ∧ earlier.cursor ≤ run.cursor

theorem Extends.refl (run : EvaluatorRun) : run.Extends run :=
  ⟨rfl, UInt64.le_refl run.cursor⟩

theorem Extends.trans {first second third : EvaluatorRun}
    (later : third.Extends second) (earlier : second.Extends first) :
    third.Extends first :=
  ⟨later.1.trans earlier.1, UInt64.le_trans earlier.2 later.2⟩

/-- A snapshot that stops where reading stopped brings no progress. -/
theorem takeOver_of_level {run : EvaluatorRun} {snapshot : RunSnapshot}
    (level : snapshot.cursor = run.cursor) (now : Timestamp) :
    ∃ outcome reached, run.takeOver snapshot now = .ok (outcome, reached) ∧
      reached.cursor = run.cursor ∧ reached.progress = run.progress ∧
      reached.status =
        if snapshot.status.isTerminal ∨ snapshot.status = .suspended then
          snapshot.status
        else run.status := by
  have notBehind : ¬snapshot.cursor < run.cursor := by
    rw [level]
    exact UInt64.lt_irrefl run.cursor
  have notAhead : ¬run.cursor < snapshot.cursor := by
    rw [level]
    exact UInt64.lt_irrefl run.cursor
  unfold takeOver
  rw [if_neg notBehind]
  simp only [notAhead, decide_false, Bool.false_eq_true, if_false]
  by_cases isTerminal : snapshot.status.isTerminal = true
  · rw [if_pos isTerminal]
    refine ⟨_, _, rfl, rfl, rfl, ?_⟩
    rw [if_pos (.inl isTerminal)]
    rfl
  · rw [if_neg isTerminal]
    by_cases isSuspended : snapshot.status = .suspended
    · rw [if_pos isSuspended]
      refine ⟨_, _, rfl, rfl, rfl, ?_⟩
      rw [if_pos (.inr isSuspended), isSuspended]
    · rw [if_neg isSuspended]
      refine ⟨_, _, rfl, rfl, rfl, ?_⟩
      rw [if_neg (not_or.mpr ⟨isTerminal, isSuspended⟩)]

end EvaluatorRun

/-- Every run there is afterwards is one that there was before, read as far or
further. -/
def GoesOn (before after : Option EvaluatorRun) : Prop :=
  ∀ run, after = some run →
    ∃ earlier, before = some earlier ∧ run.Extends earlier

theorem goesOn_refl (run : Option EvaluatorRun) : GoesOn run run :=
  fun present isRun => ⟨present, isRun, .refl present⟩

theorem RunMove.goesOn
    {now : Timestamp} {cause : RunCause} {before after : Option EvaluatorRun}
    (move : RunMove now cause before after) (isOld : cause ≠ .start) :
    GoesOn before after := by
  intro run isRun
  cases move with
  | keep => exact ⟨run, isRun, .refl run⟩
  | start _ _ _ _ _ => exact absurd rfl isOld
  | suspend _ _ | resume _ | stop _ =>
      cases isRun
      exact ⟨_, rfl, rfl, UInt64.le_refl _⟩
  | clear _ => cases isRun
  | poll _ _ taken =>
      cases isRun
      have takesOver := EvaluatorRun.takeOver_eq_ok taken
      refine ⟨_, rfl, takesOver.id, ?_⟩
      rw [takesOver.progress.1]
      exact EvaluatorRun.cursor_le_reached _ _ _

/-! ## One answer -/

namespace Poller

variable {σ : Type} [KeyValueStore σ]

/-- The answer is behind what has been read: nothing changes, and all that is
noticed is that the answer breaks the rules. -/
structure Rejects (poller : Poller σ) (run : EvaluatorRun)
    (snapshot : RunSnapshot) (reaction : Reaction σ PollOutcome) : Prop where
  dashboard : reaction.poller.dashboard = poller.dashboard
  store : reaction.poller.store = poller.store
  effects : reaction.effects = [.announce (.protocolViolation
    (EvaluatorError.cursorRegression run.cursor snapshot.cursor).message)]
  result : reaction.result =
    .error (.cursorRegression run.cursor snapshot.cursor)

/-- The answer stops where reading stopped: only a status in which the run is
no longer polled is taken over. -/
def Confirms (poller : Poller σ) (run : EvaluatorRun)
    (snapshot : RunSnapshot) (reaction : Reaction σ PollOutcome) : Prop :=
  ∃ reached, reaction.poller.dashboard =
      { poller.dashboard with run := some reached } ∧
    reached.cursor = run.cursor ∧ reached.progress = run.progress ∧
    reached.status =
      if snapshot.status.isTerminal ∨ snapshot.status = .suspended then
        snapshot.status
      else run.status

/-- What answers to a poll of the run can do to its cursor. -/
structure GuardsCursor (poller : Poller σ) (poll : Poll)
    (run : EvaluatorRun) : Prop where
  behind : ∀ snapshot : RunSnapshot, snapshot.cursor < run.cursor →
    poller.Rejects run snapshot (poller.handleAnswer poll (.ok snapshot)) ∧
    poller.Rejects run snapshot
      (poller.handleTimerAnswer poll (.ok snapshot))
  level : ∀ snapshot : RunSnapshot, snapshot.cursor = run.cursor →
    poller.Confirms run snapshot (poller.handleAnswer poll (.ok snapshot)) ∧
    poller.Confirms run snapshot
      (poller.handleTimerAnswer poll (.ok snapshot))

theorem guardsCursor_of_polledRun? {poller : Poller σ} {poll : Poll}
    {run : EvaluatorRun} (polled : poller.polledRun? poll = some run) :
    poller.GuardsCursor poll run := by
  constructor
  · intro snapshot behind
    obtain ⟨sameDashboard, sameStore, sameEffects⟩ :=
      handleTimerAnswer_same poller poll (.ok snapshot)
    have rejected : poller.handleAnswer poll (.ok snapshot) =
        (poller.fail (.cursorRegression run.cursor snapshot.cursor)).after
          [.announce (.protocolViolation (EvaluatorError.cursorRegression
            run.cursor snapshot.cursor).message)] := by
      simp only [handleAnswer, handleSnapshot, polled,
        EvaluatorRun.takeOver, if_pos behind]
    have rejects : poller.Rejects run snapshot
        (poller.handleAnswer poll (.ok snapshot)) := by
      rw [rejected]
      exact ⟨rfl, rfl, rfl, rfl⟩
    refine ⟨rejects, ?_, ?_, ?_, ?_⟩
    · exact sameDashboard.trans rejects.dashboard
    · exact sameStore.trans rejects.store
    · exact sameEffects.trans rejects.effects
    · exact rejects.result
  · intro snapshot level
    obtain ⟨sameDashboard, -, -⟩ :=
      handleTimerAnswer_same poller poll (.ok snapshot)
    have confirms : poller.Confirms run snapshot
        (poller.handleAnswer poll (.ok snapshot)) := by
      obtain ⟨outcome, reached, taken, sameCursor, sameProgress, status⟩ :=
        EvaluatorRun.takeOver_of_level level poller.supply.now
      refine ⟨reached, ?_, sameCursor, sameProgress, status⟩
      simp only [handleAnswer, handleSnapshot, polled, readClock,
        Supply.tick, taken]
      exact commit_dashboard _ _ fun _ => rfl
    refine ⟨confirms, ?_⟩
    obtain ⟨reached, isReached, rest⟩ := confirms
    exact ⟨reached, sameDashboard.trans isReached, rest⟩

end Poller

/-! ## The runs in memory and in the store -/

/-- A desk with the numbers of the run in memory and of the one in the store:
zero for a run that was found at first, and for those that were started their
place among them. -/
structure Ledger (σ ς : Type) where
  desk : Desk σ ς
  inMemory : Nat
  inStore : Nat
  /-- How often a dashboard was loaded to open a session. -/
  sessions : Nat

namespace Desk

variable {σ ς : Type} [KeyValueStore σ]

/-- The dashboard that a session finds in a store. -/
def stored (holds : σ → String → Option String) (desk : Desk σ ς) :
    Dashboard :=
  ((holds desk.poller.store StoreKey.dashboard.name).bind
    Dashboard.decoder.parse?).getD .empty

/-- The store holds the dashboard in memory. -/
def IsWritten (holds : σ → String → Option String) (desk : Desk σ ς) : Prop :=
  holds desk.poller.store StoreKey.dashboard.name =
    some desk.poller.dashboard.encode.text

instance (holds : σ → String → Option String) (desk : Desk σ ς) :
    Decidable (desk.IsWritten holds) :=
  inferInstanceAs (Decidable (_ = _))

theorem eq_stored_of_loaded?
    {holds : σ → String → Option String}
    (durable : KeyValueStore.Durable holds) {desk : Desk σ ς}
    {step : SessionStep} {dashboard : Dashboard}
    (loaded : desk.loaded? step = some dashboard) :
    dashboard = desk.stored holds := by
  obtain ⟨found, isFound, isDashboard⟩ := loaded?_eq_some loaded
  rw [isDashboard, durable.read_eq_ok isFound]
  rfl

/-- A run is started in a step, or the run goes on. -/
theorem MovedFrom.goesOn
    {now : Timestamp} {cause : RunCause} {desk after : Desk σ ς}
    {base : Dashboard} (moved : MovedFrom base now cause desk after) :
    after.started.length = desk.started.length + 1 ∨
      after.started = desk.started ∧
        GoesOn base.run after.poller.dashboard.run := by
  cases moved with
  | unchanged isDashboard _ isStarted _ =>
      rw [isDashboard]
      exact .inr ⟨isStarted, goesOn_refl _⟩
  | moved isOld move _ isStarted _ =>
      exact .inr ⟨isStarted, move.goesOn isOld⟩
  | started _ _ _ _ _ isStarted _ =>
      left
      rw [isStarted, List.length_append]
      rfl
  | asked _ _ isDashboard _ isStarted _ =>
      rw [isDashboard]
      exact .inr ⟨isStarted, goesOn_refl _⟩

/-- After a step the store holds the dashboard in memory, or what it held. -/
theorem MovedFrom.isWritten_or_same
    {holds : σ → String → Option String}
    (durable : KeyValueStore.Durable holds)
    {now : Timestamp} {cause : RunCause} {desk after : Desk σ ς}
    {base : Dashboard} (moved : MovedFrom base now cause desk after) :
    after.IsWritten holds ∨ after.stored holds = desk.stored holds := by
  rcases moved.untouched_or_written with ⟨-, isStore⟩ | isStore
  · right
    rw [stored, isStore]
    rfl
  · rcases durable.holds_write desk.poller.store StoreKey.dashboard.name
      after.poller.dashboard.encode with isText | isSame
    · left
      rw [IsWritten, isStore]
      exact isText
    · right
      rw [stored, isStore, isSame]
      rfl

omit [KeyValueStore σ] in
/-- What is found of a dashboard that was written has the cursor of the
run. -/
theorem IsWritten.exists_kept
    {holds : σ → String → Option String} {desk : Desk σ ς}
    (isWritten : desk.IsWritten holds) {run : EvaluatorRun}
    (isRun : (desk.stored holds).run = some run) :
    ∃ kept, desk.poller.dashboard.run = some kept ∧ run.id = kept.id ∧
      run.cursor = kept.cursor := by
  rw [stored, isWritten, Option.bind_some] at isRun
  obtain ⟨kept, metrics, startedAt, updatedAt, isKept, -, -, -, rfl⟩ :=
    Dashboard.run_parse?_text isRun
  exact ⟨kept, isKept, rfl, rfl⟩

end Desk

namespace Ledger

variable {σ ς : Type} [KeyValueStore σ]
  {holds : σ → String → Option String}

def new (store : σ) (service : ς) (supply : Supply) (interval : Nat) :
    Ledger σ ς where
  desk := .new store service supply interval
  inMemory := 0
  inStore := 0
  sessions := 0

section Steps

variable [AgentService ς] (holds : σ → String → Option String)

/-- A run is numbered when it is started.  Its number goes with it to the
store when it is written, and comes back when a session is opened. -/
def step (ledger : Ledger σ ς) (moment : Moment) (step : SessionStep) :
    Ledger σ ς :=
  let desk := ledger.desk.step moment step
  let opens := (ledger.desk.loaded? step).isSome
  let inMemory :=
    if ledger.desk.started.length < desk.started.length then
      desk.started.length
    else if opens then ledger.inStore
    else ledger.inMemory
  { desk, inMemory
    inStore := if desk.IsWritten holds then inMemory else ledger.inStore
    sessions := ledger.sessions + opens.toNat }

def after (ledger : Ledger σ ς) (steps : List (Moment × SessionStep)) :
    Ledger σ ς :=
  steps.foldl (fun ledger next => ledger.step holds next.1 next.2) ledger

/-- Nothing at the desk depends on the numbers. -/
theorem desk_after (ledger : Ledger σ ς)
    (steps : List (Moment × SessionStep)) :
    (ledger.after holds steps).desk = ledger.desk.after steps := by
  induction steps generalizing ledger with
  | nil => rfl
  | cons next rest ih => exact ih (ledger.step holds next.1 next.2)

end Steps

/-- How the run in memory comes about in a step. -/
inductive MovesMemory (holds : σ → String → Option String)
    (ledger next : Ledger σ ς) : Prop where
  | opened (isNumber : next.inMemory = ledger.inStore)
      (isSession : next.sessions = ledger.sessions + 1)
      (isStarted : next.desk.started = ledger.desk.started)
      (goesOn : GoesOn (ledger.desk.stored holds).run
        next.desk.poller.dashboard.run)
  | started (isNumber : next.inMemory = next.desk.started.length)
      (isStarted : next.desk.started.length = ledger.desk.started.length + 1)
  | same (isNumber : next.inMemory = ledger.inMemory)
      (isStarted : next.desk.started = ledger.desk.started)
      (goesOn : GoesOn ledger.desk.poller.dashboard.run
        next.desk.poller.dashboard.run)

/-- How the run in the store comes about in a step. -/
inductive MovesStore (holds : σ → String → Option String)
    (ledger next : Ledger σ ς) : Prop where
  | written (isNumber : next.inStore = next.inMemory)
      (isWritten : next.desk.IsWritten holds)
  | same (isNumber : next.inStore = ledger.inStore)
      (isStored : next.desk.stored holds = ledger.desk.stored holds)

theorem step_movesMemory [AgentService ς]
    (durable : KeyValueStore.Durable holds) (ledger : Ledger σ ς)
    (moment : Moment) (step : SessionStep) :
    MovesMemory holds ledger (ledger.step holds moment step) := by
  have moved := ledger.desk.step_movedFrom moment step
  rcases moved.goesOn with isNew | ⟨isStarted, goesOn⟩
  · have grows : ledger.desk.started.length <
        (ledger.desk.step moment step).started.length := by
      rw [isNew]
      exact Nat.lt_succ_self _
    exact .started (if_pos grows) isNew
  · have staysSame : ¬ledger.desk.started.length <
        (ledger.desk.step moment step).started.length := by
      rw [isStarted]
      exact Nat.lt_irrefl _
    cases loaded : ledger.desk.loaded? step with
    | none =>
        refine .same ?_ isStarted ?_
        · simp [Ledger.step, staysSame, loaded]
        · rw [Desk.base, loaded] at goesOn
          exact goesOn
    | some dashboard =>
        refine .opened ?_ ?_ isStarted ?_
        · simp [Ledger.step, staysSame, loaded]
        · simp [Ledger.step, loaded]
        · rw [Desk.base, loaded,
            Desk.eq_stored_of_loaded? durable loaded] at goesOn
          exact goesOn

theorem step_movesStore [AgentService ς]
    (durable : KeyValueStore.Durable holds) (ledger : Ledger σ ς)
    (moment : Moment) (step : SessionStep) :
    MovesStore holds ledger (ledger.step holds moment step) := by
  have moved := ledger.desk.step_movedFrom moment step
  by_cases isWritten : (ledger.desk.step moment step).IsWritten holds
  · exact .written (if_pos isWritten) isWritten
  · refine .same (if_neg isWritten) ?_
    rcases moved.isWritten_or_same durable with written | isSame
    · exact absurd written isWritten
    · exact isSame

theorem sessions_le_step [AgentService ς] (ledger : Ledger σ ς)
    (moment : Moment) (step : SessionStep) :
    ledger.sessions ≤ (ledger.step holds moment step).sessions :=
  Nat.le_add_right _ _

/-! ## Invariants -/

variable {ledger next : Ledger σ ς}

/-- Runs in memory and store that have one number are the same, and the one in
memory has been read as far. -/
structure IsNumbered (holds : σ → String → Option String)
    (ledger : Ledger σ ς) : Prop where
  inMemory : ledger.inMemory ≤ ledger.desk.started.length
  inStore : ledger.inStore ≤ ledger.desk.started.length
  isFurther : ledger.inStore = ledger.inMemory →
    ∀ run kept, ledger.desk.poller.dashboard.run = some run →
      (ledger.desk.stored holds).run = some kept → run.Extends kept

omit [KeyValueStore σ] in
theorem isNumbered_new (store : σ) (service : ς) (supply : Supply)
    (interval : Nat) :
    (new store service supply interval).IsNumbered holds := by
  refine ⟨Nat.le_refl 0, Nat.le_refl 0, ?_⟩
  intro _ run kept isRun
  cases isRun

omit [KeyValueStore σ] in
theorem IsNumbered.moved (numbered : ledger.IsNumbered holds)
    (memory : MovesMemory holds ledger next)
    (store : MovesStore holds ledger next) : next.IsNumbered holds := by
  have inMemory : next.inMemory ≤ next.desk.started.length := by
    cases memory with
    | opened isNumber _ isStarted _ =>
        rw [isNumber, isStarted]
        exact numbered.inStore
    | started isNumber _ => exact Nat.le_of_eq isNumber
    | same isNumber isStarted _ =>
        rw [isNumber, isStarted]
        exact numbered.inMemory
  have grows : ledger.desk.started.length ≤ next.desk.started.length := by
    cases memory with
    | opened _ _ isStarted _ | same _ isStarted _ => rw [isStarted]
    | started _ isStarted =>
        rw [isStarted]
        exact Nat.le_succ _
  cases store with
  | written isNumber isWritten =>
      refine ⟨inMemory, isNumber ▸ inMemory, ?_⟩
      intro _ run kept isRun isKept
      obtain ⟨other, isOther, sameId, sameCursor⟩ :=
        isWritten.exists_kept isKept
      obtain rfl := Option.some.inj (isRun.symm.trans isOther)
      exact ⟨sameId.symm, UInt64.le_of_eq sameCursor⟩
  | same isNumber isStored =>
      refine ⟨inMemory, ?_, ?_⟩
      · rw [isNumber]
        exact Nat.le_trans numbered.inStore grows
      · intro isOne run kept isRun isKept
        rw [isStored] at isKept
        cases memory with
        | opened _ _ _ goesOn =>
            obtain ⟨earlier, isEarlier, further⟩ := goesOn run isRun
            obtain rfl := Option.some.inj (isKept.symm.trans isEarlier)
            exact further
        | started isNew isStarted =>
            -- The number of a run that was just started is not in use.
            have bound := numbered.inStore
            omega
        | same isOld _ goesOn =>
            obtain ⟨earlier, isEarlier, further⟩ := goesOn run isRun
            exact further.trans (numbered.isFurther (by omega) earlier kept
              isEarlier isKept)

/-- From now on the run of a number extends a given one, in memory and in the
store. -/
structure IsPast (holds : σ → String → Option String) (number : Nat)
    (origin : EvaluatorRun) (ledger : Ledger σ ς) : Prop where
  isUsed : number ≤ ledger.desk.started.length
  inMemory : ledger.inMemory = number → ∀ run,
    ledger.desk.poller.dashboard.run = some run → run.Extends origin
  inStore : ledger.inStore = number → ∀ run,
    (ledger.desk.stored holds).run = some run → run.Extends origin

omit [KeyValueStore σ] in
theorem IsPast.moved {number : Nat} {origin : EvaluatorRun}
    (past : ledger.IsPast holds number origin)
    (memory : MovesMemory holds ledger next)
    (store : MovesStore holds ledger next) :
    next.IsPast holds number origin := by
  have isUsed := past.isUsed
  have inMemory : next.inMemory = number → ∀ run,
      next.desk.poller.dashboard.run = some run → run.Extends origin := by
    intro isNumber run isRun
    cases memory with
    | opened isStored _ _ goesOn =>
        obtain ⟨earlier, isEarlier, further⟩ := goesOn run isRun
        exact further.trans (past.inStore (by omega) earlier isEarlier)
    | started isNew isStarted => omega
    | same isOld _ goesOn =>
        obtain ⟨earlier, isEarlier, further⟩ := goesOn run isRun
        exact further.trans (past.inMemory (by omega) earlier isEarlier)
  refine ⟨?_, inMemory, ?_⟩
  · cases memory with
    | opened _ _ isStarted _ | same _ isStarted _ =>
        rw [isStarted]
        exact isUsed
    | started _ isStarted => omega
  · intro isNumber run isRun
    cases store with
    | written isOne isWritten =>
        obtain ⟨kept, isKept, sameId, sameCursor⟩ :=
          isWritten.exists_kept isRun
        obtain ⟨isSame, further⟩ := inMemory (by omega) kept isKept
        exact ⟨sameId.trans isSame, sameCursor ▸ further⟩
    | same isOld isStored =>
        rw [isStored] at isRun
        exact past.inStore (by omega) run isRun

/-- As long as no other session is opened the run of a number extends a given
one in memory, whether or not it is written. -/
structure IsAhead (sessions number : Nat) (origin : EvaluatorRun)
    (ledger : Ledger σ ς) : Prop where
  isUsed : number ≤ ledger.desk.started.length
  isLater : sessions ≤ ledger.sessions
  inMemory : ledger.sessions = sessions → ledger.inMemory = number → ∀ run,
    ledger.desk.poller.dashboard.run = some run → run.Extends origin

omit [KeyValueStore σ] in
theorem IsAhead.moved {sessions number : Nat} {origin : EvaluatorRun}
    (ahead : ledger.IsAhead sessions number origin)
    (grows : ledger.sessions ≤ next.sessions)
    (memory : MovesMemory holds ledger next) :
    next.IsAhead sessions number origin := by
  have isUsed := ahead.isUsed
  have isLater := ahead.isLater
  refine ⟨?_, Nat.le_trans isLater grows, ?_⟩
  · cases memory with
    | opened _ _ isStarted _ | same _ isStarted _ =>
        rw [isStarted]
        exact isUsed
    | started _ isStarted => omega
  · intro isSession isNumber run isRun
    cases memory with
    | opened _ isOther _ _ => omega
    | started isNew isStarted => omega
    | same isOld _ goesOn =>
        obtain ⟨earlier, isEarlier, further⟩ := goesOn run isRun
        exact further.trans
          (ahead.inMemory (by omega) (by omega) earlier isEarlier)

/-! ## Everything that happens -/

section After

variable [AgentService ς] (durable : KeyValueStore.Durable holds)
include durable

theorem IsNumbered.after (numbered : ledger.IsNumbered holds)
    (steps : List (Moment × SessionStep)) :
    (ledger.after holds steps).IsNumbered holds := by
  induction steps generalizing ledger with
  | nil => exact numbered
  | cons next rest ih =>
      apply ih
      exact numbered.moved (ledger.step_movesMemory durable next.1 next.2)
        (ledger.step_movesStore durable next.1 next.2)

theorem IsPast.after {number : Nat} {origin : EvaluatorRun}
    (past : ledger.IsPast holds number origin)
    (steps : List (Moment × SessionStep)) :
    (ledger.after holds steps).IsPast holds number origin := by
  induction steps generalizing ledger with
  | nil => exact past
  | cons next rest ih =>
      apply ih
      exact past.moved (ledger.step_movesMemory durable next.1 next.2)
        (ledger.step_movesStore durable next.1 next.2)

theorem IsAhead.after {sessions number : Nat} {origin : EvaluatorRun}
    (ahead : ledger.IsAhead sessions number origin)
    (steps : List (Moment × SessionStep)) :
    (ledger.after holds steps).IsAhead sessions number origin := by
  induction steps generalizing ledger with
  | nil => exact ahead
  | cons next rest ih =>
      apply ih
      exact ahead.moved (ledger.sessions_le_step next.1 next.2)
        (ledger.step_movesMemory durable next.1 next.2)

end After

/-- No cursor goes back from one ledger to a later one: in memory as long as
the session lasts, and in the store ever. -/
structure Precedes (holds : σ → String → Option String)
    (earlier later : Ledger σ ς) : Prop where
  inMemory : later.sessions = earlier.sessions →
    later.inMemory = earlier.inMemory → ∀ run reached,
    earlier.desk.poller.dashboard.run = some run →
    later.desk.poller.dashboard.run = some reached → reached.Extends run
  inStore : later.inStore = earlier.inStore → ∀ run reached,
    (earlier.desk.stored holds).run = some run →
    (later.desk.stored holds).run = some reached → reached.Extends run

theorem IsNumbered.precedes_after [AgentService ς]
    (durable : KeyValueStore.Durable holds)
    (numbered : ledger.IsNumbered holds)
    (steps : List (Moment × SessionStep)) :
    ledger.Precedes holds (ledger.after holds steps) := by
  constructor
  · intro isSession isNumber run reached isRun isReached
    have ahead : ledger.IsAhead ledger.sessions ledger.inMemory run := by
      refine ⟨numbered.inMemory, Nat.le_refl _, ?_⟩
      intro _ _ present isPresent
      obtain rfl := Option.some.inj (isRun.symm.trans isPresent)
      exact .refl run
    exact (ahead.after durable steps).inMemory isSession isNumber reached
      isReached
  · intro isNumber run reached isRun isReached
    have past : ledger.IsPast holds ledger.inStore run := by
      refine ⟨numbered.inStore, ?_, ?_⟩
      · intro isOne present isPresent
        exact numbered.isFurther isOne.symm present run isPresent isRun
      · intro _ present isPresent
        obtain rfl := Option.some.inj (isRun.symm.trans isPresent)
        exact .refl run
    exact (past.after durable steps).inStore isNumber reached isReached

/-- Whatever the service answers, whichever writes fail and whatever the store
held at first, no cursor ever goes back, and an answer that does not reach
behind the cursor brings no progress. -/
theorem cursor_after [AgentService ς]
    (durable : KeyValueStore.Durable holds) (store : σ) (service : ς)
    (supply : Supply) (interval : Nat)
    (steps later : List (Moment × SessionStep)) :
    ((new store service supply interval).after holds steps).Precedes holds
      (((new store service supply interval).after holds steps).after holds
        later) ∧
    ∀ poll run,
      ((new store service supply interval).after holds
        steps).desk.poller.polledRun? poll = some run →
      ((new store service supply interval).after holds
        steps).desk.poller.GuardsCursor poll run := by
  constructor
  · have numbered : (new store service supply interval).IsNumbered holds :=
      isNumbered_new store service supply interval
    exact (numbered.after durable steps).precedes_after durable later
  · intro poll run polled
    exact Poller.guardsCursor_of_polledRun? polled

/-- A desk over a store that will fail to keep what is first read. -/
def flaky : Ledger FlakyStore RecordedService :=
  new ⟨.empty, [true, false]⟩ Desk.oneRun ⟨0, 0, ⟨0, 0⟩⟩ 600

/-- The run is read up to a cursor that is not written. -/
def reading : List (Moment × SessionStep) :=
  [(Desk.epoch, .ask),
    (Desk.epoch, .answer ⟨⟨"run-1", 0⟩, 1⟩ false
      (.ok ⟨.running, 5, .empty, none, none, none⟩))]

theorem cursor_unwritten :
    let holds := fun store : FlakyStore => store.documents.find?
    let begun := flaky.after holds Desk.beginning
    let ended := begun.after holds reading
    begun.Precedes holds ended ∧
      ended.sessions = begun.sessions ∧ ended.inMemory = begun.inMemory ∧
      begun.desk.poller.dashboard.run.map (·.cursor) = some 0 ∧
      ended.desk.poller.dashboard.run.map (·.cursor) = some 5 := by
  refine ⟨(cursor_after FlakyStore.durable _ _ _ _ _ _).1, ?_⟩
  decide +kernel

end Ledger

end AgentPipeline
