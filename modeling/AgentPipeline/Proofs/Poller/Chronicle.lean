import AgentPipeline.Proofs.Poller.Tail
import AgentPipeline.Proofs.Poller.WriteThrough

/-!
# What is told of one run

The present run of a desk is the one that was started last, or before that the
one that the store held at first.  On a store that does not fail whoever has
heard what was told of it knows where it stands, and is told once that it has
ended and nothing after that.
Main statement: `keepsCourse_after`.
-/

namespace AgentPipeline

namespace Event

/-- The run that the event is about. -/
def about? : Event → Option String
  | .evaluatorStarted id _ | .evaluatorResumed id | .pollTick id _ _
  | .evaluatorStatusChanged id _ _ => some id
  | _ => none

/-- The run and the status that the event says it has. -/
def standing? : Event → Standing
  | .evaluatorStarted id _ | .evaluatorResumed id => some (id, .running)
  | .evaluatorStatusChanged id status _ => some (id, status)
  | _ => none

def cursor? : Event → Option UInt64
  | .pollTick _ cursor _ => some cursor
  | _ => none

/-- The event says that a run has ended. -/
def settles : Event → Bool
  | .evaluatorStatusChanged _ status _ => status.isTerminal
  | _ => false

theorem TellsOf.about? {event : Event} {run : EvaluatorRun}
    (tells : event.TellsOf run) : event.about? = some run.id := by
  cases event with
  | evaluatorStarted | pollTick | evaluatorStatusChanged | evaluatorResumed =>
      exact congrArg some tells.1.symm
  | _ => cases tells

theorem TellsOf.cursor? {event : Event} {run : EvaluatorRun}
    (tells : event.TellsOf run) {cursor : UInt64}
    (isCursor : event.cursor? = some cursor) : cursor = run.cursor := by
  cases event with
  | pollTick id seen items =>
      cases isCursor
      exact tells.2.1.symm
  | _ => cases isCursor

/-- An event that is about no run says nothing of one. -/
theorem silent_of_about? {event : Event} (aboutNone : event.about? = none) :
    event.standing? = none ∧ event.cursor? = none ∧
      event.settles = false := by
  cases event with
  | evaluatorStarted | pollTick | evaluatorStatusChanged | evaluatorResumed =>
      cases aboutNone
  | _ => exact ⟨rfl, rfl, rfl⟩

end Event

namespace Standing

/-- What is known of a run after something was told of it. -/
def hear (standing : Standing) (events : List Event) : Standing :=
  events.foldl (fun told event => event.standing?.or told) standing

theorem hear_append (standing : Standing) (first second : List Event) :
    standing.hear (first ++ second) = (standing.hear first).hear second :=
  List.foldl_append

theorem hear_of_silent {events : List Event}
    (silent : ∀ event ∈ events, event.about? = none) (standing : Standing) :
    standing.hear events = standing := by
  induction events generalizing standing with
  | nil => rfl
  | cons event later ih =>
      rw [List.forall_mem_cons] at silent
      obtain ⟨sameStanding, -, -⟩ := Event.silent_of_about? silent.1
      have rest := ih silent.2 (event.standing?.or standing)
      rw [sameStanding, Option.none_or] at rest
      rw [hear, List.foldl_cons, sameStanding, Option.none_or]
      exact rest

/-- There is a run, and it has ended. -/
def isSettled (standing : Standing) : Bool :=
  standing.any fun known => known.2.isTerminal

end Standing

/-! ## One run -/

/-- What has been told of a run, of which something may have been known at
first. -/
structure Told (found : Standing) (heard : List Event) (run : EvaluatorRun) :
    Prop where
  standing : found.hear heard = some run.standing
  isAbout : ∀ event ∈ heard, ∀ id, event.about? = some id → id = run.id
  behind : ∀ event ∈ heard, ∀ cursor, event.cursor? = some cursor →
    cursor ≤ run.cursor

/-- How a run is told of. -/
structure Course (found : Standing) (heard : List Event) : Prop where
  /-- The end of a run that was not over at first is told once. -/
  once : (heard.filter Event.settles).length =
    ((found.hear heard).isSettled && !found.isSettled).toNat
  /-- Nothing is told of a run that was over at first. -/
  silent : found.isSettled = true → ∀ event ∈ heard, event.about? = none
  notifies : ∀ event ∈ heard, event.settles = true →
    ∃ id status, event = .evaluatorStatusChanged id status true
  /-- Nothing is told of the run after its end. -/
  final : heard.Pairwise fun earlier later =>
    earlier.settles = true → later.about? = none
  ordered : (heard.filterMap Event.cursor?).Pairwise (· ≤ ·)

/-- What is told in a step that takes a live run to where it is then. -/
structure Relates (run reached : EvaluatorRun) (events : List Event) :
    Prop where
  isLive : run.status.isLive = true
  further : reached.Extends run
  tellsOf : ∀ event ∈ events, event.TellsOf reached
  hears : Standing.hear (some run.standing) events = some reached.standing
  once : (events.filter Event.settles).length =
    reached.status.isTerminal.toNat
  notifies : ∀ event ∈ events, event.settles = true →
    ∃ id status, event = .evaluatorStatusChanged id status true
  final : events.Pairwise fun earlier later =>
    earlier.settles = true → later.about? = none

section Append

variable {found : Standing} {heard events : List Event}
  {run reached : EvaluatorRun}

theorem Told.of_same (told : Told found heard run)
    (sameStanding : reached.standing = run.standing)
    (sameCursor : reached.cursor = run.cursor) :
    Told found heard reached where
  standing := by
    rw [sameStanding]
    exact told.standing
  isAbout := by
    rw [show reached.id = run.id from congrArg Prod.fst sameStanding]
    exact told.isAbout
  behind := by
    rw [sameCursor]
    exact told.behind

theorem Told.append (told : Told found heard run)
    (relates : Relates run reached events) :
    Told found (heard ++ events) reached where
  standing := by
    rw [Standing.hear_append, told.standing]
    exact relates.hears
  isAbout := by
    intro event isHeard id isAbout
    rcases List.mem_append.mp isHeard with isOld | isNew
    · rw [relates.further.1]
      exact told.isAbout event isOld id isAbout
    · have isReached := (relates.tellsOf event isNew).about?
      exact Option.some.inj (isAbout.symm.trans isReached)
  behind := by
    intro event isHeard cursor isCursor
    rcases List.mem_append.mp isHeard with isOld | isNew
    · exact UInt64.le_trans (told.behind event isOld cursor isCursor)
        relates.further.2
    · exact UInt64.le_of_eq ((relates.tellsOf event isNew).cursor? isCursor)

/-- A live run was not over at first, and no end of it has been told. -/
theorem Course.of_isLive (course : Course found heard)
    (told : Told found heard run) (isLive : run.status.isLive = true) :
    found.isSettled = false ∧ heard.filter Event.settles = [] := by
  have notOver : (found.hear heard).isSettled = false := by
    rw [told.standing]
    exact EvaluatorStatus.not_isTerminal_of_isLive isLive
  constructor
  · cases wasOver : found.isSettled with
    | false => rfl
    | true =>
        rw [Standing.hear_of_silent (course.silent wasOver), wasOver]
          at notOver
        cases notOver
  · apply List.length_eq_zero_iff.mp
    rw [course.once, notOver]
    rfl

theorem Course.append (course : Course found heard)
    (told : Told found heard run) (relates : Relates run reached events) :
    Course found (heard ++ events) := by
  obtain ⟨notFound, noEnd⟩ := course.of_isLive told relates.isLive
  constructor
  case once =>
    rw [List.filter_append, noEnd, List.nil_append, relates.once,
      (told.append relates).standing, notFound]
    simp [Standing.isSettled, EvaluatorRun.standing]
  case silent =>
    intro wasOver
    cases notFound.symm.trans wasOver
  case notifies =>
    intro event isHeard settles
    rcases List.mem_append.mp isHeard with isOld | isNew
    · exact course.notifies event isOld settles
    · exact relates.notifies event isNew settles
  case final =>
    apply List.pairwise_append.mpr
    refine ⟨course.final, relates.final, ?_⟩
    intro earlier isOld later isNew settles
    have isEnd : earlier ∈ heard.filter Event.settles :=
      List.mem_filter.mpr ⟨isOld, settles⟩
    rw [noEnd] at isEnd
    cases isEnd
  case ordered =>
    rw [List.filterMap_append]
    apply List.pairwise_append.mpr
    have isReached : ∀ cursor ∈ events.filterMap Event.cursor?,
        cursor = reached.cursor := by
      intro cursor isNew
      obtain ⟨event, isEvent, isCursor⟩ := List.mem_filterMap.mp isNew
      exact (relates.tellsOf event isEvent).cursor? isCursor
    refine ⟨course.ordered, ?_, ?_⟩
    · apply List.pairwise_of_forall_mem_list
      intro earlier isEarlier later isLater
      rw [isReached earlier isEarlier, isReached later isLater]
      exact UInt64.le_refl reached.cursor
    · intro earlier isOld later isNew
      obtain ⟨event, isHeard, isCursor⟩ := List.mem_filterMap.mp isOld
      rw [isReached later isNew]
      exact UInt64.le_trans (told.behind event isHeard earlier isCursor)
        relates.further.2

/-- Events that are about no run make no difference. -/
theorem Told.append_silent (told : Told found heard run)
    (silent : ∀ event ∈ events, event.about? = none) :
    Told found (heard ++ events) run where
  standing := by
    rw [Standing.hear_append, Standing.hear_of_silent silent]
    exact told.standing
  isAbout := by
    intro event isHeard id isAbout
    rcases List.mem_append.mp isHeard with isOld | isNew
    · exact told.isAbout event isOld id isAbout
    · cases (silent event isNew).symm.trans isAbout
  behind := by
    intro event isHeard cursor isCursor
    rcases List.mem_append.mp isHeard with isOld | isNew
    · exact told.behind event isOld cursor isCursor
    · obtain ⟨-, noCursor, -⟩ := Event.silent_of_about? (silent event isNew)
      cases noCursor.symm.trans isCursor

theorem Course.append_silent (course : Course found heard)
    (silent : ∀ event ∈ events, event.about? = none) :
    Course found (heard ++ events) := by
  have noEnd : events.filter Event.settles = [] := by
    apply List.filter_eq_nil_iff.mpr
    intro event isNew
    rw [(Event.silent_of_about? (silent event isNew)).2.2]
    exact Bool.false_ne_true
  have noCursor : events.filterMap Event.cursor? = [] := by
    apply List.filterMap_eq_nil_iff.mpr
    intro event isNew
    exact (Event.silent_of_about? (silent event isNew)).2.1
  constructor
  case once =>
    rw [List.filter_append, noEnd, List.append_nil, Standing.hear_append,
      Standing.hear_of_silent silent]
    exact course.once
  case silent =>
    intro wasOver event isHeard
    rcases List.mem_append.mp isHeard with isOld | isNew
    · exact course.silent wasOver event isOld
    · exact silent event isNew
  case notifies =>
    intro event isHeard settles
    rcases List.mem_append.mp isHeard with isOld | isNew
    · exact course.notifies event isOld settles
    · have isEnd := List.mem_filter.mpr ⟨isNew, settles⟩
      rw [noEnd] at isEnd
      cases isEnd
  case final =>
    apply List.pairwise_append.mpr
    refine ⟨course.final, ?_, ?_⟩
    · apply List.pairwise_of_forall_mem_list
      intro earlier _ later isNew _
      exact silent later isNew
    · intro earlier _ later isNew _
      exact silent later isNew
  case ordered =>
    rw [List.filterMap_append, noCursor, List.append_nil]
    exact course.ordered

end Append

/-! ## What a step tells -/

/-- A live run changes its status and that is told, last of all. -/
theorem relates_of_change {run reached : EvaluatorRun}
    (isLive : run.status.isLive = true) (further : reached.Extends run)
    {ticks : List Event} (areTicks : ∀ event ∈ ticks, event = reached.tick)
    {change : Event} (tells : change.TellsOf reached)
    (isStanding : change.standing? = some reached.standing)
    (settles : change.settles = reached.status.isTerminal)
    (notifies : change.settles = true →
      ∃ id status, change = .evaluatorStatusChanged id status true) :
    Relates run reached (ticks ++ [change]) := by
  have noEnd : ticks.filter Event.settles = [] := by
    apply List.filter_eq_nil_iff.mpr
    intro event isTick
    rw [areTicks event isTick]
    exact Bool.false_ne_true
  constructor
  case isLive => exact isLive
  case further => exact further
  case tellsOf =>
    intro event isEvent
    rcases List.mem_append.mp isEvent with isTick | isChange
    · rw [areTicks event isTick]
      exact ⟨rfl, rfl, rfl⟩
    · rw [List.mem_singleton.mp isChange]
      exact tells
  case hears =>
    rw [Standing.hear_append]
    simp [Standing.hear, isStanding]
  case once =>
    rw [List.filter_append, noEnd, List.nil_append, ← settles]
    cases isEnd : change.settles <;> simp [isEnd]
  case notifies =>
    intro event isEvent isEnd
    rcases List.mem_append.mp isEvent with isTick | isChange
    · rw [areTicks event isTick] at isEnd
      cases isEnd
    · rw [List.mem_singleton.mp isChange] at isEnd ⊢
      exact notifies isEnd
  case final =>
    apply List.pairwise_append.mpr
    refine ⟨?_, List.pairwise_singleton _ _, ?_⟩
    · apply List.pairwise_of_forall_mem_list
      intro earlier isTick later _ isEnd
      rw [areTicks earlier isTick] at isEnd
      cases isEnd
    · intro earlier isTick later _ isEnd
      rw [areTicks earlier isTick] at isEnd
      cases isEnd

theorem relates_resumed {run reached : EvaluatorRun}
    (isLive : run.status.isLive = true) (further : reached.Extends run)
    (isRunning : reached.status = .running) :
    Relates run reached [.evaluatorResumed reached.id] := by
  apply relates_of_change isLive further (List.forall_mem_nil _)
  · exact ⟨rfl, isRunning⟩
  · rw [EvaluatorRun.standing, isRunning]
    rfl
  · rw [isRunning]
    rfl
  · intro isEnd
    cases isEnd

theorem relates_changed {run reached : EvaluatorRun}
    (isLive : run.status.isLive = true) (further : reached.Extends run)
    {ticks : List Event} (areTicks : ∀ event ∈ ticks, event = reached.tick)
    {status : EvaluatorStatus} (isStatus : reached.status = status)
    {notify : Bool} (notifies : status.isTerminal = true → notify = true) :
    Relates run reached
      (ticks ++ [.evaluatorStatusChanged reached.id status notify]) := by
  apply relates_of_change isLive further areTicks
  · exact ⟨rfl, isStatus⟩
  · rw [EvaluatorRun.standing, isStatus]
    rfl
  · rw [isStatus]
    rfl
  · intro isEnd
    rw [notifies isEnd]
    exact ⟨_, _, rfl⟩

/-- A tick tells how far the run was read, and its status stays. -/
theorem relates_tick {run reached : EvaluatorRun}
    (further : reached.Extends run) (wasRunning : run.status = .running)
    (isRunning : reached.status = .running) :
    Relates run reached [reached.tick] where
  isLive := by
    rw [wasRunning]
    rfl
  further := further
  tellsOf := by
    intro event isEvent
    rw [List.mem_singleton.mp isEvent]
    exact ⟨rfl, rfl, rfl⟩
  hears := by
    rw [EvaluatorRun.standing, EvaluatorRun.standing, wasRunning, isRunning,
      further.1]
    rfl
  once := by
    rw [isRunning]
    rfl
  notifies := by
    intro event isEvent isEnd
    rw [List.mem_singleton.mp isEvent] at isEnd
    cases isEnd
  final := List.pairwise_singleton _ _

/-- A move of an old run is from a live one if it is told of. -/
theorem RunMove.isLive_of_news {now : Timestamp} {pause : Option Pause}
    {cause : RunCause} {run reached : EvaluatorRun} {events : List Event}
    (move : RunMove now cause (some run) (some reached))
    (isOld : cause ≠ .start) (news : RunNews pause reached cause events) :
    run.status.isLive = true := by
  cases news with
  | started _ => exact absurd rfl isOld
  | paused _ _ =>
      cases move with
      | suspend running _ => rw [running]; rfl
  | resumed _ | pickedUp _ =>
      cases move with
      | resume suspended => rw [suspended]; rfl
  | stopped _ =>
      cases move with
      | stop live => exact live
  | read _ _ _ | settled _ _ _ =>
      cases move with
      | poll _ running _ => rw [running]; rfl

/-- A run that moves and is told of was live before, unless it has just been
started. -/
theorem RunNews.relates {now : Timestamp} {pause : Option Pause}
    {cause : RunCause} {before : Option EvaluatorRun}
    {reached : EvaluatorRun} {events : List Event}
    (news : RunNews pause reached cause events) (isOld : cause ≠ .start)
    (move : RunMove now cause before (some reached)) :
    ∃ run, before = some run ∧ Relates run reached events := by
  obtain ⟨run, rfl, further⟩ := move.goesOn isOld reached rfl
  have isLive := move.isLive_of_news isOld news
  refine ⟨run, rfl, ?_⟩
  cases news with
  | started _ => exact absurd rfl isOld
  | paused _ isStatus =>
      exact relates_changed isLive further (List.forall_mem_nil _) isStatus
        nofun
  | resumed isStatus | stopped isStatus =>
      exact relates_changed isLive further (List.forall_mem_nil _) isStatus
        fun _ => rfl
  | pickedUp isRunning => exact relates_resumed isLive further isRunning
  | read _ _ isRunning =>
      cases move with
      | poll _ wasRunning _ =>
          exact relates_tick further wasRunning isRunning
  | settled _ _ _ =>
      exact relates_changed isLive further
        (List.forall_mem_singleton.mpr rfl) rfl fun _ => rfl

/-- A start brings another run than there was. -/
theorem RunMove.ne_of_start {now : Timestamp}
    {before after : Option EvaluatorRun}
    (move : RunMove now .start before after) : after ≠ before := by
  intro same
  cases move with
  | start notLive kind id itemLimit model =>
      cases notLive _ same.symm

namespace Desk

variable {σ ς : Type} [KeyValueStore σ] {works : σ → Prop}
  {desk after : Desk σ ς} {base : Dashboard} {now : Timestamp}
  {cause : RunCause}

theorem MovedFrom.started_of_grows (moved : MovedFrom base now cause desk after)
    (grows : desk.started.length < after.started.length) :
    cause = .start ∧ RunMove now .start base.run after.poller.dashboard.run := by
  cases moved with
  | unchanged _ _ isStarted _ | moved _ _ _ isStarted _
  | asked _ _ _ _ isStarted _ =>
      rw [isStarted] at grows
      cases Nat.lt_irrefl _ grows
  | started isStart _ isRun move _ _ _ =>
      rw [isRun]
      exact ⟨isStart, move⟩

/-- Where no run was started there is no start. -/
theorem MovedFrom.isOld_of_move (moved : MovedFrom base now cause desk after)
    (staysSame : ¬desk.started.length < after.started.length)
    (move : RunMove now cause base.run after.poller.dashboard.run) :
    cause ≠ .start := by
  rintro rfl
  cases moved with
  | unchanged isDashboard _ _ _ | asked _ _ isDashboard _ _ _ =>
      exact move.ne_of_start (congrArg Dashboard.run isDashboard)
  | moved isOld _ _ _ _ => exact isOld rfl
  | started _ _ _ _ _ isStarted _ =>
      apply staysSame
      rw [isStarted, List.length_append]
      exact Nat.lt_succ_self _

/-- Whatever is found after a write is the run in memory, up to its table of
metrics and its times. -/
theorem shows_written (faultless : KeyValueStore.Faultless works)
    (working : works desk.poller.store)
    (isStore : after.poller.store = (KeyValueStore.write desk.poller.store
      StoreKey.dashboard.name after.poller.dashboard.encode).2)
    {run : EvaluatorRun} (isShown : after.Shows run) :
    ∃ kept, after.poller.dashboard.run = some kept ∧
      run.standing = kept.standing ∧ run.cursor = kept.cursor := by
  obtain ⟨dashboard, rfl | ⟨found, isFound, rfl⟩, isRun⟩ := isShown
  · exact ⟨run, isRun, rfl, rfl⟩
  · rw [isStore, faultless.read_write working] at isFound
    cases isFound
    obtain ⟨kept, metrics, _, _, isKept, -, -, -, rfl⟩ :=
      Dashboard.run_parse?_text isRun
    exact ⟨kept, isKept, rfl, rfl⟩

/-- A step that leaves the run as it is, or none, shows no other one. -/
theorem shows_step [AgentService ς] (faultless : KeyValueStore.Faultless works)
    (working : works desk.poller.store) {moment : Moment}
    {step : SessionStep}
    (stays : ∀ kept, (desk.step moment step).poller.dashboard.run =
      some kept → (desk.base step).run = some kept)
    {run : EvaluatorRun} (isShown : (desk.step moment step).Shows run) :
    ∃ kept, desk.Shows kept ∧ run.standing = kept.standing ∧
      run.cursor = kept.cursor := by
  rcases (desk.step_movedFrom moment step).untouched_or_written with
    ⟨isDashboard, isStore⟩ | isStore
  · refine ⟨run, ?_, rfl, rfl⟩
    obtain ⟨dashboard, rfl | found, isRun⟩ := isShown
    · rw [isDashboard] at isRun
      exact ⟨_, desk.knows_base step, isRun⟩
    · rw [isStore] at found
      exact ⟨dashboard, .inr found, isRun⟩
  · obtain ⟨kept, isKept, sameStanding, sameCursor⟩ :=
      shows_written faultless working isStore isShown
    exact ⟨kept, ⟨_, desk.knows_base step, stays kept isKept⟩, sameStanding,
      sameCursor⟩

end Desk

/-! ## Everything that is told -/

/-- A desk with all that has been told of its present run. -/
structure Chronicle (σ ς : Type) where
  desk : Desk σ ς
  /-- Where the run stood that the store held at first, as long as no other
  one has been started. -/
  found : Standing
  heard : List Event

namespace Chronicle

variable {σ ς : Type} [KeyValueStore σ]

def new (store : σ) (service : ς) (supply : Supply) (interval : Nat) :
    Chronicle σ ς where
  desk := .new store service supply interval
  found :=
    match KeyValueStore.read Dashboard.decoder store
        StoreKey.dashboard.name with
    | .error _ => none
    | .ok found => (found.getD .empty).run.map EvaluatorRun.standing
  heard := []

/-- With the start of another run everything begins anew. -/
def step [AgentService ς] (chronicle : Chronicle σ ς) (moment : Moment)
    (step : SessionStep) : Chronicle σ ς :=
  let desk := chronicle.desk.step moment step
  let news := chronicle.desk.news moment step
  if chronicle.desk.started.length < desk.started.length then
    { desk, found := none, heard := news }
  else { chronicle with desk, heard := chronicle.heard ++ news }

def after [AgentService ς] (chronicle : Chronicle σ ς)
    (steps : List (Moment × SessionStep)) : Chronicle σ ς :=
  steps.foldl (fun chronicle next => chronicle.step next.1 next.2) chronicle

theorem desk_after [AgentService ς] (chronicle : Chronicle σ ς)
    (steps : List (Moment × SessionStep)) :
    (chronicle.after steps).desk = chronicle.desk.after steps := by
  induction steps generalizing chronicle with
  | nil => rfl
  | cons next rest ih =>
      have first : (chronicle.step next.1 next.2).desk =
          chronicle.desk.step next.1 next.2 := by
        unfold step
        dsimp only
        split <;> rfl
      rw [after, List.foldl_cons, ← after, ih, first]
      rfl

structure IsFaithful (works : σ → Prop) (chronicle : Chronicle σ ς) :
    Prop where
  working : works chronicle.desk.poller.store
  told : ∀ run, chronicle.desk.Shows run →
    Told chronicle.found chronicle.heard run
  course : Course chronicle.found chronicle.heard

section Step

variable [AgentService ς] {works : σ → Prop} {chronicle : Chronicle σ ς}

omit [AgentService ς] in
theorem write_ne_error (faultless : KeyValueStore.Faultless works)
    {store after : σ} (working : works store) {key : String} {value : Json}
    {error : StorageError} :
    KeyValueStore.write store key value ≠ (.error error, after) := by
  intro failed
  have written := faultless.set_ok working key value.text
  rw [KeyValueStore.write] at failed
  rw [failed] at written
  cases written

/-- Of a run that was started in a step only that is told. -/
theorem news_of_start (faultless : KeyValueStore.Faultless works)
    {desk : Desk σ ς} (working : works desk.poller.store) {moment : Moment}
    {step : SessionStep}
    (grows : desk.started.length <
      (desk.step moment step).started.length) :
    ∃ run, (desk.step moment step).poller.dashboard.run = some run ∧
      run.status = .running ∧
      (desk.step moment step).poller.store = (KeyValueStore.write
        desk.poller.store StoreKey.dashboard.name
          (desk.step moment step).poller.dashboard.encode).2 ∧
      desk.news moment step = [.evaluatorStarted run.id run.kind] := by
  obtain ⟨isStart, move⟩ :=
    (desk.step_movedFrom moment step).started_of_grows grows
  have reports := desk.step_reports moment step
  rw [isStart] at reports
  generalize desk.news moment step = events at reports
  cases reports with
  | silent sameRun | found _ _ sameRun =>
      exact absurd sameRun move.ne_of_start
  | rejected isPoll _ _ _ _ => cases isPoll
  | cleared _ isNone =>
      rw [isNone] at move
      cases move
  | written isRun isWritten _ news =>
      cases news with
      | started isRunning =>
          exact ⟨_, isRun, isRunning, (congrArg Prod.snd isWritten).symm,
            rfl⟩
  | unwritten failed | marked _ _ _ _ _ failed _ =>
      exact absurd failed (write_ne_error faultless working)

omit [AgentService ς] [KeyValueStore σ] in
theorem told_start {run : EvaluatorRun} (isRunning : run.status = .running) :
    Told none [.evaluatorStarted run.id run.kind] run where
  standing := by
    rw [EvaluatorRun.standing, isRunning]
    rfl
  isAbout := by
    intro event isHeard id isAbout
    rw [List.mem_singleton.mp isHeard] at isAbout
    exact (Option.some.inj isAbout).symm
  behind := by
    intro event isHeard cursor isCursor
    rw [List.mem_singleton.mp isHeard] at isCursor
    cases isCursor

omit [AgentService ς] [KeyValueStore σ] in
theorem course_start (id kind : String) :
    Course none [.evaluatorStarted id kind] where
  once := rfl
  silent := nofun
  notifies := by
    intro event isHeard isEnd
    rw [List.mem_singleton.mp isHeard] at isEnd
    cases isEnd
  final := List.pairwise_singleton _ _
  ordered := List.Pairwise.nil

/-- With a start everything begins anew. -/
theorem IsFaithful.start (faithful : chronicle.IsFaithful works)
    (faultless : KeyValueStore.Faultless works) {moment : Moment}
    {step : SessionStep}
    (grows : chronicle.desk.started.length <
      (chronicle.desk.step moment step).started.length) :
    IsFaithful works
      { desk := chronicle.desk.step moment step
        found := none
        heard := chronicle.desk.news moment step } := by
  obtain ⟨run, isRun, isRunning, isStore, isNews⟩ :=
    news_of_start faultless faithful.working grows
  rw [isNews]
  constructor
  case working =>
    exact Desk.works_step faultless faithful.working moment step
  case told =>
    intro other isShown
    obtain ⟨kept, isKept, sameStanding, sameCursor⟩ :=
      Desk.shows_written faultless faithful.working isStore isShown
    obtain rfl := Option.some.inj (isRun.symm.trans isKept)
    exact (told_start isRunning).of_same sameStanding sameCursor
  case course => exact course_start run.id run.kind

/-- A step that leaves the run as it is, or none, and tells nothing of it. -/
theorem IsFaithful.keep (faithful : chronicle.IsFaithful works)
    (faultless : KeyValueStore.Faultless works) {moment : Moment}
    {step : SessionStep}
    (stays : ∀ kept, (chronicle.desk.step moment
      step).poller.dashboard.run = some kept →
        (chronicle.desk.base step).run = some kept)
    {events : List Event} (silent : ∀ event ∈ events, event.about? = none) :
    IsFaithful works
      { chronicle with
        desk := chronicle.desk.step moment step
        heard := chronicle.heard ++ events } := by
  constructor
  case working =>
    exact Desk.works_step faultless faithful.working moment step
  case told =>
    intro run isShown
    obtain ⟨kept, isShown, sameStanding, sameCursor⟩ :=
      Desk.shows_step faultless faithful.working stays isShown
    have told := (faithful.told kept isShown).of_same sameStanding sameCursor
    exact told.append_silent silent
  case course => exact faithful.course.append_silent silent

omit [AgentService ς] in
/-- The dashboard with which a step begins may show the run as well. -/
theorem IsFaithful.told_base (faithful : chronicle.IsFaithful works)
    {step : SessionStep} {run : EvaluatorRun}
    (isRun : (chronicle.desk.base step).run = some run) :
    Told chronicle.found chronicle.heard run :=
  faithful.told run ⟨_, chronicle.desk.knows_base step, isRun⟩

/-- A run that is found running is told to have been resumed. -/
theorem IsFaithful.resume (faithful : chronicle.IsFaithful works)
    (faultless : KeyValueStore.Faultless works) {moment : Moment}
    {step : SessionStep} {run : EvaluatorRun}
    (isRun : (chronicle.desk.base step).run = some run)
    (isRunning : run.status = .running)
    (sameRun : (chronicle.desk.step moment step).poller.dashboard.run =
      (chronicle.desk.base step).run) :
    IsFaithful works
      { chronicle with
        desk := chronicle.desk.step moment step
        heard := chronicle.heard ++ [.evaluatorResumed run.id] } := by
  have told := faithful.told_base isRun
  have isLive : run.status.isLive = true := by rw [isRunning]; rfl
  constructor
  case working =>
    exact Desk.works_step faultless faithful.working moment step
  case told =>
    intro other isShown
    obtain ⟨kept, isShown, sameStanding, sameCursor⟩ :=
      Desk.shows_step faultless faithful.working (fun kept => sameRun ▸ id)
        isShown
    -- Whatever is shown stands where the run in memory does.
    have keptTold := faithful.told kept isShown
    have same : kept.standing = run.standing :=
      Option.some.inj (keptTold.standing.symm.trans told.standing)
    have sameId : kept.id = run.id := congrArg Prod.fst same
    have sameStatus : kept.status = run.status := congrArg Prod.snd same
    have relates := relates_resumed (sameStatus ▸ isLive) (.refl kept)
      (sameStatus.trans isRunning)
    rw [sameId] at relates
    exact (keptTold.append relates).of_same sameStanding sameCursor
  case course =>
    exact faithful.course.append told
      (relates_resumed isLive (.refl run) isRunning)

/-- A step writes where it has taken the run and tells of it. -/
theorem IsFaithful.relate (faithful : chronicle.IsFaithful works)
    (faultless : KeyValueStore.Faultless works) {moment : Moment}
    {step : SessionStep} {run reached : EvaluatorRun} {events : List Event}
    (isRun : (chronicle.desk.base step).run = some run)
    (isReached : (chronicle.desk.step moment step).poller.dashboard.run =
      some reached)
    (isStore : (chronicle.desk.step moment step).poller.store =
      (KeyValueStore.write chronicle.desk.poller.store
        StoreKey.dashboard.name
          (chronicle.desk.step moment step).poller.dashboard.encode).2)
    (relates : Relates run reached events) :
    IsFaithful works
      { chronicle with
        desk := chronicle.desk.step moment step
        heard := chronicle.heard ++ events } := by
  have told := faithful.told_base isRun
  constructor
  case working =>
    exact Desk.works_step faultless faithful.working moment step
  case told =>
    intro other isShown
    obtain ⟨kept, isKept, sameStanding, sameCursor⟩ :=
      Desk.shows_written faultless faithful.working isStore isShown
    obtain rfl := Option.some.inj (isReached.symm.trans isKept)
    exact (told.append relates).of_same sameStanding sameCursor
  case course => exact faithful.course.append told relates

theorem IsFaithful.step (faithful : chronicle.IsFaithful works)
    (faultless : KeyValueStore.Faultless works) (moment : Moment)
    (step : SessionStep) : (chronicle.step moment step).IsFaithful works := by
  unfold Chronicle.step
  dsimp only
  split
  next grows => exact faithful.start faultless grows
  next staysSame =>
    have moved := chronicle.desk.step_movedFrom moment step
    have reports := chronicle.desk.step_reports moment step
    generalize chronicle.desk.news moment step = events at reports
    cases reports with
    | silent sameRun =>
        exact faithful.keep faultless (fun kept => sameRun ▸ id)
          (List.forall_mem_nil _)
    | rejected _ _ _ _ sameRun =>
        exact faithful.keep faultless (fun kept => sameRun ▸ id)
          (List.forall_mem_singleton.mpr rfl)
    | cleared _ isNone =>
        refine faithful.keep faultless ?_ (List.forall_mem_nil _)
        intro kept isKept
        cases isNone.symm.trans isKept
    | found isRun isRunning sameRun =>
        exact faithful.resume faultless isRun isRunning sameRun
    | written isReached isWritten move news =>
        have isOld := moved.isOld_of_move staysSame (isReached ▸ move)
        obtain ⟨run, isRun, relates⟩ := news.relates isOld move
        exact faithful.relate faultless isRun isReached
          (congrArg Prod.snd isWritten).symm relates
    | unwritten failed | marked _ _ _ _ _ failed _ =>
        exact absurd failed (write_ne_error faultless faithful.working)

theorem IsFaithful.after_steps (faithful : chronicle.IsFaithful works)
    (faultless : KeyValueStore.Faultless works)
    (steps : List (Moment × SessionStep)) :
    (chronicle.after steps).IsFaithful works := by
  induction steps generalizing chronicle with
  | nil => exact faithful
  | cons next rest ih => exact ih (faithful.step faultless next.1 next.2)

end Step

theorem isFaithful_new {works : σ → Prop} {store : σ} (working : works store)
    (service : ς) (supply : Supply) (interval : Nat) :
    (new store service supply interval).IsFaithful works where
  working := working
  told := by
    rintro run ⟨dashboard, rfl | ⟨found, isFound, rfl⟩, isRun⟩
    · cases isRun
    · have isRead : KeyValueStore.read Dashboard.decoder store
          StoreKey.dashboard.name = .ok found := isFound
      constructor
      case standing =>
        simp only [new, isRead, isRun]
        rfl
      case isAbout => nofun
      case behind => nofun
  course := by
    constructor
    case once => simp [new, Standing.hear]
    case silent => nofun
    case notifies => nofun
    case final => exact List.Pairwise.nil
    case ordered => exact List.Pairwise.nil

end Chronicle

/-- The step suspends the run without telling the user. -/
def SessionStep.isSilent : SessionStep → Bool
  | .suspend silent => silent
  | .close | .drop _ | .finishTeardown _ => true
  | _ => false

theorem SessionStep.isSilent_of_pause? {step : SessionStep} {pause : Pause}
    (isPause : step.pause? = some pause) (isQuiet : pause.notifies = false) :
    step.isSilent = true := by
  cases step with
  | suspend silent =>
      cases isPause
      cases silent with
      | true => rfl
      | false => cases isQuiet
  | close | drop | finishTeardown => rfl
  | _ => cases isPause

/-- Whatever becomes of it, only a suspension is told of silently. -/
theorem Desk.isSilent_of_news {σ ς : Type} [KeyValueStore σ] [AgentService ς]
    {desk : Desk σ ς} {moment : Moment} {step : SessionStep} {id : String}
    {status : EvaluatorStatus}
    (isNews : .evaluatorStatusChanged id status false ∈
      desk.news moment step) :
    status = .suspended ∧ step.isSilent = true := by
  have reports := desk.step_reports moment step
  generalize desk.news moment step = events at isNews reports
  cases reports with
  | silent _ | cleared _ _ | unwritten _ => cases isNews
  | rejected _ _ _ _ _ | found _ _ _ => cases List.mem_singleton.mp isNews
  | written _ _ _ news =>
      generalize step.cause desk.asked = cause at news
      cases news with
      | paused isPause isSuspended =>
          injection List.mem_singleton.mp isNews with _ isStatus isQuiet
          exact ⟨isStatus, step.isSilent_of_pause? isPause isQuiet.symm⟩
      | settled _ _ _ =>
          rcases List.mem_cons.mp isNews with isTick | isChange
          · cases isTick
          · cases List.mem_singleton.mp isChange
      | started _ | resumed _ | pickedUp _ | stopped _ | read _ _ _ =>
          cases List.mem_singleton.mp isNews
  | marked _ isPause ends _ _ _ _ =>
      injection List.mem_singleton.mp isNews with _ isStatus
      exact ⟨isStatus, step.isSilent_of_pause? isPause
        (Pause.notifies_of_ends ends)⟩

namespace Chronicle

variable {σ ς : Type} [KeyValueStore σ] [AgentService ς] {works : σ → Prop}

structure KeepsCourse (chronicle : Chronicle σ ς) : Prop where
  /-- Where the run in memory stands is what was told of it last. -/
  names : ∀ run, chronicle.desk.poller.run? = some run →
    chronicle.found.hear chronicle.heard = some run.standing
  isAbout : ∀ run, chronicle.desk.poller.run? = some run →
    ∀ event ∈ chronicle.heard, ∀ id, event.about? = some id → id = run.id
  course : Course chronicle.found chronicle.heard
  silently : ∀ moment step id status,
    .evaluatorStatusChanged id status false ∈
      chronicle.desk.news moment step →
    status = .suspended ∧ step.isSilent = true

/-- On a store that does not fail, whatever the store held at first and
whatever happens, what is told of a run follows its course. -/
theorem keepsCourse_after (faultless : KeyValueStore.Faultless works)
    {store : σ} (working : works store) (service : ς) (supply : Supply)
    (interval : Nat) (steps : List (Moment × SessionStep)) :
    ((new store service supply interval).after steps).KeepsCourse := by
  have faithful : ((new store service supply interval).after
      steps).IsFaithful works :=
    (isFaithful_new working service supply interval).after_steps faultless
      steps
  constructor
  case names =>
    intro run isRun
    exact (faithful.told run ⟨_, .inl rfl, isRun⟩).standing
  case isAbout =>
    intro run isRun
    exact (faithful.told run ⟨_, .inl rfl, isRun⟩).isAbout
  case course => exact faithful.course
  case silently =>
    intro moment step id status isNews
    exact Desk.isSilent_of_news isNews

theorem keepsCourse_completion :
    let chronicle := (new .empty Desk.oneRun ⟨0, 0, ⟨0, 0⟩⟩
      600 : Chronicle MemoryStore RecordedService).after Desk.completion
    chronicle.heard = [.evaluatorStarted "run-1" "workflow",
      .pollTick "run-1" 1 0,
      .evaluatorStatusChanged "run-1" .completed true] ∧
    chronicle.KeepsCourse := by
  refine ⟨by decide +kernel, ?_⟩
  exact keepsCourse_after MemoryStore.faultless rfl Desk.oneRun
    ⟨0, 0, ⟨0, 0⟩⟩ 600 Desk.completion

end Chronicle

end AgentPipeline
