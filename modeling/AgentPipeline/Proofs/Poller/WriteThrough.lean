import AgentPipeline.Proofs.Codec.Carried
import AgentPipeline.Proofs.Poller.News

/-!
# Written through

Whenever a step has changed the dashboard in memory it has also written it, and
what it tells of the run it tells afterwards.
Main statements: `writtenThrough_after`, `announced_after`.
-/

namespace AgentPipeline

namespace Event

/-- The event announces what a run has come to. -/
def isAnnouncement : Event → Bool
  | .evaluatorStarted .. | .pollTick .. | .evaluatorStatusChanged .. => true
  | _ => false

/-- What an event says does not depend on the table of metrics. -/
theorem TellsOf.of_metrics {event : Event} {run : EvaluatorRun}
    (tells : event.TellsOf run) (metrics : Option Json) :
    event.TellsOf { run with metrics } := by
  cases event <;> exact tells

end Event

namespace Dashboard

/-- The times of the run are some that a text can name. -/
def HasMoments (dashboard : Dashboard) : Prop :=
  ∀ run, dashboard.run = some run →
    run.startedAt.IsMoment ∧ run.updatedAt.IsMoment

theorem hasMoments_found (text : Option String) :
    ((text.bind decoder.parse?).getD .empty).HasMoments := by
  cases found : text.bind decoder.parse? with
  | none => nofun
  | some dashboard =>
      obtain ⟨stored, -, parsed⟩ := Option.bind_eq_some_iff.mp found
      obtain ⟨isHeld, -⟩ := decoder_gives.of_parse? parsed
      intro run isRun
      exact ⟨(isHeld run isRun).startedAt, (isHeld run isRun).updatedAt⟩

/-- A session finds the run that was written if its table of metrics can be
read. -/
theorem run_found {dashboard : Dashboard} (moments : dashboard.HasMoments)
    {run : EvaluatorRun} (isRun : dashboard.run = some run)
    {metrics : Option Json}
    (isRead : EvaluatorRun.rereadMetrics 125 run.metrics = some metrics) :
    ((decoder.parse? dashboard.encode.text).getD .empty).run =
      some { run with metrics } := by
  obtain ⟨startedAt, updatedAt⟩ := moments run isRun
  have reread : run.reread? 126 = some { run with metrics } := by
    rw [run.reread?_eq 121, isRead,
      Timestamp.parse?_print_of_isMoment startedAt,
      Timestamp.parse?_print_of_isMoment updatedAt]
    rfl
  rw [parse?_text_eq, isRun, foundRun, reread]
  rfl

end Dashboard

namespace Desk

variable {σ ς : Type} [KeyValueStore σ]

/-! ## Stores without faults -/

section Session

variable [AgentService ς] {works : σ → Prop}

/-- The steps open no other session. -/
def StaysIn (desk : Desk σ ς) : List (Moment × SessionStep) → Prop
  | [] => True
  | next :: later =>
      desk.loaded? next.2 = none ∧
        (desk.step next.1 next.2).StaysIn later

instance decidableStaysIn (desk : Desk σ ς)
    (steps : List (Moment × SessionStep)) : Decidable (desk.StaysIn steps) :=
  match steps with
  | [] => .isTrue trivial
  | next :: later =>
      have := (desk.step next.1 next.2).decidableStaysIn later
      inferInstanceAs (Decidable (_ ∧ _))

/-- What the store holds in a session that was opened at another desk. -/
inductive IsWrittenThrough (origin desk : Desk σ ς) : Prop where
  /-- Neither the text that the session found nor the dashboard that was read
  of it has changed. -/
  | unchanged {text : Option String}
      (found : KeyValueStore.get origin.poller.store
        StoreKey.dashboard.name = .ok text)
      (sameText : KeyValueStore.get desk.poller.store
        StoreKey.dashboard.name = .ok text)
      (sameDashboard : desk.poller.dashboard =
        (text.bind Dashboard.decoder.parse?).getD .empty)
  | written (text : KeyValueStore.get desk.poller.store
      StoreKey.dashboard.name = .ok (some desk.poller.dashboard.encode.text))

omit [AgentService ς] in
theorem loaded?_eq_of_get {desk : Desk σ ς} {step : SessionStep}
    {dashboard : Dashboard} (loaded : desk.loaded? step = some dashboard) :
    ∃ text, KeyValueStore.get desk.poller.store StoreKey.dashboard.name =
        .ok text ∧
      dashboard = (text.bind Dashboard.decoder.parse?).getD .empty := by
  obtain ⟨found, isFound, isDashboard⟩ := loaded?_eq_some loaded
  unfold KeyValueStore.read at isFound
  cases got : KeyValueStore.get desk.poller.store
      StoreKey.dashboard.name with
  | error error =>
      rw [got] at isFound
      cases isFound
  | ok text =>
      rw [got] at isFound
      cases isFound
      exact ⟨text, rfl, isDashboard⟩

omit [AgentService ς] in
theorem get_of_written (faultless : KeyValueStore.Faultless works)
    {desk after : Desk σ ς} (working : works desk.poller.store)
    (isWritten : after.poller.store = (KeyValueStore.write desk.poller.store
      StoreKey.dashboard.name after.poller.dashboard.encode).2) :
    KeyValueStore.get after.poller.store StoreKey.dashboard.name =
      .ok (some after.poller.dashboard.encode.text) := by
  rw [isWritten]
  exact faultless.get_set working _ _

theorem works_step (faultless : KeyValueStore.Faultless works)
    {desk : Desk σ ς} (working : works desk.poller.store) (moment : Moment)
    (step : SessionStep) : works (desk.step moment step).poller.store := by
  rcases (desk.step_movedFrom moment step).untouched_or_written with
    ⟨-, isStore⟩ | isWritten
  · rw [isStore]
    exact working
  · rw [isWritten]
    exact faultless.works_write working _ _

theorem works_after (faultless : KeyValueStore.Faultless works)
    {desk : Desk σ ς} (working : works desk.poller.store)
    (steps : List (Moment × SessionStep)) :
    works (desk.after steps).poller.store := by
  induction steps generalizing desk with
  | nil => exact working
  | cons next rest ih => exact ih (works_step faultless working next.1 next.2)

/-- The step that opens the session finds a text, and what it does beyond that
it writes. -/
theorem isWrittenThrough_opening (faultless : KeyValueStore.Faultless works)
    {desk : Desk σ ς} (working : works desk.poller.store) {moment : Moment}
    {opening : SessionStep} {dashboard : Dashboard}
    (loaded : desk.loaded? opening = some dashboard) :
    desk.IsWrittenThrough (desk.step moment opening) := by
  obtain ⟨text, found, isDashboard⟩ := loaded?_eq_of_get loaded
  have moved := desk.step_movedFrom moment opening
  rw [base, loaded, Option.getD_some] at moved
  rcases moved.untouched_or_written with ⟨sameDashboard, sameStore⟩ | isWritten
  · refine .unchanged found ?_ (sameDashboard.trans isDashboard)
    rw [sameStore]
    exact found
  · exact .written (get_of_written faultless working isWritten)

theorem IsWrittenThrough.step (faultless : KeyValueStore.Faultless works)
    {origin desk : Desk σ ς} (through : origin.IsWrittenThrough desk)
    (working : works desk.poller.store) (moment : Moment)
    {step : SessionStep} (staysIn : desk.loaded? step = none) :
    origin.IsWrittenThrough (desk.step moment step) := by
  have moved := desk.step_movedFrom moment step
  rw [base, staysIn, Option.getD_none] at moved
  rcases moved.untouched_or_written with ⟨sameDashboard, sameStore⟩ | isWritten
  · cases through with
    | unchanged found sameText isDashboard =>
        refine .unchanged found ?_ (sameDashboard.trans isDashboard)
        rw [sameStore]
        exact sameText
    | written text =>
        refine .written ?_
        rw [sameStore, sameDashboard]
        exact text
  · exact .written (get_of_written faultless working isWritten)

theorem IsWrittenThrough.after_steps
    (faultless : KeyValueStore.Faultless works)
    {origin desk : Desk σ ς} (through : origin.IsWrittenThrough desk)
    (working : works desk.poller.store)
    {session : List (Moment × SessionStep)} (staysIn : desk.StaysIn session) :
    origin.IsWrittenThrough (desk.after session) := by
  induction session generalizing desk with
  | nil => exact through
  | cons next rest ih =>
      obtain ⟨staysInFirst, staysInRest⟩ := staysIn
      apply ih
      · exact through.step faultless working next.1 staysInFirst
      · exact works_step faultless working next.1 next.2
      · exact staysInRest

/-- On a store that does not fail, whatever happened before a session was
opened and whatever happens in it, the store holds what the session found,
with nothing changed since, or the dashboard in memory. -/
theorem writtenThrough_after (faultless : KeyValueStore.Faultless works)
    {store : σ} (working : works store) (service : ς) (supply : Supply)
    (interval : Nat) (before session : List (Moment × SessionStep))
    (moment : Moment) (opening : SessionStep) :
    let origin := (new store service supply interval).after before
    origin.loaded? opening ≠ none →
    (origin.step moment opening).StaysIn session →
    origin.IsWrittenThrough ((origin.step moment opening).after session) := by
  intro origin opens staysIn
  have stillWorks : works origin.poller.store :=
    works_after faultless working before
  obtain ⟨dashboard, loaded⟩ := Option.ne_none_iff_exists'.mp opens
  apply IsWrittenThrough.after_steps faultless _ _ staysIn
  · exact isWrittenThrough_opening faultless stillWorks loaded
  · exact works_step faultless stillWorks moment opening

/-- The run is read further while another poll is on its way, the answer to
which is behind. -/
def readTwice : List (Moment × SessionStep) :=
  let sent : SentPoll := ⟨⟨"run-1", 0⟩, 1⟩
  [(epoch, .ask), (epoch, .timerDue),
    (epoch, .answer sent true (.ok ⟨.running, 3, .empty, none, none, none⟩)),
    (epoch, .setItemLimit "workflow" 7),
    (epoch, .answer sent false (.ok ⟨.running, 2, .empty, none, none, none⟩))]

theorem writtenThrough_readTwice :
    let steps := beginning.tail ++ readTwice
    let opened := ofOneRun.step epoch .openPassive
    ofOneRun.loaded? .openPassive ≠ none ∧ opened.StaysIn steps ∧
      ofOneRun.IsWrittenThrough (opened.after steps) := by
  have opens : ofOneRun.loaded? .openPassive ≠ none := by decide +kernel
  have staysIn : (ofOneRun.step epoch .openPassive).StaysIn
      (beginning.tail ++ readTwice) := by decide +kernel
  refine ⟨opens, staysIn, ?_⟩
  exact writtenThrough_after MemoryStore.faultless rfl oneRun
    ⟨0, 0, ⟨0, 0⟩⟩ 600 [] _ epoch .openPassive opens staysIn

end Session

/-! ## Stores that may fail -/

section Announced

variable [AgentService ς] {holds : σ → String → Option String}

/-- A session would find a run of which the event is true. -/
def IsTold (holds : σ → String → Option String) (desk : Desk σ ς)
    (event : Event) : Prop :=
  ∃ run, (desk.stored holds).run = some run ∧ event.TellsOf run

/-- What has happened in a step when an event of it is sent. -/
inductive Announced (holds : σ → String → Option String)
    (desk : Desk σ ς) (step : SessionStep) (after : Desk σ ς)
    (event : Event) : Prop where
  /-- The dashboard was written, and the event is true of its run. -/
  | written {run : EvaluatorRun}
      (isRun : after.poller.dashboard.run = some run)
      (tells : event.TellsOf run)
      (write : KeyValueStore.write desk.poller.store
        StoreKey.dashboard.name after.poller.dashboard.encode =
          (.ok (), after.poller.store))
      (isWritten : after.IsWritten holds)
      (isTold : EvaluatorRun.rereadMetrics 125 run.metrics ≠ none →
        after.IsTold holds event)
  /-- The session ends, and the suspension of its run could not be written. -/
  | unwritten {pause : Pause} {run : EvaluatorRun} {error : StorageError}
      (isPause : step.pause? = some pause) (ends : pause.ends = true)
      (isEvent : event = .evaluatorStatusChanged run.id .suspended false)
      (isRun : after.poller.dashboard.run = some run)
      (isSuspended : run.status = .suspended)
      (failed : KeyValueStore.write desk.poller.store
        StoreKey.dashboard.name after.poller.dashboard.encode =
          (.error error, after.poller.store))
      (same : holds after.poller.store = holds desk.poller.store)

omit [AgentService ς] in
theorem base_hasMoments {desk : Desk σ ς}
    (moments : desk.poller.dashboard.HasMoments) (step : SessionStep) :
    (desk.base step).HasMoments := by
  unfold base
  cases loaded : desk.loaded? step with
  | none => exact moments
  | some dashboard =>
      obtain ⟨text, -, isDashboard⟩ := loaded?_eq_of_get loaded
      rw [Option.getD_some, isDashboard]
      exact Dashboard.hasMoments_found text

theorem hasMoments_step {desk : Desk σ ς}
    (moments : desk.poller.dashboard.HasMoments) (moment : Moment)
    (step : SessionStep) :
    (desk.step moment step).poller.dashboard.HasMoments := by
  have base := base_hasMoments moments step
  cases desk.step_movedFrom moment step with
  | unchanged isDashboard _ _ _ | asked _ _ isDashboard _ _ _ =>
      rw [isDashboard]
      exact base
  | moved _ move _ _ _ =>
      exact move.times moment.isNameable.isMoment base
  | started _ _ isRun move _ _ _ =>
      intro run isStarted
      rw [isRun] at isStarted
      exact move.times moment.isNameable.isMoment base run isStarted

theorem hasMoments_after {desk : Desk σ ς}
    (moments : desk.poller.dashboard.HasMoments)
    (steps : List (Moment × SessionStep)) :
    (desk.after steps).poller.dashboard.HasMoments := by
  induction steps generalizing desk with
  | nil => exact moments
  | cons next rest ih => exact ih (hasMoments_step moments next.1 next.2)

/-- What is announced in a step has been written, unless the session ends. -/
theorem announced_step (durable : KeyValueStore.Durable holds)
    {desk : Desk σ ς} (moments : desk.poller.dashboard.HasMoments)
    (moment : Moment) (step : SessionStep) {event : Event}
    (isNews : event ∈ desk.news moment step)
    (announces : event.isAnnouncement = true) :
    desk.Announced holds step (desk.step moment step) event := by
  have stillMoments := hasMoments_step moments moment step
  have reports := desk.step_reports moment step
  generalize desk.news moment step = events at isNews reports
  cases reports with
  | silent _ | cleared _ _ | unwritten _ => cases isNews
  | rejected _ _ _ _ _ | found _ _ _ =>
      rw [List.mem_singleton.mp isNews] at announces
      cases announces
  | written isRun write _ news =>
      have tells := news.tellsOf event isNews
      have isWritten : (desk.step moment step).IsWritten holds := by
        have written := durable.set_ok (congrArg Prod.fst write)
        have store := congrArg Prod.snd write
        dsimp only [KeyValueStore.write] at store
        rwa [store] at written
      refine .written isRun tells write isWritten ?_
      intro readable
      obtain ⟨metrics, isRead⟩ := Option.ne_none_iff_exists'.mp readable
      refine ⟨_, ?_, tells.of_metrics metrics⟩
      rw [stored, isWritten, Option.bind_some]
      exact Dashboard.run_found stillMoments isRun isRead
  | marked run isPause ends isRun isSuspended failed _ =>
      have same : holds (desk.step moment step).poller.store =
          holds desk.poller.store := by
        have unchanged := durable.set_error (congrArg Prod.fst failed)
        have store := congrArg Prod.snd failed
        dsimp only [KeyValueStore.write] at store
        rwa [store] at unchanged
      exact .unwritten isPause ends (List.mem_singleton.mp isNews) isRun
        isSuspended failed same

/-- Whichever writes fail and whatever happens, an event that announces what a
run has come to is sent when the run has been written so.  Only the end of a
session announces the suspension of its run though it could not be written. -/
theorem announced_after (durable : KeyValueStore.Durable holds)
    (store : σ) (service : ς) (supply : Supply) (interval : Nat)
    (steps : List (Moment × SessionStep)) (moment : Moment)
    (step : SessionStep) :
    let desk := (new store service supply interval).after steps
    ∀ event ∈ desk.news moment step, event.isAnnouncement = true →
      desk.Announced holds step (desk.step moment step) event := by
  intro desk event isNews announces
  have moments : desk.poller.dashboard.HasMoments := by
    apply hasMoments_after
    intro run isRun
    cases isRun
  exact announced_step durable moments moment step isNews announces

/-- The start of the run is written, and the end of the session is not. -/
theorem announced_close :
    let held := fun store : FlakyStore => store.documents.find?
    let opened := PollerCall.ofOneWrite.after [(epoch, .openPassive)]
    let start := SessionStep.start "workflow" 5 (some ⟨"model-A", none⟩)
    let begun := PollerCall.ofOneWrite.after beginning
    opened.news epoch start = [.evaluatorStarted "run-1" "workflow"] ∧
      opened.Announced held start (opened.step epoch start)
        (.evaluatorStarted "run-1" "workflow") ∧
      begun.news epoch .close =
        [.evaluatorStatusChanged "run-1" .suspended false] ∧
      begun.Announced held .close (begun.step epoch .close)
        (.evaluatorStatusChanged "run-1" .suspended false) := by
  intro held opened start begun
  have isStarted : opened.news epoch start =
      [.evaluatorStarted "run-1" "workflow"] := by
    decide +kernel
  have isSuspended : begun.news epoch .close =
      [.evaluatorStatusChanged "run-1" .suspended false] := by
    decide +kernel
  refine ⟨isStarted, ?_, isSuspended, ?_⟩
  · apply announced_after FlakyStore.durable ⟨.empty, [true, false]⟩ oneRun
      ⟨0, 0, ⟨0, 0⟩⟩ 600 [(epoch, .openPassive)] epoch start _ _ rfl
    exact isStarted ▸ List.mem_singleton_self _
  · apply announced_after FlakyStore.durable ⟨.empty, [true, false]⟩ oneRun
      ⟨0, 0, ⟨0, 0⟩⟩ 600 beginning epoch .close _ _ rfl
    exact isSuspended ▸ List.mem_singleton_self _

omit [KeyValueStore σ] [AgentService ς] in
/-- The run that is found was written, and its table of metrics can be
read. -/
theorem IsWritten.of_found {desk : Desk σ ς}
    (isWritten : desk.IsWritten holds) {found run : EvaluatorRun}
    (isFound : (desk.stored holds).run = some found)
    (isRun : desk.poller.dashboard.run = some run) :
    found.standing = run.standing ∧
      EvaluatorRun.rereadMetrics 125 run.metrics ≠ none := by
  rw [stored, isWritten, Option.bind_some] at isFound
  obtain ⟨kept, metrics, _, _, isKept, isRead, -, -, rfl⟩ :=
    Dashboard.run_parse?_text isFound
  obtain rfl := Option.some.inj (isRun.symm.trans isKept)
  refine ⟨rfl, ?_⟩
  rw [isRead]
  exact Option.some_ne_none metrics

/-- Brackets nested one deeper than a stored dashboard can be read with. -/
def deepTable : Json :=
  Nat.repeat (fun table => .array [table]) 125 (.array [])

/-- The run completes with a table of metrics. -/
def completeWith (table : Json) : SessionStep :=
  .answer ⟨⟨"run-1", 0⟩, 1⟩ false
    (.ok ⟨.completed, 1, .empty, none, some table, none⟩)

/-- A session that ends announces a suspension that it could not write, and a
run may complete with a table that cannot be read back. -/
theorem not_told_as_announced :
    (¬∀ (steps : List (Moment × SessionStep)) (moment : Moment)
        (step : SessionStep),
      ∀ event ∈ (PollerCall.ofOneWrite.after steps).news moment step,
        event.isAnnouncement = true →
        ((PollerCall.ofOneWrite.after steps).step moment step).IsTold
          (fun store => store.documents.find?) event) ∧
    ¬∀ (steps : List (Moment × SessionStep)) (moment : Moment)
        (step : SessionStep),
      ∀ event ∈ (ofOneRun.after steps).news moment step,
        event.isAnnouncement = true →
        ((ofOneRun.after steps).step moment step).IsTold
          (fun store => store.documents.find?) event := by
  constructor
  · intro claimed
    let opened := PollerCall.ofOneWrite.step epoch .openPassive
    let start := SessionStep.start "workflow" 5 (some ⟨"model-A", none⟩)
    let begun := opened.step epoch start
    have isStarted : Event.evaluatorStarted "run-1" "workflow" ∈
        opened.news epoch start := by
      decide +kernel
    have isSuspended : Event.evaluatorStatusChanged "run-1" .suspended false ∈
        begun.news epoch .close := by
      decide +kernel
    have moments : opened.poller.dashboard.HasMoments :=
      hasMoments_step (by rintro _ ⟨⟩) epoch .openPassive
    -- The run was written when it was started, and not since.
    cases announced_step FlakyStore.durable moments epoch start isStarted
      rfl with
    | unwritten isPause _ _ _ _ _ _ => cases isPause
    | @written run isRun tells _ isWritten _ =>
        obtain ⟨-, -, running⟩ := tells
        obtain ⟨found, isFound, -, suspended⟩ :=
          claimed beginning epoch .close _ isSuspended rfl
        have same : (begun.step epoch .close).poller.store.documents =
            begun.poller.store.documents := rfl
        have isFound : (begun.stored
            fun store => store.documents.find?).run = some found := by
          rw [stored, ← same]
          exact isFound
        obtain ⟨sameStanding, -⟩ := isWritten.of_found isFound isRun
        have stillRuns : found.status = run.status :=
          congrArg Prod.snd sameStanding
        rw [suspended, running] at stillRuns
        cases stillRuns
  · intro claimed
    let steps := beginning ++ [(epoch, SessionStep.ask)]
    let completed := (ofOneRun.after steps).step epoch (completeWith deepTable)
    have isNews : Event.evaluatorStatusChanged "run-1" .completed true ∈
        (ofOneRun.after steps).news epoch (completeWith deepTable) := by
      decide +kernel
    have moments : (ofOneRun.after steps).poller.dashboard.HasMoments :=
      hasMoments_after (by rintro _ ⟨⟩) steps
    obtain ⟨found, isFound, -⟩ := claimed steps epoch _ _ isNews rfl
    cases announced_step MemoryStore.durable moments epoch _ isNews rfl with
    | unwritten isPause _ _ _ _ _ _ => cases isPause
    | @written run isRun _ _ isWritten _ =>
        have hasTable : completed.poller.dashboard.run.map
            EvaluatorRun.metrics = some (some deepTable) := rfl
        rw [isRun] at hasTable
        obtain ⟨-, readable⟩ := isWritten.of_found isFound isRun
        rw [Option.some.inj hasTable] at readable
        revert readable
        decide +kernel

end Announced

end Desk

end AgentPipeline
