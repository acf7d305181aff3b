import AgentPipeline.Proofs.Poller.Mirror

/-!
# Following the log of a run

The service keeps a log for each run, to which it only appends, and answers a
poll with what the log holds from an offset on.  The run at the desk is then
what its log says up to the cursor, however the polls overlap and in whichever
order their answers come, because no poll of a run was sent from behind its
cursor.
-/

namespace AgentPipeline

/-- What has become of the items of a run, in the order in which it did. -/
abbrev ProgressLog := List (UInt32 × ItemProgress)

/-- A snapshot says what a log holds from an offset on.  The log may have gone
on since the snapshot was made; its cursor tells how long the log was then. -/
def RunSnapshot.Covers (snapshot : RunSnapshot) (log : ProgressLog)
    (offset : UInt64) : Prop :=
  snapshot.cursor.toNat ≤ log.length ∧
    snapshot.items =
      .ofList ((log.take snapshot.cursor.toNat).drop offset.toNat)

instance (snapshot : RunSnapshot) (log : ProgressLog) (offset : UInt64) :
    Decidable (snapshot.Covers log offset) :=
  inferInstanceAs (Decidable (_ ∧ _))

/-- The run has the last entry of every item among the entries up to its
cursor. -/
structure EvaluatorRun.Tails (run : EvaluatorRun) (log : ProgressLog) :
    Prop where
  cursor_le : run.cursor.toNat ≤ log.length
  items : run.progress.items = .ofList (log.take run.cursor.toNat)

structure Tailing (σ ς : Type) where
  desk : Desk σ ς
  logs : String → ProgressLog

inductive TailingStep where
  | append (run : String) (entries : ProgressLog)
  | happen (moment : Moment) (step : SessionStep)

/-- The snapshot that a step brings, and the poll that it answers. -/
def TailingStep.brought? : TailingStep → Option (Poll × RunSnapshot)
  | .happen _ (.answer sent _ (.ok snapshot)) => some (sent.poll, snapshot)
  | _ => none

namespace Tailing

variable {σ ς : Type} [KeyValueStore σ] [AgentService ς]

/-- Nothing has been logged yet. -/
def ofDesk (desk : Desk σ ς) : Tailing σ ς := ⟨desk, fun _ => []⟩

def step (tailing : Tailing σ ς) : TailingStep → Tailing σ ς
  | .append run entries =>
      { tailing with
        logs := fun other =>
          if other = run then tailing.logs other ++ entries
          else tailing.logs other }
  | .happen moment step =>
      { tailing with desk := tailing.desk.step moment step }

def after (tailing : Tailing σ ς) (steps : List TailingStep) : Tailing σ ς :=
  steps.foldl step tailing

/-- A snapshot that is brought to the desk is one that the service made from
the log of the run that was polled. -/
def IsHonest (tailing : Tailing σ ς) (step : TailingStep) : Prop :=
  ∀ poll snapshot, step.brought? = some (poll, snapshot) →
    snapshot.Covers (tailing.logs poll.run) poll.offset

instance (tailing : Tailing σ ς) (step : TailingStep) :
    Decidable (tailing.IsHonest step) :=
  match isBrought : step.brought? with
  | none => .isTrue fun _ _ isSome => nomatch isBrought.symm.trans isSome
  | some (poll, snapshot) =>
      decidable_of_iff
        (snapshot.Covers (tailing.logs poll.run) poll.offset)
        ⟨fun covers _ _ isSome => by
            cases isBrought.symm.trans isSome
            exact covers,
          fun honest => honest poll snapshot isBrought⟩

/-- Every snapshot in a course of things is. -/
def AreHonest (tailing : Tailing σ ς) : List TailingStep → Prop
  | [] => True
  | next :: rest =>
      tailing.IsHonest next ∧ (tailing.step next).AreHonest rest

instance decidableAreHonest : (steps : List TailingStep) →
    (tailing : Tailing σ ς) → Decidable (tailing.AreHonest steps)
  | [], _ => .isTrue trivial
  | next :: rest, tailing =>
      have := decidableAreHonest rest (tailing.step next)
      inferInstanceAs (Decidable (_ ∧ _))

end Tailing

/-! ## One snapshot -/

/-- What was read before and what is read again together with what follows. -/
theorem SortedMap.extend_ofList_take
    (log : ProgressLog) {offset cursor length : Nat}
    (isBefore : offset ≤ cursor) (isBehind : cursor ≤ length)
    (isLogged : length ≤ log.length) :
    (ofList (log.take cursor)).extend
        (ofList ((log.take length).drop offset)) =
      ofList (log.take length) := by
  have read : log.take cursor =
      (log.take cursor).take offset ++ (log.take cursor).drop offset :=
    (List.take_append_drop offset (log.take cursor)).symm
  have whole : log.take length =
      log.take cursor ++ (log.take length).drop cursor := by
    have parts := List.take_append_drop cursor (log.take length)
    rw [List.take_take, Nat.min_eq_left isBehind] at parts
    exact parts.symm
  have again : (log.take length).drop offset =
      (log.take cursor).drop offset ++ (log.take length).drop cursor := by
    have enough : offset ≤ (log.take cursor).length := by
      rw [List.length_take]
      omega
    rw [← List.drop_append_of_le_length enough, ← whole]
  calc
    (ofList (log.take cursor)).extend
        (ofList ((log.take length).drop offset)) =
      (ofList ((log.take cursor).take offset ++
        (log.take cursor).drop offset)).extend
          (ofList ((log.take cursor).drop offset ++
            (log.take length).drop cursor)) := by rw [again, ← read]
    _ = ofList (((log.take cursor).take offset ++
        (log.take cursor).drop offset) ++
          (log.take length).drop cursor) := extend_ofList_overlap _ _ _
    _ = ofList (log.take length) := by rw [← read, ← whole]

namespace EvaluatorRun

theorem tails_start (kind id : String) (itemLimit : UInt32)
    (model : Option String) (now : Timestamp) (log : ProgressLog) :
    (start kind id itemLimit model now).Tails log where
  cursor_le := Nat.zero_le _
  items := rfl

theorem Tails.append {run : EvaluatorRun} {log : ProgressLog}
    (tails : run.Tails log) (entries : ProgressLog) :
    run.Tails (log ++ entries) where
  cursor_le := by
    rw [List.length_append]
    exact Nat.le_add_right_of_le tails.cursor_le
  items := by
    rw [List.take_append_of_le_length tails.cursor_le]
    exact tails.items

/-- A snapshot from an offset that is not ahead of the cursor brings the run
to another place of the same log. -/
theorem Tails.reached
    {run : EvaluatorRun} {log : ProgressLog} (tails : run.Tails log)
    {snapshot : RunSnapshot} {offset : UInt64}
    (covers : snapshot.Covers log offset) (isBefore : offset ≤ run.cursor)
    (now : Timestamp) : (run.reached snapshot now).Tails log := by
  obtain ⟨isLogged, isItems⟩ := covers
  unfold EvaluatorRun.reached
  split
  next advances =>
    have isBehind : run.cursor.toNat ≤ snapshot.cursor.toNat :=
      Nat.le_of_lt (UInt64.lt_iff_toNat_lt.mp advances)
    refine ⟨isLogged, ?_⟩
    simp only [advance, isItems, tails.items]
    exact SortedMap.extend_ofList_take log
      (UInt64.le_iff_toNat_le.mp isBefore) isBehind isLogged
  · exact ⟨tails.cursor_le, tails.items⟩

end EvaluatorRun

/-! ## One step -/

/-- The run was started here, has read its log, and was polled from nowhere
ahead of its cursor. -/
structure EvaluatorRun.Fits (started : List String) (asked : List SentPoll)
    (logs : String → ProgressLog) (run : EvaluatorRun) : Prop where
  isStarted : run.id ∈ started
  isBefore : ∀ sent ∈ asked, sent.poll.run = run.id →
    sent.poll.offset ≤ run.cursor
  tails : run.Tails (logs run.id)

section Fits

variable {started : List String} {asked : List SentPoll}
  {logs : String → ProgressLog}

/-- Only identifier, cursor and items matter. -/
theorem EvaluatorRun.Fits.of_same
    {run other : EvaluatorRun} (fits : run.Fits started asked logs)
    (sameId : other.id = run.id) (sameCursor : other.cursor = run.cursor)
    (sameItems : other.progress.items = run.progress.items) :
    other.Fits started asked logs where
  isStarted := by rw [sameId]; exact fits.isStarted
  isBefore := by rw [sameId, sameCursor]; exact fits.isBefore
  tails := by
    constructor
    · rw [sameId, sameCursor]
      exact fits.tails.cursor_le
    · rw [sameId, sameCursor, sameItems]
      exact fits.tails.items

/-- The answer to a poll of the run brings it to another place of its log. -/
theorem EvaluatorRun.Fits.reached
    {run : EvaluatorRun} (fits : run.Fits started asked logs)
    {sent : SentPoll} (wasSent : sent ∈ asked) (isOwn : sent.poll.run = run.id)
    {snapshot : RunSnapshot}
    (covers : snapshot.Covers (logs run.id) sent.poll.offset)
    (now : Timestamp) :
    (run.reached snapshot now).Fits started asked logs where
  isStarted := by rw [reached_id]; exact fits.isStarted
  isBefore := by
    intro other wasOther isOther
    rw [reached_id] at isOther
    exact UInt64.le_trans (fits.isBefore other wasOther isOther)
      (run.cursor_le_reached snapshot now)
  tails := by
    rw [reached_id]
    exact fits.tails.reached covers (fits.isBefore sent wasSent isOwn) now

/-- A poll is sent from the cursor. -/
theorem EvaluatorRun.Fits.ask
    {run : EvaluatorRun} (fits : run.Fits started asked logs) (runs : Nat) :
    run.Fits started (⟨⟨run.id, run.cursor⟩, runs⟩ :: asked) logs where
  isStarted := fits.isStarted
  isBefore := by
    intro sent wasSent isOwn
    rcases List.mem_cons.mp wasSent with rfl | wasSent
    · exact UInt64.le_refl run.cursor
    · exact fits.isBefore sent wasSent isOwn
  tails := fits.tails

/-- A run under a new identifier has read nothing, and was never polled. -/
theorem EvaluatorRun.fits_start
    (areStarted : ∀ sent ∈ asked, sent.poll.run ∈ started) {id : String}
    (isNew : id ∉ started) (kind : String) (itemLimit : UInt32)
    (model : Option String) (now : Timestamp) :
    (start kind id itemLimit model now).Fits (started ++ [id]) asked logs where
  isStarted := List.mem_append_right started (List.mem_singleton_self id)
  isBefore := by
    intro sent wasSent (isOwn : sent.poll.run = id)
    rw [← isOwn] at isNew
    exact absurd (areStarted sent wasSent) isNew
  tails := tails_start kind id itemLimit model now _

/-- Every move but a start goes on with the run and keeps it in step with its
log. -/
theorem RunMove.fits
    {now : Timestamp} {cause : RunCause} {before after : Option EvaluatorRun}
    (move : RunMove now cause before after) (isOld : cause ≠ .start)
    (honest : ∀ poll snapshot, cause = .poll poll snapshot →
      snapshot.Covers (logs poll.run) poll.offset ∧
        ∃ sent ∈ asked, sent.poll = poll)
    (fits : ∀ run, before = some run → run.Fits started asked logs) :
    ∀ run, after = some run → run.Fits started asked logs := by
  intro run isRun
  cases move with
  | keep => exact fits run isRun
  | start _ _ _ _ _ => exact absurd rfl isOld
  | suspend _ _ | resume _ | stop _ =>
      cases isRun
      exact (fits _ rfl).of_same rfl rfl rfl
  | clear _ => cases isRun
  | @poll polled _ poll snapshot _ isPolled _ taken =>
      cases isRun
      obtain ⟨covers, sent, wasSent, rfl⟩ := honest _ _ rfl
      rw [← isPolled] at covers
      have reached := (fits polled rfl).reached wasSent isPolled.symm covers now
      have takesOver := EvaluatorRun.takeOver_eq_ok taken
      refine reached.of_same ?_ takesOver.progress.1
        (congrArg RunProgress.items takesOver.progress.2)
      rw [takesOver.id, EvaluatorRun.reached_id]

end Fits

namespace Tailing

variable {σ ς : Type} [KeyValueStore σ] {works : σ → Prop}

/-- The run at the desk, in memory and in the store, fits the logs. -/
structure Follows (works : σ → Prop) (tailing : Tailing σ ς) : Prop where
  kept : tailing.desk.IsKept works Dashboard.Resembles
  areStarted : ∀ sent ∈ tailing.desk.asked,
    sent.poll.run ∈ tailing.desk.started
  fits : ∀ run, tailing.desk.poller.dashboard.run = some run →
    run.Fits tailing.desk.started tailing.desk.asked tailing.logs

/-- A run that resembles one that fits does so too. -/
theorem Follows.fits_known {tailing : Tailing σ ς}
    (follows : tailing.Follows works) {dashboard : Dashboard}
    (known : tailing.desk.Knows dashboard) :
    ∀ run, dashboard.run = some run →
      run.Fits tailing.desk.started tailing.desk.asked tailing.logs := by
  intro run isRun
  obtain ⟨kept, isKept, same⟩ :=
    follows.kept.known Dashboard.agreement_resembles known run isRun
  refine (follows.fits kept isKept).of_same ?_ ?_ ?_
  · rw [same]
  · rw [same]
  · rw [same]

theorem Follows.append {tailing : Tailing σ ς} [AgentService ς]
    (follows : tailing.Follows works) (run : String) (entries : ProgressLog) :
    (tailing.step (.append run entries)).Follows works where
  kept := follows.kept
  areStarted := follows.areStarted
  fits := by
    intro current isRun
    have fits := follows.fits current isRun
    refine ⟨fits.isStarted, fits.isBefore, ?_⟩
    dsimp only [step]
    split
    · exact fits.tails.append entries
    · exact fits.tails

omit [KeyValueStore σ] in
/-- A snapshot that is taken over answers a poll that was sent. -/
theorem covers_of_isHonest {tailing : Tailing σ ς} {moment : Moment}
    {step : SessionStep} (honest : tailing.IsHonest (.happen moment step)) :
    ∀ poll snapshot,
      step.cause tailing.desk.asked = .poll poll snapshot →
      snapshot.Covers (tailing.logs poll.run) poll.offset ∧
        ∃ sent ∈ tailing.desk.asked, sent.poll = poll := by
  intro poll snapshot isPoll
  obtain ⟨sent, wasSent, rfl, forTimer, rfl⟩ :=
    SessionStep.cause_eq_poll isPoll
  exact ⟨honest _ _ rfl, sent, wasSent, rfl⟩

/-- Whatever happens, the run goes on to fit the logs, unless the service
starts a run under the identifier of another. -/
theorem Follows.happen [AgentService ς] {tailing : Tailing σ ς}
    (faultless : KeyValueStore.Faultless works)
    (follows : tailing.Follows works) (moment : Moment)
    (happening : SessionStep)
    (honest : tailing.IsHonest (.happen moment happening))
    (unique : (tailing.desk.step moment happening).started.Nodup) :
    (tailing.step (.happen moment happening)).Follows works := by
  have moved := tailing.desk.step_moved moment happening
  have times := follows.kept.hasTimes_moved Dashboard.agreement_resembles
    moment.isNameable moved
  have kept := follows.kept.moved faultless Dashboard.agreement_resembles
    moment.isNameable moved (Dashboard.resembles_parse? times)
  cases moved with
  | unchanged known isDashboard _ isStarted isAsked =>
      refine ⟨kept, ?_, ?_⟩
      · simp only [step, isStarted, isAsked]
        exact follows.areStarted
      · simp only [step, isStarted, isAsked, isDashboard]
        exact follows.fits_known known
  | moved known isOld move _ isStarted isAsked =>
      refine ⟨kept, ?_, ?_⟩
      · simp only [step, isStarted, isAsked]
        exact follows.areStarted
      · simp only [step, isStarted, isAsked]
        exact move.fits isOld (covers_of_isHonest honest)
          (follows.fits_known known)
  | @started run _ isRun move _ isStarted isAsked =>
      rw [isStarted] at unique
      have isNew : run.id ∉ tailing.desk.started := by
        intro isStarted
        exact (List.nodup_append.mp unique).2.2 _ isStarted _ (by simp) rfl
      refine ⟨kept, ?_, ?_⟩
      · simp only [step, isStarted, isAsked]
        intro sent wasSent
        exact List.mem_append_left _ (follows.areStarted sent wasSent)
      · simp only [step, isStarted, isAsked, isRun]
        intro current same
        cases same
        cases move
        exact EvaluatorRun.fits_start follows.areStarted isNew _ _ _ _
  | @asked run isRun isDashboard _ isStarted isAsked =>
      have isFit := follows.fits run isRun
      refine ⟨kept, ?_, ?_⟩
      · simp only [step, isStarted, isAsked]
        intro sent wasSent
        rcases List.mem_cons.mp wasSent with rfl | wasSent
        · exact isFit.isStarted
        · exact follows.areStarted sent wasSent
      · simp only [step, isStarted, isAsked, isDashboard, isRun]
        intro current same
        cases same
        exact isFit.ask _

/-! ## A course of things -/

theorem started_grows [AgentService ς] (tailing : Tailing σ ς)
    (steps : List TailingStep) :
    tailing.desk.started <+: (tailing.after steps).desk.started := by
  induction steps generalizing tailing with
  | nil => exact List.prefix_refl _
  | cons next rest ih =>
      refine List.IsPrefix.trans ?_ (ih (tailing.step next))
      cases next with
      | append run entries => exact List.prefix_refl _
      | happen moment step => exact tailing.desk.started_step moment step

theorem follows_after [AgentService ς]
    (faultless : KeyValueStore.Faultless works) {tailing : Tailing σ ς}
    (follows : tailing.Follows works) {steps : List TailingStep}
    (honest : tailing.AreHonest steps)
    (unique : (tailing.after steps).desk.started.Nodup) :
    (tailing.after steps).Follows works := by
  induction steps generalizing tailing with
  | nil => exact follows
  | cons next rest ih =>
      obtain ⟨isHonest, areHonest⟩ := honest
      refine ih ?_ areHonest unique
      cases next with
      | append run entries => exact follows.append run entries
      | happen moment step =>
          have grows :=
            started_grows (tailing.step (.happen moment step)) rest
          exact follows.happen faultless moment step isHonest
            (unique.sublist grows.sublist)

theorem follows_new {store : σ} (working : works store)
    {found : Option Dashboard}
    (isFound : KeyValueStore.read Dashboard.decoder store
      StoreKey.dashboard.name = .ok found)
    (isFresh : (found.getD .empty).run = none)
    (service : ς) (supply : Supply) (interval : Nat) :
    (ofDesk (.new store service supply interval)).Follows works where
  kept := by
    refine ⟨working, ?_, found, isFound, ?_⟩
    · intro run isRun
      cases isRun
    · intro run isRun
      rw [isFresh] at isRun
      cases isRun
  areStarted := by
    intro sent wasSent
    cases wasSent
  fits := by
    intro run isRun
    cases isRun

end Tailing

/-- The run in memory, or the one that a session would find. -/
def Desk.Shows {σ ς : Type} [KeyValueStore σ] (desk : Desk σ ς)
    (run : EvaluatorRun) : Prop :=
  ∃ dashboard, desk.Knows dashboard ∧ dashboard.run = some run

namespace Tailing

variable {σ ς : Type} [KeyValueStore σ] [AgentService ς] {works : σ → Prop}

/-- On a store that does not fail, however polls and operations interleave and
in whichever order the answers come, the run has at every moment the last
entry of each item among the entries up to its cursor: none is lost, and none
replaces a later one.  Identifiers have to be unique because a log belongs to
one; of a single run they always are. -/
theorem tails_after
    (faultless : KeyValueStore.Faultless works) (store : σ)
    (working : works store) (found : Option Dashboard)
    (isFound : KeyValueStore.read Dashboard.decoder store
      StoreKey.dashboard.name = .ok found)
    (isFresh : (found.getD .empty).run = none)
    (service : ς) (supply : Supply) (interval : Nat)
    (steps : List TailingStep)
    (honest : (ofDesk (.new store service supply interval)).AreHonest steps)
    (unique : ((ofDesk (.new store service supply interval)).after
      steps).desk.started.Nodup)
    (run : EvaluatorRun)
    (isShown : ((ofDesk (.new store service supply interval)).after
      steps).desk.Shows run) :
    run.Tails (((ofDesk (.new store service supply interval)).after
      steps).logs run.id) := by
  obtain ⟨dashboard, known, isRun⟩ := isShown
  have follows := follows_after faultless
    (follows_new working isFound isFresh service supply interval) honest
    unique
  exact (follows.fits_known known run isRun).tails

/-- The log of a run when it is polled first. -/
def earlyLog : ProgressLog :=
  [(0, ⟨.empty, .zero, false⟩), (1, ⟨.empty, .zero, false⟩)]

/-- An entry that replaces another one. -/
def lateLog : ProgressLog := [(0, ⟨.empty, .zero, true⟩)]

/-- Two polls from the same offset are on their way, and the answer to the
second one comes first. -/
def overlap : List TailingStep :=
  let sent : SentPoll := ⟨⟨"run-1", 0⟩, 1⟩
  let snapshot (cursor : UInt64) (log : ProgressLog) : RunSnapshot :=
    ⟨.running, cursor, .ofList log, none, none, none⟩
  Desk.beginning.map (fun next => .happen next.1 next.2) ++
    [.append "run-1" earlyLog,
      .happen Desk.epoch .ask,
      .append "run-1" lateLog,
      .happen Desk.epoch .timerDue,
      .happen Desk.epoch
        (.answer sent true (.ok (snapshot 3 (earlyLog ++ lateLog)))),
      .happen Desk.epoch (.answer sent false (.ok (snapshot 2 earlyLog)))]

theorem tails_overlap :
    ∃ run, ((ofDesk Desk.ofOneRun).after overlap).desk.Shows run ∧
      run.cursor = 3 ∧ run.Tails (earlyLog ++ lateLog) := by
  have reached : ((ofDesk Desk.ofOneRun).after
      overlap).desk.poller.dashboard.run.map (fun run =>
        (run.id, run.cursor)) = some ("run-1", 3) := by
    decide +kernel
  obtain ⟨run, isRun, same⟩ := Option.map_eq_some_iff.mp reached
  have isShown : ((ofDesk Desk.ofOneRun).after overlap).desk.Shows run :=
    ⟨_, .inl rfl, isRun⟩
  have tails := tails_after MemoryStore.faultless .empty rfl none rfl rfl
    Desk.oneRun ⟨0, 0, ⟨0, 0⟩⟩ 600 overlap (by decide +kernel)
    (by decide +kernel) run isShown
  have logged : ((ofDesk Desk.ofOneRun).after overlap).logs "run-1" =
      earlyLog ++ lateLog := by
    decide +kernel
  rw [show run.id = "run-1" from congrArg Prod.fst same] at tails
  change run.Tails (((ofDesk Desk.ofOneRun).after overlap).logs "run-1") at tails
  rw [logged] at tails
  exact ⟨run, isShown, congrArg Prod.snd same, tails⟩

end Tailing

end AgentPipeline
