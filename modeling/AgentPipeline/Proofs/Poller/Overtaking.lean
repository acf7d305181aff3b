import AgentPipeline.Proofs.Poller.Cursor
import AgentPipeline.Proofs.Poller.News

/-!
# Answers that are overtaken

A poll may be sent while another one is on its way, and their answers may come
in either order.  The service is honest: it answers no poll from behind the
offset that was asked for, and a later poll of a run not from behind an
earlier one.  An answer is then rejected only if the answer to a later poll of
the run has come before it.
Main statement: `rejectsOvertaken_after`.
-/

namespace AgentPipeline

namespace Poller

variable {σ : Type} [KeyValueStore σ]

/-- Only an answer that is behind the polled run goes back. -/
theorem behind_of_regression {poller : Poller σ} {poll : Poll}
    {snapshot : RunSnapshot} {stored received : UInt64}
    (regression : (poller.handleAnswer poll (.ok snapshot)).result =
      .error (.cursorRegression stored received)) :
    ∃ run, poller.dashboard.run = some run ∧ run.id = poll.run ∧
      snapshot.cursor < run.cursor := by
  cases polled : poller.polledRun? poll with
  | none =>
      simp only [handleAnswer, handleSnapshot, polled] at regression
      cases regression
  | some run =>
      obtain ⟨isRun, isPolled, -⟩ := polledRun?_eq_some polled
      refine ⟨run, isRun, isPolled, ?_⟩
      simp only [handleAnswer, handleSnapshot, polled] at regression
      split at regression
      next error refused =>
        exact (EvaluatorRun.takeOver_eq_error refused).2
      next outcome reached _ =>
        unfold commit at regression
        split at regression <;> cases regression

end Poller

/-- A move of an old run leaves its cursor, or takes that of a snapshot. -/
theorem RunMove.cursor_cases {now : Timestamp} {cause : RunCause}
    {before after : Option EvaluatorRun} (move : RunMove now cause before after)
    (isOld : cause ≠ .start) {run : EvaluatorRun} (isRun : after = some run) :
    ∃ earlier, before = some earlier ∧ run.Extends earlier ∧
      (run.cursor = earlier.cursor ∨
        ∃ poll snapshot, cause = .poll poll snapshot ∧ poll.run = run.id ∧
          run.cursor = snapshot.cursor) := by
  obtain ⟨earlier, isEarlier, further⟩ := move.goesOn isOld run isRun
  refine ⟨earlier, isEarlier, further, ?_⟩
  cases move with
  | keep =>
      obtain rfl := Option.some.inj (isEarlier.symm.trans isRun)
      exact .inl rfl
  | start _ _ _ _ _ => exact absurd rfl isOld
  | suspend _ _ | resume _ | stop _ =>
      cases isEarlier
      cases isRun
      exact .inl rfl
  | clear _ => cases isRun
  | poll polled _ taken =>
      cases isEarlier
      cases isRun
      refine .inr ⟨_, _, rfl, ?_, (EvaluatorRun.takeOver_standing taken).1⟩
      exact polled.symm.trans further.1.symm

namespace Desk

variable {σ ς : Type}

/-- The poll that was sent after a number of others. -/
def sent? (desk : Desk σ ς) (number : Nat) : Option SentPoll :=
  desk.asked.reverse[number]?

/-- A snapshot answers the poll of a number, given how far the service says
that each poll has reached. -/
structure Answers (cursors : Nat → UInt64) (desk : Desk σ ς) (number : Nat)
    (sent : SentPoll) (snapshot : RunSnapshot) : Prop where
  wasSent : desk.sent? number = some sent
  reaches : sent.poll.offset ≤ snapshot.cursor
  isCursor : snapshot.cursor = cursors number

/-- The service reaches no less far with a later poll of a run. -/
def IsOrdered (cursors : Nat → UInt64) (desk : Desk σ ς) : Prop :=
  ∀ earlier later first second, earlier ≤ later →
    desk.sent? earlier = some first → desk.sent? later = some second →
    first.poll.run = second.poll.run → cursors earlier ≤ cursors later

/-- If a snapshot comes in the step for a poll that was sent, it answers it. -/
def IsAnswer (cursors : Nat → UInt64) (desk : Desk σ ς) (step : SessionStep) :
    Prop :=
  ∀ sent forTimer snapshot, step = .answer sent forTimer (.ok snapshot) →
    sent ∈ desk.asked → ∃ number, desk.Answers cursors number sent snapshot

/-- An answer to a later poll of the run has come and reaches further. -/
structure IsOvertaken (cursors : Nat → UInt64)
    (steps : List (Moment × SessionStep)) (desk : Desk σ ς) (number : Nat)
    (sent : SentPoll) (snapshot : RunSnapshot) : Prop where
  overtakes : ∃ later other moment forTimer further,
    number < later ∧ desk.sent? later = some other ∧
      other.poll.run = sent.poll.run ∧
      (moment, .answer other forTimer (.ok further)) ∈ steps ∧
      further.cursor = cursors later ∧ snapshot.cursor < further.cursor

variable [KeyValueStore σ] [AgentService ς]

/-- Every snapshot that comes answers a poll that was sent. -/
def AreAnswers (cursors : Nat → UInt64) (desk : Desk σ ς) :
    List (Moment × SessionStep) → Prop
  | [] => True
  | next :: later =>
      desk.IsAnswer cursors next.2 ∧
        (desk.step next.1 next.2).AreAnswers cursors later

/-! ## Where cursors come from -/

/-- How a run can have come to its cursor, given the run that the store held at
first and everything that has happened. -/
inductive ComesFrom (first : Option EvaluatorRun) (cursors : Nat → UInt64)
    (steps : List (Moment × SessionStep)) (desk : Desk σ ς) (id : String) :
    UInt64 → Prop where
  | start : ComesFrom first cursors steps desk id 0
  | found {run : EvaluatorRun} (isFirst : first = some run)
      (sameId : run.id = id) :
      ComesFrom first cursors steps desk id run.cursor
  | read {number : Nat} {sent : SentPoll} {moment : Moment} {forTimer : Bool}
      {snapshot : RunSnapshot} (wasSent : desk.sent? number = some sent)
      (sameRun : sent.poll.run = id)
      (hasCome : (moment, .answer sent forTimer (.ok snapshot)) ∈ steps)
      (isCursor : snapshot.cursor = cursors number) :
      ComesFrom first cursors steps desk id snapshot.cursor

/-- The cursor is not behind that of the run that was found at first. -/
def IsBeyond (first : Option EvaluatorRun) (id : String) (cursor : UInt64) :
    Prop :=
  ∀ run, first = some run → run.id = id → run.cursor ≤ cursor

/-- Every cursor is accounted for. -/
structure Traces (holds : σ → String → Option String)
    (first : Option EvaluatorRun) (cursors : Nat → UInt64)
    (steps : List (Moment × SessionStep)) (desk : Desk σ ς) : Prop where
  inMemory : ∀ run, desk.poller.dashboard.run = some run →
    ComesFrom first cursors steps desk run.id run.cursor ∧
      IsBeyond first run.id run.cursor
  inStore : ∀ run, (desk.stored holds).run = some run →
    ComesFrom first cursors steps desk run.id run.cursor ∧
      IsBeyond first run.id run.cursor
  asked : ∀ sent ∈ desk.asked, IsBeyond first sent.poll.run sent.poll.offset

section Step

variable {holds : σ → String → Option String} {first : Option EvaluatorRun}
  {cursors : Nat → UInt64} {steps : List (Moment × SessionStep)}
  {desk : Desk σ ς}

omit [KeyValueStore σ] [AgentService ς] in
theorem mem_asked_of_sent? {number : Nat} {sent : SentPoll}
    (wasSent : desk.sent? number = some sent) : sent ∈ desk.asked :=
  List.mem_reverse.mp (List.mem_of_getElem? wasSent)

/-- A poll keeps its number. -/
theorem sent?_step (moment : Moment) (step : SessionStep) {number : Nat}
    {sent : SentPoll} (wasSent : desk.sent? number = some sent) :
    (desk.step moment step).sent? number = some sent := by
  unfold sent? at wasSent ⊢
  cases desk.step_movedFrom moment step with
  | unchanged _ _ _ isAsked | moved _ _ _ _ isAsked
  | started _ _ _ _ _ _ isAsked =>
      rw [isAsked]
      exact wasSent
  | asked _ _ _ _ _ isAsked =>
      obtain ⟨inside, -⟩ := List.getElem?_eq_some_iff.mp wasSent
      rw [isAsked, List.reverse_cons, List.getElem?_append_left inside]
      exact wasSent

theorem ComesFrom.step {id : String} {cursor : UInt64}
    (comes : ComesFrom first cursors steps desk id cursor)
    (next : Moment × SessionStep) :
    ComesFrom first cursors (steps ++ [next])
      (desk.step next.1 next.2) id cursor := by
  cases comes with
  | start => exact .start
  | found isFirst sameId => exact .found isFirst sameId
  | read wasSent sameRun hasCome isCursor =>
      exact .read (sent?_step next.1 next.2 wasSent) sameRun
        (List.mem_append_left _ hasCome) isCursor

/-- The dashboard that a step begins with is in memory or in the store. -/
theorem Traces.base (durable : KeyValueStore.Durable holds)
    (traces : Traces holds first cursors steps desk)
    (next : Moment × SessionStep) {run : EvaluatorRun}
    (isRun : (desk.base next.2).run = some run) :
    ComesFrom first cursors (steps ++ [next]) (desk.step next.1 next.2)
        run.id run.cursor ∧
      IsBeyond first run.id run.cursor := by
  unfold Desk.base at isRun
  cases loaded : desk.loaded? next.2 with
  | none =>
      rw [loaded] at isRun
      obtain ⟨comes, beyond⟩ := traces.inMemory run isRun
      exact ⟨comes.step next, beyond⟩
  | some dashboard =>
      rw [loaded, Option.getD_some, eq_stored_of_loaded? durable loaded]
        at isRun
      obtain ⟨comes, beyond⟩ := traces.inStore run isRun
      exact ⟨comes.step next, beyond⟩

theorem Traces.memory_step (durable : KeyValueStore.Durable holds)
    (traces : Traces holds first cursors steps desk)
    {next : Moment × SessionStep}
    (answers : desk.IsAnswer cursors next.2)
    (isOther : ∀ run, first = some run →
      run.id ∉ (desk.step next.1 next.2).started)
    {run : EvaluatorRun}
    (isRun : (desk.step next.1 next.2).poller.dashboard.run = some run) :
    ComesFrom first cursors (steps ++ [next]) (desk.step next.1 next.2)
        run.id run.cursor ∧
      IsBeyond first run.id run.cursor := by
  cases desk.step_movedFrom next.1 next.2 with
  | unchanged isDashboard _ _ _ | asked _ _ isDashboard _ _ _ =>
      rw [isDashboard] at isRun
      exact traces.base durable next isRun
  | started _ _ isStarted move _ isLast _ =>
      obtain rfl := Option.some.inj (isStarted.symm.trans isRun)
      generalize (desk.base next.2).run = before at move
      cases move with
      | start _ kind id itemLimit model =>
          refine ⟨.start, ?_⟩
          -- The run that was found at first is not started again.
          intro found isFirst sameId
          cases isOther found isFirst (by simp [isLast, sameId,
            EvaluatorRun.start])
  | moved isOld move _ _ _ =>
      obtain ⟨earlier, isEarlier, further, same | isRead⟩ :=
        move.cursor_cases isOld isRun
      · rw [further.1, same]
        exact traces.base durable next isEarlier
      · obtain ⟨poll, snapshot, isPoll, sameRun, isCursor⟩ := isRead
        obtain ⟨sent, wasSent, rfl, forTimer, isAnswer⟩ :=
          SessionStep.cause_eq_poll isPoll
        obtain ⟨number, answered⟩ := answers sent forTimer snapshot isAnswer
          wasSent
        obtain ⟨-, beyond⟩ := traces.base durable next isEarlier
        have hasCome : (next.1, .answer sent forTimer (.ok snapshot)) ∈
            steps ++ [next] := by
          rw [← isAnswer]
          exact List.mem_append_right _ (List.mem_singleton_self _)
        constructor
        · rw [isCursor]
          exact .read (sent?_step next.1 next.2 answered.wasSent) sameRun
            hasCome answered.isCursor
        · intro found isFirst sameId
          exact UInt64.le_trans
            (beyond found isFirst (sameId.trans further.1)) further.2

theorem Traces.step (durable : KeyValueStore.Durable holds)
    (traces : Traces holds first cursors steps desk)
    {next : Moment × SessionStep}
    (answers : desk.IsAnswer cursors next.2)
    (isOther : ∀ run, first = some run →
      run.id ∉ (desk.step next.1 next.2).started) :
    Traces holds first cursors (steps ++ [next])
      (desk.step next.1 next.2) := by
  have moved := desk.step_movedFrom next.1 next.2
  constructor
  case inMemory =>
    intro run isRun
    exact traces.memory_step durable answers isOther isRun
  case inStore =>
    intro run isRun
    rcases moved.isWritten_or_same durable with isWritten | isSame
    · obtain ⟨kept, isKept, sameId, sameCursor⟩ := isWritten.exists_kept isRun
      rw [sameId, sameCursor]
      exact traces.memory_step durable answers isOther isKept
    · rw [isSame] at isRun
      obtain ⟨comes, beyond⟩ := traces.inStore run isRun
      exact ⟨comes.step next, beyond⟩
  case asked =>
    intro sent wasSent
    cases moved with
    | unchanged _ _ _ isAsked | moved _ _ _ _ isAsked
    | started _ _ _ _ _ _ isAsked =>
        rw [isAsked] at wasSent
        exact traces.asked sent wasSent
    | asked _ isRun _ _ _ isAsked =>
        rw [isAsked] at wasSent
        rcases List.mem_cons.mp wasSent with rfl | wasSent
        · exact (traces.base durable next isRun).2
        · exact traces.asked sent wasSent

theorem Traces.after_steps (durable : KeyValueStore.Durable holds)
    (traces : Traces holds first cursors steps desk)
    {later : List (Moment × SessionStep)}
    (answers : desk.AreAnswers cursors later)
    (isOther : ∀ run, first = some run → run.id ∉ (desk.after later).started) :
    Traces holds first cursors (steps ++ later) (desk.after later) := by
  induction later generalizing steps desk with
  | nil =>
      rw [List.append_nil]
      exact traces
  | cons next rest ih =>
      obtain ⟨isAnswer, areAnswers⟩ := answers
      have isOtherNow : ∀ run, first = some run →
          run.id ∉ (desk.step next.1 next.2).started := by
        intro run isFirst wasStarted
        have grows := (desk.step next.1 next.2).started_after rest
        exact isOther run isFirst (grows.subset wasStarted)
      rw [List.append_cons]
      exact ih (traces.step durable isAnswer isOtherNow) areAnswers isOther

omit [KeyValueStore σ] [AgentService ς] in
/-- What is behind a cursor that came from an answer is an answer that was
overtaken, and nothing is behind any other cursor. -/
theorem ComesFrom.isOvertaken {id : String} {cursor : UInt64}
    (comes : ComesFrom first cursors steps desk id cursor)
    (ordered : desk.IsOrdered cursors) {number : Nat} {sent : SentPoll}
    {snapshot : RunSnapshot}
    (answers : desk.Answers cursors number sent snapshot)
    (polled : IsBeyond first sent.poll.run sent.poll.offset)
    (isPolled : id = sent.poll.run) (behind : snapshot.cursor < cursor) :
    IsOvertaken cursors steps desk number sent snapshot := by
  cases comes with
  | start => cases UInt64.not_lt_zero behind
  | @found run isFirst sameId =>
      have reached : run.cursor ≤ snapshot.cursor := UInt64.le_trans
        (polled run isFirst (sameId.trans isPolled)) answers.reaches
      exact absurd behind (UInt64.not_lt.mpr reached)
  | @read later other moment forTimer further wasSent sameRun hasCome
      isCursor =>
      have sameId := sameRun.trans isPolled
      refine ⟨later, other, moment, forTimer, further, ?_, wasSent, sameId,
        hasCome, isCursor, behind⟩
      by_contra notLater
      have upTo := ordered later number other sent (Nat.not_lt.mp notLater)
        wasSent answers.wasSent sameId
      rw [← isCursor, ← answers.isCursor] at upTo
      exact UInt64.not_lt.mpr upTo behind

end Step

/-! ## What is rejected -/

/-- Among the answers of an honest service only those that were overtaken are
rejected. -/
structure RejectsOvertaken (cursors : Nat → UInt64)
    (steps : List (Moment × SessionStep)) (desk : Desk σ ς) : Prop where
  /-- Whoever polls is told of a cursor that went back. -/
  result : ∀ moment number sent snapshot stored received,
    desk.Answers cursors number sent snapshot →
    ((desk.atMoment moment).poller.handleAnswer sent.poll
      (.ok snapshot)).result = .error (.cursorRegression stored received) →
    IsOvertaken cursors steps desk number sent snapshot
  /-- Everybody is told of a breach of the rules. -/
  event : ∀ moment step message,
    .protocolViolation message ∈ desk.news moment step →
    ∃ sent forTimer snapshot, step = .answer sent forTimer (.ok snapshot) ∧
      ∀ number, desk.Answers cursors number sent snapshot →
        IsOvertaken cursors steps desk number sent snapshot

/-- Only an answer breaks the rules, and only from behind the run. -/
theorem behind_of_violation {desk : Desk σ ς} {moment : Moment}
    {step : SessionStep} {message : String}
    (isNews : .protocolViolation message ∈ desk.news moment step) :
    ∃ sent forTimer snapshot run,
      step = .answer sent forTimer (.ok snapshot) ∧
        desk.poller.dashboard.run = some run ∧ run.id = sent.poll.run ∧
        snapshot.cursor < run.cursor := by
  have reports := desk.step_reports moment step
  generalize desk.news moment step = events at isNews reports
  cases reports with
  | silent _ | cleared _ _ | unwritten _ => cases isNews
  | found _ _ _ | marked _ _ _ _ _ _ _ => cases List.mem_singleton.mp isNews
  | written _ _ _ news => cases news.tellsOf _ isNews
  | @rejected run poll snapshot isPoll isRun isPolled behind _ =>
      obtain ⟨sent, -, rfl, forTimer, rfl⟩ := SessionStep.cause_eq_poll isPoll
      exact ⟨sent, forTimer, snapshot, run, rfl, isRun, isPolled, behind⟩

/-- Whatever the store held at first and whichever writes fail, however polls
and operations interleave and in whichever order the answers come: an honest
service, which does not start a second run with the identifier of the one that
was found, is told of a broken rule only if an answer was overtaken. -/
theorem rejectsOvertaken_after {holds : σ → String → Option String}
    (durable : KeyValueStore.Durable holds) (store : σ) (service : ς)
    (supply : Supply) (interval : Nat) (cursors : Nat → UInt64)
    (steps : List (Moment × SessionStep))
    (answers : (new store service supply interval).AreAnswers cursors steps)
    (ordered : ((new store service supply interval).after
      steps).IsOrdered cursors)
    (isOther : ∀ run,
      ((new store service supply interval).stored holds).run = some run →
        run.id ∉ ((new store service supply interval).after steps).started) :
    RejectsOvertaken cursors steps
      ((new store service supply interval).after steps) := by
  let origin : Desk σ ς := new store service supply interval
  have begins : Traces holds (origin.stored holds).run cursors [] origin := by
    constructor
    case inMemory =>
      intro run isRun
      cases isRun
    case inStore =>
      intro run isRun
      refine ⟨.found isRun rfl, ?_⟩
      intro found isFirst _
      obtain rfl := Option.some.inj (isRun.symm.trans isFirst)
      exact UInt64.le_refl run.cursor
    case asked =>
      intro sent wasSent
      cases wasSent
  have traces := begins.after_steps durable answers isOther
  rw [List.nil_append] at traces
  constructor
  case result =>
    intro moment number sent snapshot stored received isAnswer regression
    obtain ⟨run, isRun, isPolled, behind⟩ :=
      Poller.behind_of_regression regression
    have polled := traces.asked sent (mem_asked_of_sent? isAnswer.wasSent)
    exact (traces.inMemory run isRun).1.isOvertaken ordered isAnswer polled
      isPolled behind
  case event =>
    intro moment step message isNews
    obtain ⟨sent, forTimer, snapshot, run, isStep, isRun, isPolled, behind⟩ :=
      behind_of_violation isNews
    refine ⟨sent, forTimer, snapshot, isStep, ?_⟩
    intro number isAnswer
    have polled := traces.asked sent (mem_asked_of_sent? isAnswer.wasSent)
    exact (traces.inMemory run isRun).1.isOvertaken ordered isAnswer polled
      isPolled behind

/-- Two polls from the same offset are on their way. -/
def bothSent : SentPoll := ⟨⟨"run-1", 0⟩, 1⟩

def upTo (cursor : UInt64) : RunSnapshot :=
  ⟨.running, cursor, .empty, none, none, none⟩

/-- The answer to the second poll comes first. -/
def overtaking : List (Moment × SessionStep) :=
  beginning ++ [(epoch, .ask), (epoch, .timerDue),
    (epoch, .answer bothSent true (.ok (upTo 3)))]

/-- The service answers the second poll from further on. -/
def furtherOn (number : Nat) : UInt64 := if number = 0 then 2 else 3

omit [KeyValueStore σ] [AgentService ς] in
theorem furtherOn_isOrdered (desk : Desk σ ς) : desk.IsOrdered furtherOn := by
  intro earlier later _ _ before _ _ _
  unfold furtherOn
  split
  · split <;> decide
  next notFirst =>
    rw [if_neg (by omega)]
    exact UInt64.le_refl 3

theorem overtaking_areAnswers : ofOneRun.AreAnswers furtherOn overtaking := by
  refine ⟨nofun, nofun, nofun, nofun, ?_, trivial⟩
  rintro _ _ _ ⟨⟩ _
  exact ⟨1, by decide +kernel, by decide, rfl⟩

theorem late_answers :
    (ofOneRun.after overtaking).Answers furtherOn 0 bothSent (upTo 2) :=
  ⟨by decide +kernel, by decide, rfl⟩

/-- The answer to the first poll comes too late and is rejected. -/
theorem rejectsOvertaken_late :
    let reached := ofOneRun.after overtaking
    reached.news epoch (.answer bothSent false (.ok (upTo 2))) =
        [.protocolViolation (EvaluatorError.cursorRegression 3 2).message] ∧
      reached.Answers furtherOn 0 bothSent (upTo 2) ∧
      IsOvertaken furtherOn overtaking reached 0 bothSent (upTo 2) := by
  intro reached
  have isNews : reached.news epoch (.answer bothSent false (.ok (upTo 2))) =
      [.protocolViolation (EvaluatorError.cursorRegression 3 2).message] := by
    decide +kernel
  have rejects : RejectsOvertaken furtherOn overtaking reached := by
    apply rejectsOvertaken_after MemoryStore.durable .empty oneRun
      ⟨0, 0, ⟨0, 0⟩⟩ 600 furtherOn overtaking overtaking_areAnswers
    · exact furtherOn_isOrdered _
    · rintro run ⟨⟩
  refine ⟨isNews, late_answers, ?_⟩
  obtain ⟨sent, forTimer, snapshot, isStep, isOvertaken⟩ :=
    rejects.event epoch _ _ (isNews ▸ List.mem_singleton_self _)
  cases isStep
  exact isOvertaken 0 late_answers

/-- That the service is honest does not keep its answers from being
rejected. -/
theorem not_never_rejected :
    ¬∀ (cursors : Nat → UInt64) (steps : List (Moment × SessionStep))
        (number : Nat) (sent : SentPoll) (snapshot : RunSnapshot),
      ofOneRun.AreAnswers cursors steps →
      (ofOneRun.after steps).IsOrdered cursors →
      (ofOneRun.after steps).Answers cursors number sent snapshot →
      (∀ message, .protocolViolation message ∉
        (ofOneRun.after steps).news epoch
          (.answer sent false (.ok snapshot))) ∧
      ∀ stored received,
        ((ofOneRun.after steps).poller.handleAnswer sent.poll
          (.ok snapshot)).result ≠
            .error (.cursorRegression stored received) := by
  intro claimed
  obtain ⟨noNews, -⟩ := claimed furtherOn overtaking 0 bothSent (upTo 2)
    overtaking_areAnswers (furtherOn_isOrdered _) late_answers
  apply noNews (EvaluatorError.cursorRegression 3 2).message
  decide +kernel

end Desk

end AgentPipeline
