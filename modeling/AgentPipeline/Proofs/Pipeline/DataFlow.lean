import AgentPipeline.Proofs.Pipeline.Account
import AgentPipeline.Proofs.Pipeline.Dispatch

/-!
# The flow of data between stages

Beside a pipeline an observer keeps the accounts of its runs: a start opens
one, what is dispatched and what the service answers goes to the newest.
While the current run is the one of the newest account, what it holds is what
the service has returned, so every call carries what the account tells.
Main statement: `flows_through`.
-/

namespace AgentPipeline

theorem Run.IsUnderway.unique {run : Run} {stage other : Stage}
    (underway : run.IsUnderway stage) (too : run.IsUnderway other) :
    stage = other := by
  have processing : run.states.get stage = .processing := by
    rw [underway.reaches.states stage, if_neg (by omega), if_pos rfl]
  rw [too.reaches.states stage] at processing
  have sameIndex : stage.index = other.index := by
    split at processing
    · cases processing
    · split at processing
      · assumption
      · cases processing
  cases stage <;> cases other <;> first | rfl | cases sameIndex

namespace Account

/-! ## The current run -/

/-- What a run holds is what the account tells, also in the models that were
resolved for its stages. -/
structure Holds (account : Account) (models : PerStage (Option ModelConfig))
    (run : Run) : Prop where
  concerns : account.Concerns run
  models : ∀ stage, models.get stage =
    account.registry.resolveFor stage.agent account.request.selections
  isAttempt : 1 ≤ run.attempt.toNat
  outputs : ∀ stage output, run.outputs.get stage = some output →
    account.output? run.attempt stage = some output

/-- The account of the current run, with as many calls as its stages tell
of. -/
structure Tracks (account : Account) (models : PerStage (Option ModelConfig))
    (run : Run) : Prop where
  holds : account.Holds models run
  underway : ∀ stage, run.IsUnderway stage →
    account.calls.length = stage.position run.attempt.toNat + 1 ∧
      (stage.index < 2 → run.attempt = 1)
  paused : run.status = .pausedAtCheckpoint →
    account.calls.length = 2 ∧ run.attempt = 1
  completed : run.status = .completed →
    account.calls.length = 2 * run.attempt.toNat + 2

/-- The next call of the run is the one with an input. -/
structure IsDue (account : Account) (models : PerStage (Option ModelConfig))
    (run : Run) (input : StageInput) : Prop where
  flows : account.Flows
  holds : account.Holds models run
  length : account.calls.length = input.stage.position run.attempt.toNat
  first : input.stage.index < 2 → run.attempt = 1
  succeeded : ∀ earlier < account.calls.length,
    (account.returned? earlier).isSome
  input : account.input? run.attempt input.stage = some input

variable {account : Account} {models : PerStage (Option ModelConfig)}
  {run : Run}

/-- A run that moves on without a new output holds the same. -/
theorem Holds.moved (holds : account.Holds models run)
    (states : PerStage StageState) (durations : PerStage (Option UInt64))
    (status : RunStatus) (error : Option String) :
    account.Holds models { run with states, durations, status, error } :=
  ⟨holds.concerns.of_same rfl rfl, holds.models, holds.isAttempt,
    holds.outputs⟩

theorem Holds.tracks_of_stopped (holds : account.Holds models run)
    (stopped : run.status = .failed ∨ run.status = .cancelled) :
    account.Tracks models run := by
  refine ⟨holds, ?_, ?_, ?_⟩
  · intro stage underway
    have running := underway.running
    rcases stopped with status | status <;> rw [status] at running <;>
      cases running
  · intro paused
    rcases stopped with status | status <;> rw [status] at paused <;>
      cases paused
  · intro completed
    rcases stopped with status | status <;> rw [status] at completed <;>
      cases completed

theorem index_lt_of_output
    {stage other : Stage} (underway : run.IsUnderway stage) {output : Json}
    (present : run.outputs.get other = some output) :
    other.index < stage.index := by
  have completed : run.states.get other = .completed :=
    (underway.reaches.outputs other).mp (Option.isSome_of_eq_some present)
  rw [underway.reaches.states other] at completed
  split at completed
  next before => exact before
  next => split at completed <;> cases completed

/-- An answer to the call of a stage leaves the outputs of the stages before
it. -/
theorem Holds.answer (holds : account.Holds models run) {stage : Stage}
    (underway : run.IsUnderway stage)
    (length : account.calls.length =
      stage.position run.attempt.toNat + 1)
    (outcome : Except ServiceError Json) :
    (account.answer outcome).Holds models run := by
  refine ⟨holds.concerns.of_same rfl rfl, holds.models, holds.isAttempt, ?_⟩
  intro other output present
  have before := Stage.position_lt_position holds.isAttempt
    (index_lt_of_output underway present)
  rw [← holds.outputs other output present]
  exact returned?_answer_of_lt (by omega) outcome

theorem Holds.finished (holds : account.Holds models run) {stage : Stage}
    (underway : run.IsUnderway stage)
    (length : account.calls.length =
      stage.position run.attempt.toNat + 1)
    (output : Json) (milliseconds : UInt64) :
    (account.answer (.ok output)).Holds models
      (run.finished stage output milliseconds) := by
  have answered := holds.answer underway length (.ok output)
  refine ⟨holds.concerns.of_same rfl rfl, holds.models, holds.isAttempt, ?_⟩
  intro other found present
  by_cases same : other = stage
  · subst same
    simp only [Run.finished, PerStage.get_set_self, Option.some.injEq]
      at present
    subst present
    exact returned?_answer_last length output
  · simp only [Run.finished, PerStage.get_set_of_ne _ same] at present
    exact answered.outputs other found present

/-- All calls have succeeded when the last one has: it was not made
before. -/
theorem Flows.succeeded (flows : account.Flows) {last : Nat}
    (length : account.calls.length = last + 1)
    (returned : (account.returned? last).isSome) :
    ∀ earlier < account.calls.length,
      (account.returned? earlier).isSome := by
  intro earlier isEarlier
  obtain ⟨sent, found⟩ : ∃ sent,
      account.calls[last]? = some sent :=
    ⟨_, List.getElem?_eq_getElem (by omega)⟩
  -- The call in the last place came when those before it were answered.
  obtain ⟨_, _, sends⟩ := flows last sent found
  by_cases isLast : earlier = last
  · rw [isLast]
    exact returned
  · exact sends.succeeded earlier (by omega)

theorem Flows.succeeded_answer (flows : account.Flows) {last : Nat}
    (length : account.calls.length = last + 1) (output : Json) :
    ∀ earlier < (account.answer (.ok output)).calls.length,
      ((account.answer (.ok output)).returned? earlier).isSome :=
  (flows_answer flows (.ok output)).succeeded
    ((length_answer account _).trans length)
    (Option.isSome_of_eq_some (returned?_answer_last length output))

/-! ## The next call -/

theorem IsDue.sends {input : StageInput}
    (due : account.IsDue models run input) :
    account.Sends account.calls.length (run.begun input.stage)
      ⟨input, models.get input.stage, run.temperature⟩ := by
  have isAttempt := due.holds.isAttempt
  constructor
  · exact due.holds.concerns.of_same rfl rfl
  · rw [due.length, Stage.atPosition_position isAttempt]
    rfl
  · rw [due.length, Stage.position_div_two isAttempt]
    · rfl
    · intro isFirst
      rw [due.first isFirst]
      rfl
  · exact due.succeeded
  · exact due.input
  · rfl
  · rw [due.holds.models]
    exact due.holds.concerns.models input.stage
  · intro config chosen
    rw [due.holds.models] at chosen
    simp only [ModelRegistry.resolveFor, ModelRegistry.resolve] at chosen
    obtain ⟨model, _, rfl⟩ := Option.map_eq_some_iff.mp chosen
    rfl

theorem IsDue.tracks {input : StageInput}
    (due : account.IsDue models run input)
    (ready : run.IsReady input.stage.index) :
    (account.send (some (run.begun input.stage))
      ⟨input, models.get input.stage, run.temperature⟩).Tracks models
      (run.begun input.stage) := by
  have underway := Run.begun_isUnderway ready
  have length : (account.send (some (run.begun input.stage))
      ⟨input, models.get input.stage, run.temperature⟩).calls.length =
      input.stage.position run.attempt.toNat + 1 := by
    rw [send, List.length_append, due.length]
    rfl
  constructor
  · refine ⟨due.holds.concerns.of_same rfl rfl, due.holds.models,
      due.holds.isAttempt, ?_⟩
    intro stage output present
    have returned := due.holds.outputs stage output present
    exact (returned?_send_of_lt (lt_of_returned? returned) _ _).trans returned
  · intro stage too
    obtain rfl := underway.unique too
    exact ⟨length, due.first⟩
  · intro paused
    have running := underway.running
    rw [paused] at running
    cases running
  · intro completed
    have running := underway.running
    rw [completed] at running
    cases running

theorem Tracks.isDue_of_paused (tracks : account.Tracks models run)
    (flows : account.Flows) (paused : run.status = .pausedAtCheckpoint)
    {parsed reasoning : Json}
    (parse : run.outputs.parse = some parsed)
    (reason : run.outputs.reason = some reasoning) :
    account.IsDue models { run with status := .running }
      (.generate parsed reasoning run.inputText run.attempt none none) := by
  obtain ⟨length, isFirst⟩ := tracks.paused paused
  have holds := tracks.holds
  have parseTold := holds.outputs .parse parsed parse
  have reasonTold := holds.outputs .reason reasoning reason
  refine ⟨flows, holds.moved _ _ _ _, ?_, fun _ => isFirst, ?_, ?_⟩
  · rw [length]
    simp only [StageInput.stage, Stage.position, isFirst]
    rfl
  · exact flows.succeeded length (Option.isSome_of_eq_some reasonTold)
  · rw [holds.concerns.text]
    exact input?_generate_first isFirst parseTold reasonTold

theorem Tracks.isDue_of_completed (tracks : account.Tracks models run)
    (flows : account.Flows) (completed : run.status = .completed)
    {parsed reasoning previous verdict : Json} {bound : UInt32}
    (parse : run.outputs.parse = some parsed)
    (reason : run.outputs.reason = some reasoning)
    (generate : run.outputs.generate = some previous)
    (validate : run.outputs.validate = some verdict)
    (left : run.attempt < bound) :
    account.IsDue models run.startAttempt.1
      (.generate parsed reasoning run.inputText (run.attempt + 1)
        (some previous)
        (some (ValidationSummary.ofOutput verdict).errors)) := by
  have length := tracks.completed completed
  have holds := tracks.holds
  have isAttempt := holds.isAttempt
  -- The attempts cannot overflow: this one is below their bound.
  have next : (run.attempt + 1).toNat = run.attempt.toNat + 1 := by
    have inside := UInt32.lt_iff_toNat_lt.mp left
    have bounded := bound.toNat_lt
    rw [UInt32.toNat_add]
    exact Nat.mod_eq_of_lt (by simp; omega)
  have isLater : run.attempt + 1 ≠ 1 := by
    intro isFirst
    rw [isFirst] at next
    simp at next
    omega
  have before : run.attempt + 1 - 1 = run.attempt := UInt32.add_sub_cancel ..
  have parseTold := holds.outputs .parse parsed parse
  have reasonTold := holds.outputs .reason reasoning reason
  have generateTold := holds.outputs .generate previous generate
  have validateTold := holds.outputs .validate verdict validate
  refine ⟨flows, ⟨holds.concerns.of_same rfl rfl, holds.models, ?_, ?_⟩,
    ?_, ?_, ?_, ?_⟩
  · exact next ▸ Nat.le_add_left 1 _
  · intro stage output present
    cases stage with
    | parse => exact holds.outputs .parse output present
    | reason => exact holds.outputs .reason output present
    | generate | validate => cases present
  · have here : 2 * run.attempt.toNat + 2 = 2 * (run.attempt + 1).toNat := by
      omega
    exact length.trans here
  · intro early
    have impossible : 2 < 2 := early
    omega
  · exact flows.succeeded length (Option.isSome_of_eq_some validateTold)
  · rw [holds.concerns.text]
    refine input?_generate_further isLater parseTold reasonTold ?_ ?_
    · rw [before]
      exact generateTold
    · rw [before]
      exact validateTold

/-- Where a stage follows without a pause, its call is due when the answer to
the call before has come. -/
theorem Tracks.isDue_of_answer (tracks : account.Tracks models run)
    (flows : account.Flows) {stage : Stage}
    (underway : run.IsUnderway stage) {output : Json} {input : StageInput}
    {milliseconds : UInt64} (follows : run.Follows output stage input) :
    (account.answer (.ok output)).IsDue models
      (run.finished stage output milliseconds) input := by
  obtain ⟨length, isFirst⟩ := tracks.underway stage underway
  have holds := tracks.holds.finished underway length output milliseconds
  have told := holds.outputs stage output (PerStage.get_set_self _ _ _)
  refine ⟨flows_answer flows _, holds, ?_, ?_,
    flows.succeeded_answer length output, ?_⟩
  · rw [length_answer, length]
    cases follows with
    | reason => rfl
    | generate =>
        have one : run.attempt = 1 := isFirst (by decide)
        simp [Stage.position, StageInput.stage, Run.finished, one]
    | validate => rfl
  · intro early
    rw [follows.stage] at early
    exact isFirst (by omega)
  · have text : run.inputText =
        (account.answer (.ok output)).request.inputText := holds.concerns.text
    cases follows with
    | reason =>
        rw [text]
        exact input?_reason told
    | validate => exact input?_validate told
    | @generate parsed _ parse =>
        have parseTold := holds.outputs .parse parsed parse
        rw [text]
        exact input?_generate_first (isFirst (by decide)) parseTold told

end Account

/-! ## The observer -/

/-- The accounts with a new one, if a start dispatches a call. -/
def Turn.opened {σ : Type} (turn : Turn σ)
    (accounts : List Account) : Happening σ → List Account
  | .occurrence (.start request registry) =>
      if turn.requests.isEmpty then accounts
      else ⟨turn.pipeline.run.map (·.id), request, registry, []⟩ :: accounts
  | _ => accounts

namespace Pipeline

variable {σ : Type} [KeyValueStore σ]

def answerNewest (outcome : Except ServiceError Json) :
    List Account → List Account
  | [] => []
  | newest :: older => newest.answer outcome :: older

def sendNewest (run : Option Run) :
    List Account → StageRequest → List Account
  | [], _ => []
  | newest :: older, request => newest.send run request :: older

/-- The accounts with the answer that arrives, if a call is waited for. -/
def answered (pipeline : Pipeline σ) (accounts : List Account) :
    Happening σ → List Account
  | .occurrence (.reply outcome _) =>
      if pipeline.awaited.isSome then answerNewest outcome accounts
      else accounts
  | _ => accounts

/-- The accounts, newest first, behind a turn. -/
def observe (pipeline : Pipeline σ) (accounts : List Account)
    (happening : Happening σ) (turn : Turn σ) : List Account :=
  turn.requests.foldl (sendNewest turn.pipeline.run)
    (turn.opened (pipeline.answered accounts happening) happening)

def accountsThrough (pipeline : Pipeline σ) (accounts : List Account) :
    List (Happening σ) → List Account
  | [] => accounts
  | happening :: later =>
      let turn := pipeline.happen happening
      turn.pipeline.accountsThrough
        (pipeline.observe accounts happening turn) later

/-- All accounts are in order, and the newest is the one of the current
run. -/
structure IsAccounted (pipeline : Pipeline σ) (accounts : List Account) :
    Prop where
  flows : ∀ account ∈ accounts, account.Flows
  tracks : ∀ run, pipeline.run = some run → ∃ newest older,
    accounts = newest :: older ∧ newest.Tracks pipeline.stageModels run

omit [KeyValueStore σ] in
theorem opened_of_silent {turn : Turn σ} (silent : turn.requests = [])
    (accounts : List Account) (happening : Happening σ) :
    turn.opened accounts happening = accounts := by
  unfold Turn.opened
  split
  · rw [silent]
    rfl
  · rfl

omit [KeyValueStore σ] in
theorem observe_of_silent (pipeline : Pipeline σ) (accounts : List Account)
    (happening : Happening σ) {turn : Turn σ} (silent : turn.requests = []) :
    pipeline.observe accounts happening turn =
      pipeline.answered accounts happening := by
  rw [observe, silent, opened_of_silent silent]
  rfl

omit [KeyValueStore σ] in
theorem answered_of_waiting {pipeline : Pipeline σ} {call : AwaitedCall}
    (waiting : pipeline.awaited = some call) (newest : Account)
    (older : List Account) (outcome : Except ServiceError Json)
    (milliseconds : UInt64) :
    pipeline.answered (newest :: older)
        (.occurrence (.reply outcome milliseconds)) =
      newest.answer outcome :: older := by
  simp [answered, waiting, answerNewest]

/-! ## One turn -/

omit [KeyValueStore σ] in
/-- A run that is started has an account of its own. -/
theorem isDue_runOf (pipeline : Pipeline σ) (request : RunRequest)
    (registry : ModelRegistry) :
    (Account.mk (some pipeline.supply.nextId.1) request registry []).IsDue
      (pipeline.prepared request registry).stageModels
      (pipeline.runOf request registry) (.parse request.inputText) := by
  constructor
  · intro position sent found
    simp at found
  · refine ⟨⟨rfl, rfl, rfl, ?_⟩, ?_, Nat.le_refl 1, ?_⟩
    · intro stage
      simp [runOf, Run.new]
    · intro stage
      simp [prepared]
    · intro stage output present
      cases stage <;> cases present
  · rfl
  · intro _
    rfl
  · intro earlier isEarlier
    cases isEarlier
  · rfl

omit [KeyValueStore σ] in
/-- What a call is dispatched with is due. -/
theorem Dispatches.isDue
    {pipeline base : Pipeline σ} {happening : Happening σ} {run : Run}
    {token : TokenId} {input : StageInput} {events : List Event}
    (dispatches : pipeline.Dispatches happening base run token input events)
    {accounts : List Account} (accounted : pipeline.IsAccounted accounts) :
    ∃ newest older,
      ((base.dispatch run token input).afterEvents events).opened
        (pipeline.answered accounts happening) happening = newest :: older ∧
      newest.IsDue base.stageModels run input ∧
      ∀ account ∈ older, account.Flows := by
  cases dispatches with
  | @start request registry =>
      exact ⟨_, accounts, rfl, isDue_runOf pipeline request registry,
        accounted.flows⟩
  | @continueRun run token parsed reasoning _ current _ _ paused _ _ parse
      reason =>
      obtain ⟨newest, older, rfl, tracks⟩ := accounted.tracks run current
      have flows := List.forall_mem_cons.mp accounted.flows
      exact ⟨newest, older, rfl,
        tracks.isDue_of_paused flows.1 paused parse reason, flows.2⟩
  | @regenerate run parsed reasoning previous verdict _ current _ completed
      parse reason generate validate _ left =>
      obtain ⟨newest, older, rfl, tracks⟩ := accounted.tracks run current
      have flows := List.forall_mem_cons.mp accounted.flows
      exact ⟨newest, older, rfl, tracks.isDue_of_completed flows.1 completed
        parse reason generate validate left, flows.2⟩
  | @reply call run output milliseconds input waiting current underway _
      follows =>
      obtain ⟨newest, older, rfl, tracks⟩ := accounted.tracks run current
      have flows := List.forall_mem_cons.mp accounted.flows
      refine ⟨newest.answer (.ok output), older, ?_,
        tracks.isDue_of_answer flows.1 underway follows, flows.2⟩
      exact answered_of_waiting waiting newest older (.ok output) milliseconds

theorem flows_answerNewest
    {newest : Account} {older : List Account}
    (flows : ∀ account ∈ newest :: older, account.Flows)
    (outcome : Except ServiceError Json) :
    ∀ account ∈ newest.answer outcome :: older, account.Flows := by
  rw [List.forall_mem_cons] at flows ⊢
  exact ⟨Account.flows_answer flows.1 outcome, flows.2⟩

omit [KeyValueStore σ] in
/-- The account of a run that comes to rest. -/
theorem Concludes.tracks
    {pipeline : Pipeline σ} (shaped : pipeline.IsShaped)
    {happening : Happening σ} {tokens : CancelGroup} {run : Run}
    {events : List Event} {result : Except PipelineError Run}
    (concludes : pipeline.Concludes happening tokens run events result)
    {accounts : List Account} (accounted : pipeline.IsAccounted accounts) :
    ∃ newest older, pipeline.answered accounts happening = newest :: older ∧
      newest.Tracks pipeline.stageModels run ∧
      ∀ account ∈ newest :: older, account.Flows := by
  cases concludes with
  | @cancel _ _ run reason _ _ current _ _ _ stops =>
      obtain ⟨newest, older, rfl, tracks⟩ := accounted.tracks run current
      have stopped : ∀ {account : Account},
          account.Holds pipeline.stageModels run →
          account.Tracks pipeline.stageModels (run.cancel reason).1 :=
        fun holds => Account.Holds.tracks_of_stopped (holds.moved _ _ _ _)
          (.inr rfl)
      cases stops with
      | cancelWith | pending | continueRun | notice =>
          exact ⟨newest, older, rfl, stopped tracks.holds, accounted.flows⟩
      | @reply call _ outcome milliseconds waiting =>
          obtain ⟨_, same, underway⟩ := shaped.waits call waiting
          obtain rfl := Option.some.inj (current.symm.trans same)
          obtain ⟨length, _⟩ := tracks.underway _ underway
          exact ⟨newest.answer outcome, older,
            answered_of_waiting waiting newest older outcome milliseconds,
            stopped (tracks.holds.answer underway length outcome),
            flows_answerNewest accounted.flows outcome⟩
  | @fail call run error milliseconds _ waiting current underway =>
      obtain ⟨newest, older, rfl, tracks⟩ := accounted.tracks run current
      obtain ⟨length, _⟩ := tracks.underway _ underway
      have holds := tracks.holds.answer underway length (.error error)
      exact ⟨newest.answer (.error error), older,
        answered_of_waiting waiting newest older _ milliseconds,
        Account.Holds.tracks_of_stopped (holds.moved _ _ _ _) (.inl rfl),
        flows_answerNewest accounted.flows _⟩
  | @pause call run paused output milliseconds waiting current underway _
      isReason _ isPaused =>
      obtain ⟨newest, older, rfl, tracks⟩ := accounted.tracks run current
      rw [isReason] at underway
      obtain ⟨length, isFirst⟩ := tracks.underway _ underway
      have holds :=
        tracks.holds.finished underway length output milliseconds
      subst isPaused
      refine ⟨newest.answer (.ok output), older,
        answered_of_waiting waiting newest older _ milliseconds,
        ⟨holds.moved _ _ _ _, ?_, ?_, ?_⟩,
        flows_answerNewest accounted.flows _⟩
      · intro stage underway
        cases underway.running
      · intro _
        exact ⟨(Account.length_answer newest _).trans length,
          isFirst (by decide)⟩
      · rintro ⟨⟩
  | @complete call run completed output milliseconds waiting current underway
      _ isValidate isCompleted =>
      obtain ⟨newest, older, rfl, tracks⟩ := accounted.tracks run current
      rw [isValidate] at underway
      obtain ⟨length, _⟩ := tracks.underway _ underway
      have holds :=
        tracks.holds.finished underway length output milliseconds
      subst isCompleted
      refine ⟨newest.answer (.ok output), older,
        answered_of_waiting waiting newest older _ milliseconds,
        ⟨holds.moved _ _ _ _, ?_, ?_, ?_⟩,
        flows_answerNewest accounted.flows _⟩
      · intro stage underway
        cases underway.running
      · rintro ⟨⟩
      · intro _
        exact (Account.length_answer newest _).trans length

omit [KeyValueStore σ] in
theorem Passes.isAccounted
    {pipeline next : Pipeline σ} {happening : Happening σ}
    (passes : pipeline.Passes happening next) {accounts : List Account}
    (accounted : pipeline.IsAccounted accounts) :
    pipeline.answered accounts happening = accounts ∧
      next.IsAccounted accounts := by
  cases passes with
  | @busy operation _ _ isOperation =>
      refine ⟨?_, accounted⟩
      cases operation <;> first | rfl | cases isOperation
  | reply free => exact ⟨by simp [answered, free], accounted⟩
  | notice | nothingPending => exact ⟨rfl, accounted⟩
  | fire | issue | abandon | exchangeHistory =>
      exact ⟨rfl, accounted.flows, accounted.tracks⟩
  | discard =>
      refine ⟨rfl, accounted.flows, ?_⟩
      rintro _ ⟨⟩

theorem Takes.isAccounted
    {pipeline : Pipeline σ} (shaped : pipeline.IsShaped)
    {happening : Happening σ} {turn : Turn σ}
    (takes : pipeline.Takes happening turn) {accounts : List Account}
    (accounted : pipeline.IsAccounted accounts) :
    turn.pipeline.IsAccounted
      (pipeline.observe accounts happening turn) := by
  cases takes with
  | pass passes =>
      obtain ⟨same, next⟩ := passes.isAccounted accounted
      rw [observe_of_silent _ _ _ rfl, same]
      exact next
  | @refuse operation _ _ refuses =>
      have same : pipeline.answered accounts (.occurrence operation) =
          accounts := by cases refuses <;> rfl
      rw [observe_of_silent _ _ _ rfl, same]
      exact accounted
  | @dispatch _ base run token input events dispatches =>
      obtain ⟨newest, older, opened, due, flows⟩ :=
        dispatches.isDue accounted
      have ready := dispatches.isReady
      rw [observe, opened, Turn.requests_afterEvents, requests_dispatch]
      refine ⟨?_, ?_⟩
      · intro account isAccount
        rcases List.mem_cons.mp isAccount with rfl | isOlder
        · exact Account.flows_send due.flows due.sends
        · exact flows account isOlder
      · rintro _ ⟨⟩
        exact ⟨_, older, rfl, due.tracks ready⟩
  | conclude concludes =>
      obtain ⟨newest, older, answered, tracks, flows⟩ :=
        concludes.tracks shaped accounted
      rw [observe_of_silent _ _ _ (by simp), answered]
      refine ⟨flows, ?_⟩
      rintro _ ⟨⟩
      exact ⟨newest, older, rfl, tracks⟩

/-! ## All turns -/

/-- The calls that accounts, newest first, tell of, in order. -/
def requestsOf (accounts : List Account) : List StageRequest :=
  accounts.reverse.flatMap fun account => account.calls.map (·.request)

theorem requestsOf_cons (newest : Account) (older : List Account) :
    requestsOf (newest :: older) =
      requestsOf older ++ newest.calls.map (·.request) := by
  simp [requestsOf]

omit [KeyValueStore σ] in
theorem requestsOf_answered (pipeline : Pipeline σ) (accounts : List Account)
    (happening : Happening σ) :
    requestsOf (pipeline.answered accounts happening) =
      requestsOf accounts := by
  unfold answered
  split
  next outcome milliseconds =>
    split
    · cases accounts with
      | nil => rfl
      | cons newest older =>
          rw [answerNewest, requestsOf_cons, requestsOf_cons,
            Account.requests_answer]
    · rfl
  next => rfl

theorem requestsOf_opened {σ : Type} (turn : Turn σ)
    (accounts : List Account) (happening : Happening σ) :
    requestsOf (turn.opened accounts happening) = requestsOf accounts := by
  unfold Turn.opened
  split
  · split
    · rfl
    · rw [requestsOf_cons]
      exact List.append_nil _
  · rfl

/-- No call is missed: there is an account to enter it. -/
theorem Takes.requestsOf_observe
    {pipeline : Pipeline σ} {happening : Happening σ} {turn : Turn σ}
    (takes : pipeline.Takes happening turn) {accounts : List Account}
    (accounted : pipeline.IsAccounted accounts) :
    requestsOf (pipeline.observe accounts happening turn) =
      requestsOf accounts ++ turn.requests := by
  have unsent : turn.requests = [] →
      requestsOf (pipeline.observe accounts happening turn) =
        requestsOf accounts ++ turn.requests := by
    intro silent
    rw [observe_of_silent _ _ _ silent, requestsOf_answered, silent,
      List.append_nil]
  cases takes with
  | pass | refuse => exact unsent rfl
  | conclude => exact unsent (by simp)
  | @dispatch _ base run token input events dispatches =>
      obtain ⟨newest, older, opened, _⟩ := dispatches.isDue accounted
      have known := congrArg requestsOf opened
      rw [requestsOf_opened, requestsOf_answered, requestsOf_cons] at known
      rw [observe, opened, Turn.requests_afterEvents, requests_dispatch, known,
        List.append_assoc]
      refine (requestsOf_cons _ _).trans (congrArg _ ?_)
      exact List.map_append

theorem flows_accountsThrough
    {pipeline : Pipeline σ} (shaped : pipeline.IsShaped)
    {accounts : List Account} (accounted : pipeline.IsAccounted accounts)
    (happenings : List (Happening σ)) :
    (∀ account ∈ pipeline.accountsThrough accounts happenings,
      account.Flows) ∧
    requestsOf (pipeline.accountsThrough accounts happenings) =
      requestsOf accounts ++ pipeline.requestsThrough happenings := by
  induction happenings generalizing pipeline accounts with
  | nil => exact ⟨accounted.flows, (List.append_nil _).symm⟩
  | cons happening later ih =>
      have takes := takes_happen shaped happening
      obtain ⟨flows, requests⟩ :=
        ih (takes.isShaped shaped) (takes.isAccounted shaped accounted)
      refine ⟨flows, requests.trans ?_⟩
      rw [takes.requestsOf_observe accounted, requestsThrough_cons,
        List.append_assoc]

/-- Whatever has happened to a pipeline, every call that it has dispatched is
in the account of a run and carries what the account tells.  As this holds at
every moment, the answers that a call builds on had come before it. -/
theorem flows_through (history : History σ) (supply : Supply)
    (maxAttempts : UInt32) (happenings : List (Happening σ)) :
    (∀ account ∈
        (new history supply maxAttempts).accountsThrough [] happenings,
      account.Flows) ∧
    requestsOf ((new history supply maxAttempts).accountsThrough []
        happenings) =
      (new history supply maxAttempts).requestsThrough happenings := by
  have accounted : (new history supply maxAttempts).IsAccounted [] := by
    refine ⟨by simp, ?_⟩
    rintro _ ⟨⟩
  exact flows_accountsThrough (new_isShaped history supply maxAttempts)
    accounted happenings

/-- A run that is continued behind the checkpoint and repeated. -/
example :
    (inMemory.accountsThrough [] [.occurrence (startShort .manual),
      .occurrence (.reply (.ok .null) 5),
      .occurrence (.reply (.ok (.bool true)) 7), .occurrence .continueRun,
      .occurrence (.reply (.ok .null) 9),
      .occurrence (.reply (.ok (.object [("valid", .bool false)])) 3),
      .occurrence .regenerate]).map
        (·.calls.map (·.request.input)) =
    [[.parse "Users can read.", .reason .null "Users can read.",
      .generate .null (.bool true) "Users can read." 1 none none,
      .validate .null,
      .generate .null (.bool true) "Users can read." 2 (some .null)
        (some [])]] := rfl

end Pipeline

end AgentPipeline
