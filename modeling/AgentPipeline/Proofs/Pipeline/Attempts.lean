import AgentPipeline.Proofs.Pipeline.DataFlow
import AgentPipeline.Proofs.Pipeline.Observation
import AgentPipeline.Proofs.Uuid

/-!
# The attempts of a run

A run is on its first attempt when it is started and goes on to the next one
whenever it is regenerated, up to the limit of the pipeline; nothing else
changes the number.  The generate calls of a run therefore carry the numbers
from one on, each of them once.
Main statement: `attempts_through`.
-/

namespace AgentPipeline

/-- The operations that begin an attempt. -/
def Occurrence.beginsAttempt : Occurrence → Bool
  | .start .. | .regenerate => true
  | _ => false

theorem Occurrence.isOperation_of_beginsAttempt {operation : Occurrence}
    (begins : operation.beginsAttempt = true) :
    operation.isOperation = true := by
  cases operation <;> first | rfl | cases begins

/-- The attempt of which a generate call is told. -/
def StageInput.attempt? : StageInput → Option UInt32
  | .generate _ _ _ attempt _ _ => some attempt
  | _ => none

/-! ## The calls of one run -/

namespace Stage

/-- The attempt of the generate call at a place. -/
def attemptAt? (place : Nat) : Option Nat :=
  if atPosition place = .generate then some (place / 2) else none

theorem atPosition_add_two (place : Nat) :
    atPosition (place + 2) =
      if place % 2 = 0 then .generate else .validate := by
  rw [atPosition, Nat.add_mod_right]
  · omega
  · omega

/-- The generate calls at the first places belong to the attempts from one
on. -/
theorem filterMap_attemptAt? (places : Nat) :
    (List.range places).filterMap attemptAt? =
      List.range' 1 ((places - 1) / 2) := by
  induction places with
  | zero => rfl
  | succ place ih =>
      rw [List.range_succ, List.filterMap_append, ih]
      match place with
      | 0 | 1 => rfl
      | place + 2 =>
          simp only [List.filterMap_cons, List.filterMap_nil, attemptAt?,
            atPosition_add_two]
          by_cases even : place % 2 = 0
          · have next : (place + 2 + 1 - 1) / 2 = (place + 2 - 1) / 2 + 1 := by
              omega
            have number : 1 + (place + 2 - 1) / 2 = (place + 2) / 2 := by omega
            rw [next, List.range'_1_concat, number]
            simp [even]
          · have same : (place + 2 + 1 - 1) / 2 = (place + 2 - 1) / 2 := by
              omega
            rw [same]
            simp [even]

/-- At the first places there are no more validate calls than attempts. -/
theorem countP_validate (places : Nat) :
    (List.range places).countP (atPosition · = .validate) =
      (places - 2) / 2 := by
  induction places with
  | zero => rfl
  | succ place ih =>
      rw [List.range_succ, List.countP_append, ih]
      match place with
      | 0 | 1 => rfl
      | place + 2 =>
          simp only [List.countP_singleton, atPosition_add_two]
          by_cases even : place % 2 = 0
          · simp only [even, if_true, reduceCtorEq, decide_false]
            simp
            omega
          · simp only [even, if_false, decide_true, if_true]
            omega

end Stage

namespace Account

/-- The attempts that the generate calls of the run carry, in order. -/
def attempts (account : Account) : List Nat :=
  account.calls.filterMap fun sent =>
    sent.request.input.attempt?.map UInt32.toNat

/-- The number of the validate calls of the run. -/
def checks (account : Account) : Nat :=
  account.calls.countP fun sent => sent.request.stage = .validate

/-- The generate calls carry the numbers from one on without gaps or repeats,
no more than a limit, and there are at most as many validate calls. -/
structure IsNumbered (account : Account) (limit count : Nat) : Prop where
  attempts : account.attempts = List.range' 1 count
  bounded : count ≤ limit
  checks : account.checks ≤ count

/-- No call of the run belongs to an attempt beyond a limit. -/
def StaysWithin (account : Account) (limit : Nat) : Prop :=
  ∀ sent ∈ account.calls, ∀ run, sent.run = some run →
    run.attempt.toNat ≤ limit

theorem attempt?_of_input?
    {account : Account} {attempt : UInt32} {input : StageInput}
    (given : account.input? attempt .generate = some input) :
    input.attempt? = some attempt := by
  simp only [input?, Option.bind_eq_bind, Option.bind_eq_some_iff] at given
  obtain ⟨parsed, _, reasoning, _, rest⟩ := given
  split at rest
  next isFirst =>
    cases rest
    rw [isFirst]
    rfl
  next =>
    obtain ⟨previous, _, verdict, _, further⟩ :=
      (Option.bind_eq_some_iff.trans (exists_congr fun _ =>
        and_congr_right fun _ => Option.bind_eq_some_iff)).mp rest
    cases further
    rfl

/-- The place of a call tells the attempt that it carries. -/
theorem Sends.attempt?_eq
    {account : Account} {position : Nat} {run : Run} {request : StageRequest}
    (sends : account.Sends position run request) :
    request.input.attempt?.map UInt32.toNat = Stage.attemptAt? position := by
  have stage := sends.stage
  have attempt := sends.attempt
  rw [Stage.attemptAt?, ← stage]
  by_cases isGenerate : request.stage = .generate
  · have input := sends.input
    have isLater : 2 ≤ position := by
      rw [isGenerate] at stage
      match position with
      | 0 | 1 => cases stage
      | later + 2 => omega
    rw [isGenerate] at input
    rw [if_pos isGenerate, attempt?_of_input? input, Option.map_some, attempt]
    congr 1
    omega
  · rw [if_neg isGenerate]
    obtain ⟨input, model, temperature⟩ := request
    cases input with
    | generate => exact absurd rfl isGenerate
    | parse | reason | validate => rfl

/-- What a function finds in a list it finds from the places in it. -/
theorem map_eq_map_range {α β : Type} {values : List α} {read : α → β}
    {tell : Nat → β}
    (same : ∀ place value, values[place]? = some value →
      read value = tell place) :
    values.map read = (List.range values.length).map tell := by
  apply List.ext_getElem?
  intro place
  rw [List.getElem?_map, List.getElem?_map]
  cases found : values[place]? with
  | none =>
      have beyond := List.getElem?_eq_none_iff.mp found
      rw [List.getElem?_eq_none (by simpa using beyond)]
      rfl
  | some value =>
      have within := (List.getElem?_eq_some_iff.mp found).1
      rw [List.getElem?_range within, Option.map_some, Option.map_some,
        same place value found]

/-- Where every call carries what it must, and none belongs to an attempt
beyond a limit, the attempts are numbered. -/
theorem Flows.isNumbered {account : Account} (flows : account.Flows)
    {limit : Nat} (positive : 1 ≤ limit)
    (within : account.StaysWithin limit) :
    ∃ count, account.IsNumbered limit count := by
  have attempts : account.calls.map (fun sent =>
      sent.request.input.attempt?.map UInt32.toNat) =
      (List.range account.calls.length).map Stage.attemptAt? := by
    apply map_eq_map_range
    intro place sent found
    obtain ⟨run, _, sends⟩ := flows place sent found
    exact sends.attempt?_eq
  have stages : account.calls.map (·.request.stage) =
      (List.range account.calls.length).map Stage.atPosition := by
    apply map_eq_map_range
    intro place sent found
    obtain ⟨run, _, sends⟩ := flows place sent found
    exact sends.stage
  refine ⟨(account.calls.length - 1) / 2, ?_, ?_, ?_⟩
  · rw [← Stage.filterMap_attemptAt?, Account.attempts]
    have read := congrArg (List.filterMap id) attempts
    rw [List.filterMap_map, List.filterMap_map] at read
    exact read
  · -- The last call belongs to an attempt within the limit.
    by_cases isEmpty : account.calls.length = 0
    · omega
    · have last := List.getElem?_eq_getElem
        (show account.calls.length - 1 < account.calls.length by omega)
      obtain ⟨run, isRun, sends⟩ := flows _ _ last
      have attempt := sends.attempt
      have bounded := within _ (List.getElem_mem _) run isRun
      omega
  · have counted := congrArg (List.countP (· = .validate)) stages
    rw [List.countP_map, List.countP_map] at counted
    have checks : account.checks = (account.calls.length - 2) / 2 :=
      counted.trans (Stage.countP_validate _)
    omega

end Account

namespace Pipeline

variable {σ : Type} [KeyValueStore σ]

/-! ## The attempt of the current run -/

/-- The operation is called while no other waits, and it is not refused. -/
def Accepts (pipeline : Pipeline σ) (operation : Occurrence) : Prop :=
  pipeline.awaited = none ∧
    ∀ error, pipeline.occur operation ≠ pipeline.refuse error

/-- From where the run that something leaves has its attempt: it was started,
it was regenerated, or it is the one that there was. -/
inductive Numbers (pipeline : Pipeline σ) : Happening σ → Run → Prop
  | first {request : RunRequest} {registry : ModelRegistry} {run : Run}
      (isFirst : run.attempt = 1) :
      pipeline.Numbers (.occurrence (.start request registry)) run
  | next {before run : Run} (current : pipeline.run = some before)
      (left : before.attempt < pipeline.maxAttempts)
      (sameId : run.id = before.id)
      (isNext : run.attempt = before.attempt + 1) :
      pipeline.Numbers (.occurrence .regenerate) run
  | same {happening : Happening σ} {before run : Run}
      (current : pipeline.run = some before) (sameId : run.id = before.id)
      (sameAttempt : run.attempt = before.attempt) :
      pipeline.Numbers happening run

omit [KeyValueStore σ] in
theorem Dispatches.numbers
    {pipeline base : Pipeline σ} {happening : Happening σ} {run : Run}
    {token : TokenId} {input : StageInput} {events : List Event}
    (dispatches : pipeline.Dispatches happening base run token input events) :
    pipeline.Numbers happening run := by
  cases dispatches with
  | start => exact .first rfl
  | continueRun _ current => exact .same current rfl rfl
  | regenerate _ current _ _ _ _ _ _ _ left => exact .next current left rfl rfl
  | reply _ current => exact .same current rfl rfl

omit [KeyValueStore σ] in
theorem Concludes.same
    {pipeline : Pipeline σ} {happening : Happening σ} {tokens : CancelGroup}
    {run : Run} {events : List Event} {result : Except PipelineError Run}
    (concludes : pipeline.Concludes happening tokens run events result) :
    ∃ before, pipeline.run = some before ∧ run.id = before.id ∧
      run.attempt = before.attempt := by
  cases concludes with
  | cancel current | fail _ current => exact ⟨_, current, rfl, rfl⟩
  | pause _ current _ _ _ _ isEnd | complete _ current _ _ _ isEnd =>
      subst isEnd
      exact ⟨_, current, rfl, rfl⟩

theorem Takes.numbers
    {pipeline : Pipeline σ} {happening : Happening σ} {turn : Turn σ}
    (takes : pipeline.Takes happening turn) {run : Run}
    (left : turn.pipeline.run = some run) :
    pipeline.Numbers happening run := by
  cases takes with
  | pass passes =>
      rcases passes.run with same | none
      · exact .same (same.symm.trans left) rfl rfl
      · cases none.symm.trans left
  | refuse => exact .same left rfl rfl
  | dispatch dispatches =>
      cases left
      cases dispatches.numbers with
      | first isFirst => exact .first isFirst
      | next current left sameId isNext =>
          exact .next current left sameId isNext
      | same current sameId sameAttempt =>
          exact .same current sameId sameAttempt
  | conclude concludes =>
      cases left
      obtain ⟨before, current, sameId, sameAttempt⟩ := concludes.same
      exact .same current sameId sameAttempt

/-- A further attempt within a limit has the next number: it does not
overflow. -/
theorem toNat_next_attempt {attempt limit : UInt32} (left : attempt < limit) :
    (attempt + 1).toNat = attempt.toNat + 1 := by
  have bound := limit.toNat_lt
  rw [UInt32.lt_iff_toNat_lt] at left
  rw [UInt32.toNat_add, UInt32.toNat_one]
  omega

/-- The limit stays, and the current run keeps to it. -/
structure KeepsTo (pipeline : Pipeline σ) (limit : UInt32) : Prop where
  sameLimit : pipeline.maxAttempts = limit
  bounded : ∀ run, pipeline.run = some run →
    1 ≤ run.attempt.toNat ∧ run.attempt.toNat ≤ max 1 limit.toNat

omit [KeyValueStore σ] in
theorem Numbers.bounded
    {pipeline : Pipeline σ} {happening : Happening σ} {run : Run}
    (numbers : pipeline.Numbers happening run) {limit : UInt32}
    (keeps : pipeline.KeepsTo limit) :
    1 ≤ run.attempt.toNat ∧ run.attempt.toNat ≤ max 1 limit.toNat := by
  cases numbers with
  | first isFirst =>
      rw [isFirst]
      exact ⟨Nat.le_refl 1, Nat.le_max_left 1 _⟩
  | next current left _ isNext =>
      have within := UInt32.lt_iff_toNat_lt.mp left
      rw [isNext, toNat_next_attempt left]
      rw [keeps.sameLimit] at within
      exact ⟨Nat.le_add_left 1 _, Nat.le_trans within (Nat.le_max_right 1 _)⟩
  | same current _ sameAttempt =>
      rw [sameAttempt]
      exact keeps.bounded _ current

theorem Takes.maxAttempts
    {pipeline : Pipeline σ} {happening : Happening σ} {turn : Turn σ}
    (takes : pipeline.Takes happening turn) :
    turn.pipeline.maxAttempts = pipeline.maxAttempts := by
  cases takes with
  | pass passes => cases passes <;> rfl
  | refuse => rfl
  | dispatch dispatches => cases dispatches <;> rfl
  | conclude => rfl

theorem Takes.keepsTo
    {pipeline : Pipeline σ} {happening : Happening σ} {turn : Turn σ}
    (takes : pipeline.Takes happening turn) {limit : UInt32}
    (keeps : pipeline.KeepsTo limit) : turn.pipeline.KeepsTo limit :=
  ⟨takes.maxAttempts.trans keeps.sameLimit,
    fun _ left => (takes.numbers left).bounded keeps⟩

/-! ## Operations that begin an attempt -/

omit [KeyValueStore σ] in
theorem Dispatches.free
    {pipeline base : Pipeline σ} {operation : Occurrence} {run : Run}
    {token : TokenId} {input : StageInput} {events : List Event}
    (dispatches : pipeline.Dispatches (.occurrence operation) base run token
      input events) (isOperation : operation.isOperation = true) :
    pipeline.awaited = none := by
  cases dispatches with
  | start free | continueRun free | regenerate free => exact free
  | reply => cases isOperation

/-- An operation whose conditions hold is accepted. -/
theorem Dispatches.accepts
    {pipeline base : Pipeline σ} (shaped : pipeline.IsShaped)
    {operation : Occurrence} {run : Run} {token : TokenId}
    {input : StageInput} {events : List Event}
    (dispatches : pipeline.Dispatches (.occurrence operation) base run token
      input events) (isOperation : operation.isOperation = true) :
    pipeline.Accepts operation := by
  refine ⟨dispatches.free isOperation, ?_⟩
  intro error refused
  obtain ⟨_, _, _, _, _, _, isTurn⟩ := dispatches.takes isOperation
    (takes_happen shaped (.occurrence operation))
  have results := congrArg Turn.result (isTurn.symm.trans refused)
  cases results

/-- An operation that is accepted and begins an attempt dispatches a call. -/
theorem Accepts.dispatches
    {pipeline : Pipeline σ} (shaped : pipeline.IsShaped)
    {operation : Occurrence} (accepts : pipeline.Accepts operation)
    (begins : operation.beginsAttempt = true) :
    ∃ base run token input events, pipeline.Dispatches
        (.occurrence operation) base run token input events ∧
      pipeline.occur operation =
        (base.dispatch run token input).afterEvents events := by
  obtain ⟨free, accepted⟩ := accepts
  have takes := takes_happen shaped (.occurrence operation)
  change pipeline.Takes _ (pipeline.occur operation) at takes
  generalize pipeline.occur operation = turn at takes accepted
  cases takes with
  | dispatch dispatches => exact ⟨_, _, _, _, _, dispatches, rfl⟩
  | refuse => exact absurd rfl (accepted _)
  | pass passes =>
      cases passes with
      | busy waiting => simp [free] at waiting
      | _ => cases begins
  | conclude concludes =>
      cases concludes with
      | cancel _ _ _ _ stops => cases stops <;> cases begins
      | _ => cases begins

/-- How the number of attempts moves at one moment: a start sets it to one, a
regeneration takes it to the next, and nothing else changes it. -/
structure CountsAttempts (pipeline : Pipeline σ) (limit : UInt32) : Prop where
  bounded : ∀ run, pipeline.run = some run →
    1 ≤ run.attempt.toNat ∧ run.attempt.toNat ≤ max 1 limit.toNat
  start : ∀ request registry,
    pipeline.Accepts (.start request registry) →
    ∃ run, (pipeline.occur (.start request registry)).pipeline.run = some run ∧
      run.attempt = 1
  regenerate : pipeline.Accepts .regenerate →
    ∃ before run, pipeline.run = some before ∧
      (pipeline.occur .regenerate).pipeline.run = some run ∧
      run.id = before.id ∧ run.attempt.toNat = before.attempt.toNat + 1
  otherwise : ∀ happening : Happening σ,
    (∀ operation, happening = .occurrence operation →
      operation.beginsAttempt = true → ¬pipeline.Accepts operation) →
    ∀ run, (pipeline.happen happening).pipeline.run = some run →
      ∃ before, pipeline.run = some before ∧ run.id = before.id ∧
        run.attempt = before.attempt

theorem countsAttempts_of_isShaped
    {pipeline : Pipeline σ} (shaped : pipeline.IsShaped) {limit : UInt32}
    (keeps : pipeline.KeepsTo limit) : pipeline.CountsAttempts limit := by
  constructor
  case bounded => exact keeps.bounded
  case start =>
    intro request registry accepts
    obtain ⟨base, run, _, input, _, dispatches, isTurn⟩ :=
      accepts.dispatches shaped rfl
    rw [isTurn]
    refine ⟨run.begun input.stage, rfl, ?_⟩
    cases dispatches
    rfl
  case regenerate =>
    intro accepts
    obtain ⟨base, run, _, input, _, dispatches, isTurn⟩ :=
      accepts.dispatches shaped rfl
    rw [isTurn]
    cases dispatches with
    | @regenerate before _ _ _ _ _ current _ _ _ _ _ _ _ left =>
        exact ⟨before, _, current, rfl, rfl, toNat_next_attempt left⟩
  case otherwise =>
    intro happening notAccepted run left
    have takes := takes_happen shaped happening
    generalize pipeline.happen happening = turn at takes left
    cases takes with
    | pass passes =>
        rcases passes.run with same | none
        · exact ⟨run, same.symm.trans left, rfl, rfl⟩
        · cases none.symm.trans left
    | refuse => exact ⟨run, left, rfl, rfl⟩
    | conclude concludes =>
        cases left
        exact concludes.same
    | dispatch dispatches =>
        cases left
        have begins : ∀ operation, happening = .occurrence operation →
            operation.beginsAttempt = true → False := by
          rintro operation rfl begins
          exact notAccepted operation rfl begins (dispatches.accepts shaped
            (Occurrence.isOperation_of_beginsAttempt begins))
        cases dispatches.numbers with
        | first => exact (begins _ rfl rfl).elim
        | next => exact (begins _ rfl rfl).elim
        | same current sameId sameAttempt =>
            exact ⟨_, current, sameId, sameAttempt⟩

/-! ## The calls of all runs -/

/-- The runs for which calls were dispatched, as they were then. -/
def runsOf (accounts : List Account) : List (Option Run) :=
  accounts.flatMap fun account => account.calls.map (·.run)

omit [KeyValueStore σ] in
theorem runsOf_answered (pipeline : Pipeline σ) (accounts : List Account)
    (happening : Happening σ) :
    runsOf (pipeline.answered accounts happening) = runsOf accounts := by
  unfold answered
  split
  next outcome milliseconds =>
    split
    · cases accounts with
      | nil => rfl
      | cons newest older =>
          have same := Account.map_answer SentCall.run (fun _ _ => rfl)
            newest outcome
          simp only [answerNewest, runsOf, List.flatMap_cons, same]
    · rfl
  next => rfl

theorem runsOf_opened {σ : Type} (turn : Turn σ) (accounts : List Account)
    (happening : Happening σ) :
    runsOf (turn.opened accounts happening) = runsOf accounts := by
  unfold Turn.opened
  split
  · split <;> rfl
  · rfl

/-- What is sent is sent for the run of the moment. -/
theorem mem_runsOf_foldl_sendNewest
    {requests : List StageRequest} {current : Option Run}
    {accounts : List Account} {run : Option Run}
    (isSent : run ∈ runsOf (requests.foldl (sendNewest current) accounts)) :
    run ∈ runsOf accounts ∨ run = current := by
  induction requests generalizing accounts with
  | nil => exact .inl isSent
  | cons request later ih =>
      rcases ih isSent with before | now
      · cases accounts with
        | nil => exact .inl before
        | cons newest older =>
            simp only [sendNewest, Account.send, runsOf, List.flatMap_cons,
              List.map_append, List.map_cons, List.map_nil, List.mem_append,
              List.mem_singleton] at before ⊢
            rcases before with (isNewest | now) | isOlder
            · exact .inl (.inl isNewest)
            · exact .inr now
            · exact .inl (.inr isOlder)
      · exact .inr now

omit [KeyValueStore σ] in
theorem mem_runsOf_observe
    {pipeline : Pipeline σ} {accounts : List Account}
    {happening : Happening σ} {turn : Turn σ} {run : Option Run}
    (isSent : run ∈ runsOf (pipeline.observe accounts happening turn)) :
    run ∈ runsOf accounts ∨ run = turn.pipeline.run := by
  rcases mem_runsOf_foldl_sendNewest isSent with before | now
  · rw [runsOf_opened, runsOf_answered] at before
    exact .inl before
  · exact .inr now

/-! ## The identifiers of runs -/

omit [KeyValueStore σ] in
/-- Only a start that dispatches a call opens an account. -/
theorem map_run_observe (pipeline : Pipeline σ) (accounts : List Account)
    (happening : Happening σ) (turn : Turn σ) :
    (pipeline.observe accounts happening turn).map (·.run) =
      (turn.opened accounts happening).map (·.run) := by
  have sent : ∀ (requests : List StageRequest) (accounts : List Account),
      (requests.foldl (sendNewest turn.pipeline.run) accounts).map (·.run) =
        accounts.map (·.run) := by
    intro requests
    induction requests with
    | nil =>
        intro accounts
        rfl
    | cons request later ih =>
        intro accounts
        refine (ih _).trans ?_
        cases accounts <;> rfl
  have answered : (pipeline.answered accounts happening).map (·.run) =
      accounts.map (·.run) := by
    unfold Pipeline.answered
    split
    · split
      · cases accounts <;> rfl
      · rfl
    · rfl
  rw [observe, sent]
  unfold Turn.opened
  split
  · split
    · exact answered
    · rw [List.map_cons, List.map_cons, answered]
  · exact answered

end Pipeline

/-- One identifier at most has been made from a supply. -/
structure Supply.Gives (before after : Supply) : Prop where
  seed : after.seed = before.seed
  made : before.made ≤ after.made ∧ after.made ≤ before.made + 1

/-- The identifiers of the accounts, newest first, come from a supply since a
moment and are older the further they stand behind. -/
structure AreSerial (first current : Supply) (runs : List (Option Uuid)) :
    Prop where
  seed : current.seed = first.seed
  since : first.made ≤ current.made
  serials : ∃ serials : List Nat,
    runs = serials.map (fun serial =>
      some (Uuid.ofRandomBits (first.seed + serial + 1))) ∧
    serials.Pairwise (· > ·) ∧
    ∀ serial ∈ serials, first.made ≤ serial ∧ serial < current.made

namespace AreSerial

variable {first current later : Supply} {runs : List (Option Uuid)}

theorem same (areSerial : AreSerial first current runs)
    (gives : current.Gives later) : AreSerial first later runs := by
  obtain ⟨serials, told, decreasing, within⟩ := areSerial.serials
  refine ⟨gives.seed.trans areSerial.seed,
    Nat.le_trans areSerial.since gives.made.1,
    serials, told, decreasing, ?_⟩
  intro serial isSerial
  obtain ⟨since, before⟩ := within serial isSerial
  exact ⟨since, Nat.lt_of_lt_of_le before gives.made.1⟩

theorem cons (areSerial : AreSerial first current runs) :
    AreSerial first current.nextId.2 (some current.nextId.1 :: runs) := by
  obtain ⟨serials, rfl, decreasing, within⟩ := areSerial.serials
  refine ⟨areSerial.seed, Nat.le_succ_of_le areSerial.since,
    current.made :: serials, ?_, ?_, ?_⟩
  · rw [List.map_cons, ← areSerial.seed]
    rfl
  · refine List.pairwise_cons.mpr ⟨?_, decreasing⟩
    intro serial isSerial
    exact (within serial isSerial).2
  · intro serial isSerial
    have made : current.nextId.2.made = current.made + 1 := rfl
    rw [made]
    rcases List.mem_cons.mp isSerial with rfl | isOlder
    · exact ⟨areSerial.since, Nat.lt_succ_self _⟩
    · obtain ⟨since, before⟩ := within serial isOlder
      exact ⟨since, Nat.lt_succ_of_lt before⟩

/-- No two are equal while fewer have been made than there are. -/
theorem nodup (areSerial : AreSerial first current runs)
    (enough : current.made ≤ first.made + 2 ^ 122) : runs.Nodup := by
  obtain ⟨serials, rfl, decreasing, within⟩ := areSerial.serials
  refine List.pairwise_map.mpr (decreasing.imp_of_mem ?_)
  intro newer older isNewer isOlder later same
  have bits := Uuid.mod_eq_of_ofRandomBits_eq (Option.some.inj same)
  have newerWithin := within newer isNewer
  have olderWithin := within older isOlder
  omega

end AreSerial

namespace Pipeline

variable {σ : Type} [KeyValueStore σ]

theorem Takes.gives
    {pipeline : Pipeline σ} {happening : Happening σ} {turn : Turn σ}
    (takes : pipeline.Takes happening turn) :
    pipeline.supply.Gives turn.pipeline.supply := by
  have nothing : pipeline.supply.Gives pipeline.supply :=
    ⟨rfl, Nat.le_refl _, Nat.le_succ _⟩
  have one : ∀ later : Supply, later.seed = pipeline.supply.seed →
      later.made = pipeline.supply.made + 1 →
      pipeline.supply.Gives later :=
    fun later seed made => ⟨seed, by omega⟩
  cases takes with
  | pass passes => cases passes <;> exact nothing
  | refuse => exact nothing
  | dispatch dispatches =>
      cases dispatches with
      | start => exact one _ rfl rfl
      | _ => exact nothing
  | conclude => exact one _ rfl rfl

theorem Takes.areSerial
    {pipeline : Pipeline σ} {happening : Happening σ} {turn : Turn σ}
    (takes : pipeline.Takes happening turn) {first : Supply}
    {accounts : List Account}
    (areSerial : AreSerial first pipeline.supply (accounts.map (·.run))) :
    AreSerial first turn.pipeline.supply
      ((pipeline.observe accounts happening turn).map (·.run)) := by
  rw [map_run_observe]
  have unopened : turn.opened accounts happening = accounts →
      AreSerial first turn.pipeline.supply
        ((turn.opened accounts happening).map (·.run)) := by
    intro same
    rw [same]
    exact areSerial.same takes.gives
  cases takes with
  | pass | refuse => exact unopened (opened_of_silent rfl _ _)
  | conclude => exact unopened (opened_of_silent (by simp) _ _)
  | dispatch dispatches =>
      cases dispatches with
      | start => exact areSerial.cons
      | continueRun | regenerate | reply => exact unopened rfl

/-! ## Every run -/

/-- What holds of a pipeline and of its accounts together. -/
structure IsCounted (pipeline : Pipeline σ) (first : Supply) (limit : UInt32)
    (accounts : List Account) : Prop where
  shaped : pipeline.IsShaped
  keeps : pipeline.KeepsTo limit
  within : ∀ run, some run ∈ runsOf accounts →
    run.attempt.toNat ≤ max 1 limit.toNat
  areSerial : AreSerial first pipeline.supply (accounts.map (·.run))

theorem IsCounted.step
    {pipeline : Pipeline σ} {first : Supply} {limit : UInt32}
    {accounts : List Account}
    (counted : pipeline.IsCounted first limit accounts)
    (happening : Happening σ) :
    (pipeline.happen happening).pipeline.IsCounted first limit
      (pipeline.observe accounts happening (pipeline.happen happening)) := by
  have takes := takes_happen counted.shaped happening
  have keeps := takes.keepsTo counted.keeps
  refine ⟨takes.isShaped counted.shaped, keeps, ?_,
    takes.areSerial counted.areSerial⟩
  intro run isSent
  rcases mem_runsOf_observe isSent with before | now
  · exact counted.within run before
  · exact (keeps.bounded run now.symm).2

theorem IsCounted.through
    {pipeline : Pipeline σ} {first : Supply} {limit : UInt32}
    {accounts : List Account}
    (counted : pipeline.IsCounted first limit accounts)
    (happenings : List (Happening σ)) :
    (pipeline.through happenings).IsCounted first limit
      (pipeline.accountsThrough accounts happenings) := by
  induction happenings generalizing pipeline accounts with
  | nil => exact counted
  | cons happening later ih => exact ih (counted.step happening)

theorem made_through
    {pipeline : Pipeline σ} (shaped : pipeline.IsShaped)
    (happenings : List (Happening σ)) :
    (pipeline.through happenings).supply.made ≤
      pipeline.supply.made + happenings.length := by
  induction happenings generalizing pipeline with
  | nil => exact Nat.le_refl _
  | cons happening later ih =>
      have takes := takes_happen shaped happening
      have next := takes.gives.made
      have rest := ih (takes.isShaped shaped)
      rw [through_cons, List.length_cons]
      omega

/-- Whatever has happened to a pipeline, the attempts of its runs have been
counted.  Every call is in the account of its run, and until 2^122 things have
happened the identifiers of the runs are different. -/
theorem attempts_through (history : History σ) (supply : Supply)
    (maxAttempts : UInt32) (happenings : List (Happening σ)) :
    ((new history supply maxAttempts).through happenings).CountsAttempts
      maxAttempts ∧
    (∀ account ∈
        (new history supply maxAttempts).accountsThrough [] happenings,
      ∃ count, account.IsNumbered (max 1 maxAttempts.toNat) count) ∧
    requestsOf ((new history supply maxAttempts).accountsThrough []
        happenings) =
      (new history supply maxAttempts).requestsThrough happenings ∧
    (happenings.length < 2 ^ 122 →
      (((new history supply maxAttempts).accountsThrough []
        happenings).map (·.run)).Nodup) := by
  have shaped := new_isShaped history supply maxAttempts
  have counted : (new history supply maxAttempts).IsCounted supply maxAttempts
      [] := by
    refine ⟨shaped, ⟨rfl, by simp [new]⟩, by simp [runsOf], rfl, Nat.le_refl _,
      [], rfl, .nil, by simp⟩
  have now := counted.through happenings
  obtain ⟨flows, requests⟩ := flows_accountsThrough shaped
    (show (new history supply maxAttempts).IsAccounted [] from
      ⟨by simp, by rintro _ ⟨⟩⟩) happenings
  refine ⟨countsAttempts_of_isShaped now.shaped now.keeps, ?_, requests, ?_⟩
  · intro account isAccount
    refine (flows account isAccount).isNumbered (Nat.le_max_left 1 _) ?_
    intro sent isSent run isRun
    refine now.within run (List.mem_flatMap.mpr ⟨account, isAccount, ?_⟩)
    exact List.mem_map.mpr ⟨sent, isSent, isRun⟩
  · intro few
    refine now.areSerial.nodup ?_
    have made : _ ≤ supply.made + _ := made_through shaped happenings
    omega

/-- Behind a failed check a run is regenerated, and its second generate call
carries the next number. -/
theorem attempts_failedCheck :
    (inMemory.through failedCheck).Accepts .regenerate ∧
      (inMemory.through failedCheck).CountsAttempts 3 ∧
      (inMemory.accountsThrough []
        (failedCheck ++ [.occurrence .regenerate])).map (·.attempts) =
          [[1, 2]] := by
  refine ⟨⟨rfl, ?_⟩, ?_, rfl⟩
  · intro error refused
    cases congrArg Turn.result refused
  · exact (attempts_through ⟨MemoryStore.empty, 10, []⟩ ⟨0, 0, ⟨0, 0⟩⟩ 3
      failedCheck).1

end Pipeline

end AgentPipeline
