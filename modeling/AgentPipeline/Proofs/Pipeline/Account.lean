import AgentPipeline.Proofs.Pipeline.Turn

/-!
# The account of a run

An observer keeps, for every run, the calls that were dispatched for it in
their order and the answers of the service.  From the answers alone the
account tells what each call must carry.
-/

namespace AgentPipeline

/-- The place of a stage among the calls of a run, in a given attempt. -/
def Stage.position (attempt : Nat) : Stage → Nat
  | .parse => 0
  | .reason => 1
  | .generate => 2 * attempt
  | .validate => 2 * attempt + 1

/-- The stage of the call at a place: parse, reason, and then generate and
validate by turns. -/
def Stage.atPosition : Nat → Stage
  | 0 => .parse
  | 1 => .reason
  | later => if later % 2 = 0 then .generate else .validate

/-- A call of a run, with the run as it was dispatched, and the answer of the
service when it has come. -/
structure SentCall where
  run : Option Run
  request : StageRequest
  answer : Option (Except ServiceError Json)

/-- What an observer has seen of a run. -/
structure Account where
  run : Option Uuid
  request : RunRequest
  registry : ModelRegistry
  calls : List SentCall

namespace Account

/-- A call is dispatched for the run. -/
def send (account : Account) (run : Option Run) (request : StageRequest) :
    Account :=
  { account with
    calls := account.calls ++ [⟨run, request, none⟩] }

/-- The call that was dispatched last is answered. -/
def answer (account : Account) (outcome : Except ServiceError Json) :
    Account :=
  { account with
    calls := account.calls.modify (account.calls.length - 1)
      fun sent => { sent with answer := some outcome } }

/-- What the service returned for the call at a place. -/
def returned? (account : Account) (position : Nat) : Option Json :=
  account.calls[position]?.bind fun sent =>
    sent.answer.bind Except.toOption

def output? (account : Account) (attempt : UInt32) (stage : Stage) :
    Option Json :=
  account.returned? (stage.position attempt.toNat)

/-- What a stage is to be asked in an attempt. -/
def input? (account : Account) (attempt : UInt32) : Stage → Option StageInput
  | .parse => some (.parse account.request.inputText)
  | .reason => do
      let parsed ← account.output? attempt .parse
      some (.reason parsed account.request.inputText)
  | .generate => do
      let parsed ← account.output? attempt .parse
      let reasoning ← account.output? attempt .reason
      if attempt = 1 then
        some (.generate parsed reasoning account.request.inputText 1 none none)
      else
        let previous ← account.output? (attempt - 1) .generate
        let verdict ← account.output? (attempt - 1) .validate
        some (.generate parsed reasoning account.request.inputText attempt
          (some previous) (some (ValidationSummary.ofOutput verdict).errors))
  | .validate => do
      let generated ← account.output? attempt .generate
      some (.validate generated)

/-- The run is the one of the account, with the models that the registry had
for it when it was started. -/
structure Concerns (account : Account) (run : Run) : Prop where
  id : account.run = some run.id
  text : run.inputText = account.request.inputText
  temperature : run.temperature = account.request.temperature
  models : ∀ stage, run.models.get stage = some
    ((account.registry.resolveFor stage.agent account.request.selections).map
      (·.model))

/-- The call at a place carries what it must, and comes when all calls before
it have been answered with an output. -/
structure Sends (account : Account) (position : Nat) (run : Run)
    (request : StageRequest) : Prop where
  concerns : account.Concerns run
  stage : request.stage = .atPosition position
  attempt : run.attempt.toNat = max 1 (position / 2)
  succeeded : ∀ earlier < position, (account.returned? earlier).isSome
  input : account.input? run.attempt request.stage = some request.input
  temperature : request.temperature = run.temperature
  model : run.models.get request.stage = some (request.model.map (·.model))
  connection : ∀ config, request.model = some config →
    config.connection =
      (account.registry.find? config.model).map (·.connection)

/-- Every call of the run carries what it must. -/
def Flows (account : Account) : Prop :=
  ∀ position sent, account.calls[position]? = some sent →
    ∃ run, sent.run = some run ∧
      account.Sends position run sent.request

end Account

/-! ## Places -/

namespace Stage

theorem atPosition_position {attempt : Nat} (isAttempt : 1 ≤ attempt)
    (stage : Stage) : atPosition (stage.position attempt) = stage := by
  cases stage with
  | parse | reason => rfl
  | generate | validate =>
      obtain ⟨earlier, rfl⟩ : ∃ earlier, attempt = earlier + 1 :=
        ⟨attempt - 1, by omega⟩
      simp only [position, atPosition, Nat.mul_add]
      grind

theorem position_div_two {attempt : Nat} (isAttempt : 1 ≤ attempt)
    {stage : Stage} (first : stage.index < 2 → attempt = 1) :
    max 1 (stage.position attempt / 2) = attempt := by
  cases stage with
  | parse | reason =>
      rw [first (by decide)]
      rfl
  | generate | validate =>
      simp only [position]
      omega

theorem position_atPosition (place : Nat) :
    (atPosition place).position (max 1 (place / 2)) = place := by
  match place with
  | 0 | 1 => rfl
  | later + 2 =>
      simp only [atPosition]
      split
      · simp only [position]
        omega
      · simp only [position]
        omega

theorem position_lt_position {attempt : Nat} (isAttempt : 1 ≤ attempt)
    {earlier later : Stage} (before : earlier.index < later.index) :
    earlier.position attempt < later.position attempt := by
  cases earlier <;> cases later <;> simp [index] at before <;>
    simp only [position] <;> omega

end Stage

namespace Account

/-! ## Calls and answers -/

@[simp]
theorem length_answer (account : Account)
    (outcome : Except ServiceError Json) :
    (account.answer outcome).calls.length = account.calls.length := by
  simp [answer]

/-- Beside the answer itself an answer leaves the calls as they are. -/
theorem map_answer {β : Type} (read : SentCall → β)
    (same : ∀ (sent : SentCall) answer, read { sent with answer } = read sent)
    (account : Account) (outcome : Except ServiceError Json) :
    (account.answer outcome).calls.map read = account.calls.map read := by
  apply List.ext_getElem?
  intro position
  simp only [answer, List.getElem?_map, List.getElem?_modify]
  cases account.calls[position]? with
  | none => rfl
  | some sent =>
      simp only [Option.map_some]
      split
      · exact congrArg some (same sent _)
      · rfl

theorem requests_answer (account : Account)
    (outcome : Except ServiceError Json) :
    (account.answer outcome).calls.map (·.request) =
      account.calls.map (·.request) :=
  map_answer _ (fun _ _ => rfl) account outcome

theorem lt_of_returned?
    {account : Account} {position : Nat} {output : Json}
    (returned : account.returned? position = some output) :
    position < account.calls.length := by
  obtain ⟨sent, found, _⟩ := Option.bind_eq_some_iff.mp returned
  exact (List.getElem?_eq_some_iff.mp found).1

theorem returned?_send_of_lt
    {account : Account} {position : Nat}
    (isEarlier : position < account.calls.length) (run : Option Run)
    (request : StageRequest) :
    (account.send run request).returned? position =
      account.returned? position := by
  simp only [returned?, send]
  rw [List.getElem?_append_left isEarlier]

theorem returned?_answer_of_lt
    {account : Account} {position : Nat}
    (isEarlier : position + 1 < account.calls.length)
    (outcome : Except ServiceError Json) :
    (account.answer outcome).returned? position =
      account.returned? position := by
  have notLast : ¬account.calls.length - 1 = position := by omega
  simp [returned?, answer, notLast]

theorem returned?_answer_last
    {account : Account} {position : Nat}
    (isLast : account.calls.length = position + 1) (output : Json) :
    (account.answer (.ok output)).returned? position = some output := by
  simp [returned?, answer, isLast, Except.toOption]

/-- The input of a stage depends on what was returned before. -/
theorem input?_eq_of_same
    {left right : Account} (sameRequest : left.request = right.request)
    {attempt : UInt32} (isAttempt : 1 ≤ attempt.toNat) {stage : Stage}
    (same : ∀ earlier < stage.position attempt.toNat,
      left.returned? earlier = right.returned? earlier) :
    left.input? attempt stage = right.input? attempt stage := by
  have sameOutput : ∀ earlier : Stage, earlier.index < stage.index →
      left.output? attempt earlier = right.output? attempt earlier :=
    fun earlier before =>
      same _ (Stage.position_lt_position isAttempt before)
  cases stage with
  | parse => simp only [input?, sameRequest]
  | reason =>
      have parse := sameOutput .parse (by decide)
      simp only [input?, sameRequest, parse]
  | validate =>
      have generate := sameOutput .generate (by decide)
      simp only [input?, generate]
  | generate =>
      have parse := sameOutput .parse (by decide)
      have reason := sameOutput .reason (by decide)
      simp only [input?, sameRequest, parse, reason]
      by_cases isFirst : attempt = 1
      · simp only [isFirst, if_true]
      · have before : (attempt - 1).toNat + 1 = attempt.toNat := by
          have oneLe : (1 : UInt32) ≤ attempt :=
            UInt32.le_iff_toNat_le.mpr isAttempt
          rw [UInt32.toNat_sub_of_le _ _ oneLe]
          exact Nat.sub_add_cancel isAttempt
        have generate : left.output? (attempt - 1) .generate =
            right.output? (attempt - 1) .generate :=
          same _ (by simp only [Stage.position]; omega)
        have validate : left.output? (attempt - 1) .validate =
            right.output? (attempt - 1) .validate :=
          same _ (by simp only [Stage.position]; omega)
        simp only [isFirst, if_false, generate, validate]

theorem input?_reason
    {account : Account} {attempt : UInt32} {parsed : Json}
    (parse : account.output? attempt .parse = some parsed) :
    account.input? attempt .reason =
      some (.reason parsed account.request.inputText) := by
  simp [input?, parse]

theorem input?_validate
    {account : Account} {attempt : UInt32} {generated : Json}
    (generate : account.output? attempt .generate = some generated) :
    account.input? attempt .validate = some (.validate generated) := by
  simp [input?, generate]

theorem input?_generate_first
    {account : Account} {attempt : UInt32} (isFirst : attempt = 1)
    {parsed reasoning : Json}
    (parse : account.output? attempt .parse = some parsed)
    (reason : account.output? attempt .reason = some reasoning) :
    account.input? attempt .generate =
      some (.generate parsed reasoning account.request.inputText attempt none
        none) := by
  subst isFirst
  simp [input?, parse, reason]

theorem input?_generate_further
    {account : Account} {attempt : UInt32} (isLater : attempt ≠ 1)
    {parsed reasoning previous verdict : Json}
    (parse : account.output? attempt .parse = some parsed)
    (reason : account.output? attempt .reason = some reasoning)
    (generate : account.output? (attempt - 1) .generate = some previous)
    (validate : account.output? (attempt - 1) .validate = some verdict) :
    account.input? attempt .generate =
      some (.generate parsed reasoning account.request.inputText attempt
        (some previous)
        (some (ValidationSummary.ofOutput verdict).errors)) := by
  simp [input?, parse, reason, generate, validate, isLater]

/-- A run stays the one of an account while what it was started with stays. -/
theorem Concerns.of_same
    {left right : Account} {run later : Run} (concerns : left.Concerns run)
    (sameAccount : (right.run, right.request, right.registry) =
      (left.run, left.request, left.registry))
    (sameRun : (later.id, later.inputText, later.temperature, later.models) =
      (run.id, run.inputText, run.temperature, run.models)) :
    right.Concerns later := by
  simp only [Prod.mk.injEq] at sameAccount sameRun
  obtain ⟨sameNumber, sameRequest, sameRegistry⟩ := sameAccount
  obtain ⟨sameId, sameText, sameTemperature, sameModels⟩ := sameRun
  constructor
  · rw [sameNumber, sameId]
    exact concerns.id
  · rw [sameText, sameRequest]
    exact concerns.text
  · rw [sameTemperature, sameRequest]
    exact concerns.temperature
  · rw [sameModels, sameRequest, sameRegistry]
    exact concerns.models

/-- What a call must carry is not changed by what comes later. -/
theorem Sends.of_same
    {left right : Account} {position : Nat} {run : Run}
    {request : StageRequest} (sends : left.Sends position run request)
    (sameRun : right.run = left.run)
    (sameRequest : right.request = left.request)
    (sameRegistry : right.registry = left.registry)
    (same : ∀ earlier < position,
      right.returned? earlier = left.returned? earlier) :
    right.Sends position run request := by
  have atPlace : request.stage.position run.attempt.toNat = position := by
    rw [sends.stage, sends.attempt, Stage.position_atPosition]
  constructor
  · apply sends.concerns.of_same _ rfl
    rw [sameRun, sameRequest, sameRegistry]
  · exact sends.stage
  · exact sends.attempt
  · intro earlier isEarlier
    rw [same earlier isEarlier]
    exact sends.succeeded earlier isEarlier
  · rw [← sends.input]
    apply input?_eq_of_same sameRequest
    · rw [sends.attempt]
      exact Nat.le_max_left _ _
    · rw [atPlace]
      exact same
  · exact sends.temperature
  · exact sends.model
  · rw [sameRegistry]
    exact sends.connection

theorem flows_send
    {account : Account} (flows : account.Flows) {run : Run}
    {request : StageRequest}
    (sends : account.Sends account.calls.length run request) :
    (account.send (some run) request).Flows := by
  intro position sent found
  have same : ∀ earlier < account.calls.length,
      (account.send (some run) request).returned? earlier =
        account.returned? earlier :=
    fun earlier isEarlier => returned?_send_of_lt isEarlier _ _
  by_cases isEarlier : position < account.calls.length
  · rw [send, List.getElem?_append_left isEarlier] at found
    obtain ⟨sender, isRun, earlierSends⟩ := flows position sent found
    exact ⟨sender, isRun, earlierSends.of_same rfl rfl rfl
      fun earlier before => same earlier (Nat.lt_trans before isEarlier)⟩
  · rw [send, List.getElem?_append_right (Nat.le_of_not_lt isEarlier)] at found
    obtain ⟨atEnd, rfl⟩ : position - account.calls.length = 0 ∧
        ⟨some run, request, none⟩ = sent := by
      simpa [List.getElem?_cons, List.getElem?_nil] using found
    obtain rfl : position = account.calls.length := by omega
    exact ⟨run, rfl, sends.of_same rfl rfl rfl same⟩

theorem flows_answer
    {account : Account} (flows : account.Flows)
    (outcome : Except ServiceError Json) : (account.answer outcome).Flows := by
  intro position sent found
  obtain ⟨asked, isAsked, sameRun, sameRequest⟩ :
      ∃ asked, account.calls[position]? = some asked ∧
        sent.run = asked.run ∧ sent.request = asked.request := by
    simp only [answer, List.getElem?_modify] at found
    obtain ⟨asked, isAsked, rfl⟩ := Option.map_eq_some_iff.mp found
    refine ⟨asked, isAsked, ?_⟩
    split <;> exact ⟨rfl, rfl⟩
  have present : position < account.calls.length :=
    (List.getElem?_eq_some_iff.mp isAsked).1
  obtain ⟨sender, isRun, sends⟩ := flows position asked isAsked
  refine ⟨sender, sameRun.trans isRun, ?_⟩
  rw [sameRequest]
  exact sends.of_same rfl rfl rfl fun earlier before =>
    returned?_answer_of_lt (by omega) outcome

end Account

end AgentPipeline
