import AgentPipeline.Proofs.History.Reopen
import AgentPipeline.Proofs.Pipeline.Dispatch

/-!
# Snapshots

The turn in which an operation ends puts a snapshot of the run that it leaves
at the head of the history and tells of it; no other turn touches the history.
So the history holds the newest of these snapshots and of the items that it
was loaded with, whether or not it can be stored.
Main statement: `snapshots_through`.
-/

namespace AgentPipeline

/-- An operation ends by returning a run or with the failure of a stage; one
that is refused has not begun. -/
def Turn.isEnd {σ : Type} (turn : Turn σ) : Bool :=
  match turn.result with
  | some (.ok _) | some (.error (.stage ..)) => true
  | _ => false

/-- The run that an operation leaves when it ends in the turn. -/
def Turn.left? {σ : Type} (turn : Turn σ) : Option Run :=
  if turn.isEnd then turn.pipeline.run else none

/-- The answer to a call arrives. -/
def Happening.isReply {σ : Type} : Happening σ → Bool
  | .occurrence (.reply ..) => true
  | _ => false

/-- The operations that drive a run. -/
def Occurrence.isDrive : Occurrence → Bool
  | .start .. | .continueRun | .regenerate => true
  | _ => false

/-- The turn ends an operation, and the snapshot of the run that it leaves is
all that is new in the history. -/
structure Turn.Records {σ : Type} (turn : Turn σ) (before : History σ)
    (item : HistoryItem) : Prop where
  isEnd : turn.isEnd = true
  returned : turn.pipeline.awaited = none
  current : turn.pipeline.run = some item.run
  rests : item.run.Rests
  result : ∀ run, turn.result = some (.ok run) → run = item.run
  capacity : turn.pipeline.history.capacity = before.capacity
  items : turn.pipeline.history.items =
    (item :: before.items).take before.capacity
  recorded : turn.recorded = [(item.id, item.run.status)]

/-- The turn ends no operation and leaves the history as it is. -/
structure Turn.Keeps {σ : Type} (turn : Turn σ) (before : History σ) :
    Prop where
  notEnd : turn.isEnd = false
  history : turn.pipeline.history = before
  recorded : turn.recorded = []

theorem Turn.Records.left?_eq
    {σ : Type} {turn : Turn σ} {before : History σ} {item : HistoryItem}
    (records : turn.Records before item) : turn.left? = some item.run := by
  rw [Turn.left?, records.isEnd, records.current]
  rfl

theorem Turn.Keeps.left?_eq
    {σ : Type} {turn : Turn σ} {before : History σ}
    (keeps : turn.Keeps before) : turn.left? = none := by
  rw [Turn.left?, keeps.notEnd]
  rfl

theorem Turn.recorded_afterEvents
    {σ : Type} {events : List Event}
    (silent : events.filterMap Event.snapshot? = []) (turn : Turn σ) :
    (turn.afterEvents events).recorded = turn.recorded := by
  rw [Turn.recorded, Turn.events_afterEvents, List.filterMap_append, silent]
  rfl

theorem Run.Rests.status_ne_running {run : Run} (rests : run.Rests) :
    run.status ≠ .running := by
  intro running
  cases rests <;> simp_all

namespace Pipeline

variable {σ : Type} [KeyValueStore σ]

/-! ## One turn -/

omit [KeyValueStore σ] in
theorem Dispatches.silent
    {pipeline base : Pipeline σ} {happening : Happening σ} {run : Run}
    {token : TokenId} {input : StageInput} {events : List Event}
    (dispatches : pipeline.Dispatches happening base run token input
      events) : events.filterMap Event.snapshot? = [] := by
  cases dispatches <;> rfl

omit [KeyValueStore σ] in
theorem Dispatches.history
    {pipeline base : Pipeline σ} {happening : Happening σ} {run : Run}
    {token : TokenId} {input : StageInput} {events : List Event}
    (dispatches : pipeline.Dispatches happening base run token input
      events) : base.history = pipeline.history := by
  cases dispatches <;> rfl

omit [KeyValueStore σ] in
theorem Concludes.silent
    {pipeline : Pipeline σ} {happening : Happening σ} {tokens : CancelGroup}
    {run : Run} {events : List Event} {result : Except PipelineError Run}
    (concludes : pipeline.Concludes happening tokens run events result) :
    events.filterMap Event.snapshot? = [] := by
  cases concludes with
  | cancel => simp [Run.cancel, Run.cancelOpenStages, Event.snapshot?]
  | fail | pause | complete => rfl

omit [KeyValueStore σ] in
/-- The result is the run that is left, or the failure of a stage. -/
theorem Concludes.result_eq
    {pipeline : Pipeline σ} {happening : Happening σ} {tokens : CancelGroup}
    {run : Run} {events : List Event} {result : Except PipelineError Run}
    (concludes : pipeline.Concludes happening tokens run events result) :
    result = .ok run ∨ ∃ stage message, result = .error (.stage stage message)
    := by
  cases concludes with
  | cancel | pause | complete => exact .inl rfl
  | fail _ _ _ _ isFailure => exact .inr ⟨_, _, congrArg _ isFailure⟩

theorem Concludes.records
    {pipeline : Pipeline σ} {happening : Happening σ} {tokens : CancelGroup}
    {run : Run} {events : List Event} {result : Except PipelineError Run}
    (concludes : pipeline.Concludes happening tokens run events result) :
    ∃ item, (((pipeline.withTokens tokens).conclude run result).afterEvents
      events).Records pipeline.history item := by
  have results := concludes.result_eq
  refine ⟨⟨_, _, run⟩, ?_, rfl, rfl, concludes.rests, ?_, rfl, rfl, ?_⟩
  · rcases results with rfl | ⟨stage, message, rfl⟩ <;> rfl
  · rintro returned isResult
    rcases results with rfl | ⟨stage, message, rfl⟩
    · cases isResult
      rfl
    · cases isResult
  · rw [Turn.recorded_afterEvents concludes.silent]
    rfl

/-- A turn ends an operation and records its run, or it keeps the history,
which only the owner exchanges. -/
theorem Takes.records_or_keeps
    {pipeline : Pipeline σ} {happening : Happening σ} {turn : Turn σ}
    (takes : pipeline.Takes happening turn)
    (sameHistory : ∀ history, happening ≠ .exchangeHistory history) :
    (∃ item, turn.Records pipeline.history item) ∨
      turn.Keeps pipeline.history ∧
        (turn.result = none ∨ ∃ error, turn = pipeline.refuse error) := by
  cases takes with
  | conclude concludes => exact .inl concludes.records
  | dispatch dispatches =>
      refine .inr ⟨⟨rfl, dispatches.history, ?_⟩, .inl rfl⟩
      rw [Turn.recorded_afterEvents dispatches.silent]
      rfl
  | refuse _ refuses =>
      refine .inr ⟨⟨?_, rfl, rfl⟩, .inr ⟨_, rfl⟩⟩
      cases refuses <;> rfl
  | pass passes =>
      refine .inr ⟨⟨rfl, ?_, rfl⟩, .inl rfl⟩
      cases passes with
      | exchangeHistory history => exact absurd rfl (sameHistory history)
      | _ => rfl

/-! ## All turns -/

/-- The runs that operations leave when they end, in order. -/
def leftThrough (pipeline : Pipeline σ)
    (happenings : List (Happening σ)) : List Run :=
  (pipeline.turnsThrough happenings).filterMap Turn.left?

/-- The snapshots that events tell of, in order. -/
def recordedThrough (pipeline : Pipeline σ)
    (happenings : List (Happening σ)) : List (Uuid × RunStatus) :=
  (pipeline.turnsThrough happenings).flatMap Turn.recorded

@[simp]
theorem recordedThrough_cons (pipeline : Pipeline σ)
    (happening : Happening σ) (later : List (Happening σ)) :
    pipeline.recordedThrough (happening :: later) =
      (pipeline.happen happening).recorded ++
        (pipeline.happen happening).pipeline.recordedThrough later := by
  simp [recordedThrough, turnsThrough]

theorem leftThrough_cons (pipeline : Pipeline σ)
    (happening : Happening σ) (later : List (Happening σ)) :
    pipeline.leftThrough (happening :: later) =
      (pipeline.happen happening).left?.toList ++
        (pipeline.happen happening).pipeline.leftThrough later := by
  rw [leftThrough, turnsThrough, List.filterMap_cons]
  cases (pipeline.happen happening).left? <;> rfl

/-- Snapshots of the runs that were left, newest first, stand before the items
that were there; so far as the capacity allows they are the history. -/
structure Piles (pipeline : Pipeline σ) (happenings : List (Happening σ))
    (capacity : Nat) (before snapshots : List HistoryItem) : Prop where
  runs : snapshots.reverse.map (·.run) = pipeline.leftThrough happenings
  recorded : snapshots.reverse.map (fun item => (item.id, item.run.status)) =
    pipeline.recordedThrough happenings
  rest : ∀ item ∈ snapshots, item.run.status ≠ .running
  sameCapacity : (pipeline.through happenings).history.capacity = capacity
  items : (pipeline.through happenings).history.items =
    (snapshots ++ before).take capacity

theorem take_append_take {α : Type} (front back : List α) (count : Nat) :
    (front ++ back.take count).take count = (front ++ back).take count := by
  rw [List.take_append, List.take_append, List.take_take]
  congr 2
  omega

/-- A snapshot lies below those that are taken later. -/
theorem Piles.cons
    {pipeline : Pipeline σ} {happening : Happening σ}
    {later : List (Happening σ)} {capacity : Nat}
    {before snapshots : List HistoryItem} {item : HistoryItem}
    (records : (pipeline.happen happening).Records pipeline.history item)
    (piles : Piles (pipeline.happen happening).pipeline later capacity
      ((item :: before).take capacity) snapshots) :
    Piles pipeline (happening :: later) capacity before
      (snapshots ++ [item]) := by
  constructor
  · rw [leftThrough_cons, records.left?_eq, ← piles.runs]
    simp
  · rw [recordedThrough_cons, records.recorded, ← piles.recorded]
    simp
  · intro other isSnapshot
    rcases List.mem_append.mp isSnapshot with isLater | isFirst
    · exact piles.rest other isLater
    · obtain rfl := List.mem_singleton.mp isFirst
      exact records.rests.status_ne_running
  · exact piles.sameCapacity
  · rw [through_cons, piles.items, take_append_take]
    simp

theorem Piles.cons_of_keeps
    {pipeline : Pipeline σ} {happening : Happening σ}
    {later : List (Happening σ)} {capacity : Nat}
    {before snapshots : List HistoryItem}
    (keeps : (pipeline.happen happening).Keeps pipeline.history)
    (piles : Piles (pipeline.happen happening).pipeline later capacity before
      snapshots) :
    Piles pipeline (happening :: later) capacity before snapshots := by
  refine ⟨?_, ?_, piles.rest, piles.sameCapacity, piles.items⟩
  · rw [leftThrough_cons, keeps.left?_eq]
    exact piles.runs
  · rw [recordedThrough_cons, keeps.recorded]
    exact piles.recorded

/-- While the owner does not exchange it, the history is a pile of
snapshots. -/
theorem exists_piles
    {pipeline : Pipeline σ} (shaped : pipeline.IsShaped)
    (fits : pipeline.history.items.length ≤ pipeline.history.capacity)
    {happenings : List (Happening σ)}
    (sameHistory : ∀ history, .exchangeHistory history ∉ happenings) :
    ∃ snapshots, Piles pipeline happenings pipeline.history.capacity
      pipeline.history.items snapshots := by
  -- The history has to fit in every step, or else the last of it would be cut
  -- off even where nothing is recorded.
  induction happenings generalizing pipeline with
  | nil =>
      refine ⟨[], rfl, rfl, by simp, rfl, ?_⟩
      exact (List.take_of_length_le fits).symm
  | cons happening later ih =>
      have takes := takes_happen shaped happening
      have nextShaped := takes.isShaped shaped
      have laterSame : ∀ history, .exchangeHistory history ∉ later := by
        intro history isLater
        exact sameHistory history (List.mem_cons_of_mem _ isLater)
      have notExchanged : ∀ history, happening ≠ .exchangeHistory history := by
        intro history same
        exact sameHistory history (by simp [same])
      rcases takes.records_or_keeps notExchanged with
        ⟨item, records⟩ | ⟨keeps, _⟩
      · have nextFits :
            (pipeline.happen happening).pipeline.history.items.length ≤
              (pipeline.happen happening).pipeline.history.capacity := by
          rw [records.items, records.capacity]
          exact List.length_take_le _ _
        obtain ⟨snapshots, piles⟩ := ih nextShaped nextFits laterSame
        rw [records.items, records.capacity] at piles
        exact ⟨snapshots ++ [item], piles.cons records⟩
      · obtain ⟨snapshots, piles⟩ :=
          ih nextShaped (by rw [keeps.history]; exact fits) laterSame
        rw [keeps.history] at piles
        exact ⟨snapshots, piles.cons_of_keeps keeps⟩

/-! ## One call -/

/-- Nothing is recorded and the history stays as it is. -/
def RecordsNothing (pipeline : Pipeline σ)
    (happenings : List (Happening σ)) : Prop :=
  (pipeline.through happenings).history = pipeline.history ∧
    pipeline.recordedThrough happenings = []

/-- When an operation has returned, one snapshot has been recorded, of the run
that it has left. -/
def RecordsOnReturn (pipeline : Pipeline σ)
    (happenings : List (Happening σ)) : Prop :=
  ∀ turn ∈ pipeline.turnsThrough happenings, turn.result.isSome →
    ∃ item : HistoryItem, turn.pipeline.run = some item.run ∧
      item.run.status ≠ .running ∧
      (∀ run, turn.result = some (.ok run) → run = item.run) ∧
      turn.pipeline.history.items =
        (item :: pipeline.history.items).take pipeline.history.capacity ∧
      (pipeline.through happenings).history = turn.pipeline.history ∧
      pipeline.recordedThrough happenings = [(item.id, item.run.status)]

/-- Where no operation waits, nobody returns meanwhile. -/
theorem Takes.passes_of_free
    {pipeline : Pipeline σ} {happening : Happening σ} {turn : Turn σ}
    (takes : pipeline.Takes happening turn)
    (meanwhile : happening.isMeanwhile = true)
    (free : pipeline.awaited = none) :
    ∃ next, pipeline.Passes happening next ∧ turn = next.idle := by
  cases takes with
  | pass passes => exact ⟨_, passes, rfl⟩
  | refuse _ refuses =>
      simp [Happening.isMeanwhile, refuses.isOperation] at meanwhile
  | @dispatch _ base run token input events dispatches =>
      have later :=
        dispatches.stage_of_meanwhile meanwhile (waitsFrom_of_free free 4)
      exact absurd input.stage.index_lt (Nat.lt_asymm later)
  | conclude concludes =>
      cases concludes with
      | cancel _ _ _ _ stops =>
          cases stops with
          | cancelWith | pending | continueRun => cases meanwhile
          | notice waiting | reply waiting => simp [free] at waiting
      | fail waiting | pause waiting | complete waiting =>
          simp [free] at waiting

theorem recordsNothing_of_free
    {pipeline : Pipeline σ} (shaped : pipeline.IsShaped)
    (free : pipeline.awaited = none) {later : List (Happening σ)}
    (meanwhile : ∀ happening ∈ later, happening.isMeanwhile = true) :
    pipeline.RecordsNothing later ∧
      ∀ turn ∈ pipeline.turnsThrough later, turn.result = none := by
  induction later generalizing pipeline with
  | nil => exact ⟨⟨rfl, rfl⟩, by simp [turnsThrough]⟩
  | cons happening later ih =>
      rw [List.forall_mem_cons] at meanwhile
      have takes := takes_happen shaped happening
      have nextShaped := takes.isShaped shaped
      obtain ⟨next, passes, isIdle⟩ := takes.passes_of_free meanwhile.1 free
      have sameHistory : next.history = pipeline.history := by
        cases passes with
        | exchangeHistory => cases meanwhile.1
        | _ => rfl
      rw [isIdle] at nextShaped
      obtain ⟨⟨history, recorded⟩, silent⟩ :=
        ih nextShaped (passes.free free) meanwhile.2
      refine ⟨⟨?_, ?_⟩, ?_⟩
      · rw [through_cons, isIdle]
        exact history.trans sameHistory
      · rw [recordedThrough_cons, isIdle]
        exact recorded
      · simp only [turnsThrough, List.forall_mem_cons, isIdle]
        exact ⟨rfl, silent⟩

/-- Behind a turn that records nothing and after which nobody waits nothing is
recorded either. -/
theorem recordsNothing_cons
    {pipeline : Pipeline σ} (shaped : pipeline.IsShaped)
    {happening : Happening σ} {later : List (Happening σ)}
    (sameHistory :
      (pipeline.happen happening).pipeline.history = pipeline.history)
    (silent : (pipeline.happen happening).recorded = [])
    (free : (pipeline.happen happening).pipeline.awaited = none)
    (meanwhile : ∀ happening ∈ later, happening.isMeanwhile = true) :
    pipeline.RecordsNothing (happening :: later) := by
  have nextShaped := (takes_happen shaped happening).isShaped shaped
  obtain ⟨⟨history, recorded⟩, _⟩ :=
    recordsNothing_of_free nextShaped free meanwhile
  constructor
  · rw [through_cons, history, sameHistory]
  · rw [recordedThrough_cons, silent, recorded]
    rfl

/-- Behind a turn that is not refused it remains to look at what happens
later. -/
theorem recordsOnReturn_cons
    {pipeline : Pipeline σ} (shaped : pipeline.IsShaped)
    {happening : Happening σ} {later : List (Happening σ)}
    (sameHistory : ∀ history, happening ≠ .exchangeHistory history)
    (accepted : ∀ error,
      pipeline.happen happening ≠ pipeline.refuse error)
    (meanwhile : ∀ happening ∈ later, happening.isMeanwhile = true)
    (afterwards :
      (pipeline.happen happening).pipeline.RecordsOnReturn later) :
    pipeline.RecordsOnReturn (happening :: later) := by
  have takes := takes_happen shaped happening
  have nextShaped := takes.isShaped shaped
  intro turn isTurn hasResult
  -- Once the operation has returned nobody waits any more, so the snapshot
  -- stays the only one.
  rcases takes.records_or_keeps sameHistory with
    ⟨item, records⟩ | ⟨keeps, noResult | ⟨error, refused⟩⟩
  · obtain ⟨⟨history, recorded⟩, silent⟩ :=
      recordsNothing_of_free nextShaped records.returned meanwhile
    rcases List.mem_cons.mp isTurn with rfl | isLater
    · refine ⟨item, records.current, records.rests.status_ne_running,
        records.result, records.items, history, ?_⟩
      rw [recordedThrough_cons, records.recorded, recorded]
      rfl
    · simp [silent turn isLater] at hasResult
  · rcases List.mem_cons.mp isTurn with rfl | isLater
    · simp [noResult] at hasResult
    · obtain ⟨item, current, rests, result, items, history, recorded⟩ :=
        afterwards turn isLater hasResult
      refine ⟨item, current, rests, result, ?_, history, ?_⟩
      · rw [items, keeps.history]
      · rw [recordedThrough_cons, keeps.recorded, recorded]
        rfl
  · exact absurd refused (accepted error)

/-- What happens meanwhile is no refusal. -/
theorem Takes.accepted_meanwhile
    {pipeline : Pipeline σ} {happening : Happening σ} {turn : Turn σ}
    (takes : pipeline.Takes happening turn)
    (meanwhile : happening.isMeanwhile = true) (error : PipelineError) :
    turn ≠ pipeline.refuse error := by
  cases takes with
  | pass | dispatch =>
      intro refused
      cases congrArg Turn.result refused
  | refuse _ refuses =>
      simp [Happening.isMeanwhile, refuses.isOperation] at meanwhile
  | conclude concludes =>
      intro refused
      obtain ⟨item, records⟩ := concludes.records
      have recorded := records.recorded
      rw [refused] at recorded
      cases recorded

theorem recordsOnReturn_meanwhile
    {pipeline : Pipeline σ} (shaped : pipeline.IsShaped)
    {later : List (Happening σ)}
    (meanwhile : ∀ happening ∈ later, happening.isMeanwhile = true) :
    pipeline.RecordsOnReturn later := by
  induction later generalizing pipeline with
  | nil =>
      intro turn isTurn
      cases isTurn
  | cons happening later ih =>
      rw [List.forall_mem_cons] at meanwhile
      have takes := takes_happen shaped happening
      refine recordsOnReturn_cons shaped ?_
        (takes.accepted_meanwhile meanwhile.1) meanwhile.2
        (ih (takes.isShaped shaped) meanwhile.2)
      rintro history rfl
      cases meanwhile.1

/-! ## The return -/

/-- While an operation waits it returns or goes on waiting, and with an answer
for a later stage. -/
theorem Takes.goesOn
    {pipeline : Pipeline σ} {happening : Happening σ} {turn : Turn σ}
    (takes : pipeline.Takes happening turn)
    (meanwhile : happening.isMeanwhile = true) {call : AwaitedCall}
    (waiting : pipeline.awaited = some call) :
    turn.result.isSome ∨ ∃ next, turn.pipeline.awaited = some next ∧
      call.stage.index + happening.isReply.toNat ≤ next.stage.index := by
  cases takes with
  | conclude => exact .inl rfl
  | refuse free => simp [free] at waiting
  | @dispatch _ base run token input events dispatches =>
      have fromHere : pipeline.WaitsFrom call.stage.index := by
        intro other waits
        obtain rfl := Option.some.inj (waiting.symm.trans waits)
        exact Nat.le_refl _
      have later : call.stage.index < input.stage.index :=
        dispatches.stage_of_meanwhile meanwhile fromHere
      have atMostOne := Bool.toNat_le happening.isReply
      refine .inr ⟨⟨input.stage, token⟩, rfl, ?_⟩
      dsimp only
      omega
  | pass passes =>
      refine .inr ?_
      cases passes with
      | fire | notice | issue => exact ⟨call, waiting, Nat.le_refl _⟩
      | reply free => simp [free] at waiting
      | busy _ isOperation =>
          simp [Happening.isMeanwhile, isOperation] at meanwhile
      | nothingPending | discard | abandon | exchangeHistory =>
          cases meanwhile

/-- An operation has returned when all of its calls are answered: there is at
most one for each stage. -/
theorem exists_result_of_replies
    {pipeline : Pipeline σ} (shaped : pipeline.IsShaped) {call : AwaitedCall}
    (waiting : pipeline.awaited = some call) {later : List (Happening σ)}
    (meanwhile : ∀ happening ∈ later, happening.isMeanwhile = true)
    (answered : 4 ≤ call.stage.index + later.countP Happening.isReply) :
    ∃ turn ∈ pipeline.turnsThrough later, turn.result.isSome := by
  induction later generalizing pipeline call with
  | nil =>
      have inside := call.stage.index_lt
      simp at answered
      omega
  | cons happening later ih =>
      rw [List.forall_mem_cons] at meanwhile
      have takes := takes_happen shaped happening
      rcases takes.goesOn meanwhile.1 waiting with returned | ⟨next, waits, on⟩
      · exact ⟨_, List.mem_cons_self, returned⟩
      · rw [List.countP_cons] at answered
        obtain ⟨turn, isTurn, returned⟩ :=
          ih (takes.isShaped shaped) waits meanwhile.2 (by
            cases isReply : happening.isReply <;>
              simp [isReply] at answered on <;> omega)
        exact ⟨turn, List.mem_cons_of_mem _ isTurn, returned⟩

/-! ## Every state -/

/-- What the operations of a pipeline record while none waits. -/
structure RecordsExactly (pipeline : Pipeline σ) : Prop where
  accepted : ∀ operation (later : List (Happening σ)),
    operation.isOperation = true →
    (∀ happening ∈ later, happening.isMeanwhile = true) →
    (∀ error, pipeline.occur operation ≠ pipeline.refuse error) →
    pipeline.RecordsOnReturn (.occurrence operation :: later)
  /-- A drive returns when the service has answered, a cancellation at once. -/
  returns : ∀ operation (later : List (Happening σ)),
    (∀ happening ∈ later, happening.isMeanwhile = true) →
    (∀ error, pipeline.occur operation ≠ pipeline.refuse error) →
    (operation.isDrive = true ∧ 4 ≤ later.countP Happening.isReply) ∨
      (∃ reason, operation = .cancelWith reason) →
    ∃ turn ∈ pipeline.turnsThrough (.occurrence operation :: later),
      turn.result.isSome
  refused : ∀ operation error (later : List (Happening σ)),
    (∀ happening ∈ later, happening.isMeanwhile = true) →
    pipeline.occur operation = pipeline.refuse error →
    pipeline.RecordsNothing (.occurrence operation :: later)
  discard : ∀ later : List (Happening σ),
    (∀ happening ∈ later, happening.isMeanwhile = true) →
    pipeline.RecordsNothing (.occurrence .discard :: later)

/-- An operation that is not refused returns at once or waits for an answer,
unless there is nothing to do. -/
theorem Takes.accepted
    {pipeline : Pipeline σ} (free : pipeline.awaited = none)
    {operation : Occurrence} {turn : Turn σ}
    (takes : pipeline.Takes (.occurrence operation) turn)
    (isRequest : operation.isDrive = true ∨
      ∃ reason, operation = .cancelWith reason)
    (accepted : ∀ error, turn ≠ pipeline.refuse error) :
    turn.result.isSome ∨ operation.isDrive = true ∧
      ∃ call, turn.pipeline.awaited = some call := by
  cases takes with
  | conclude => exact .inl rfl
  | refuse => exact absurd rfl (accepted _)
  | dispatch dispatches =>
      rcases isRequest with isDrive | ⟨reason, rfl⟩
      · exact .inr ⟨isDrive, _, rfl⟩
      · cases dispatches
  | pass passes =>
      exfalso
      rcases isRequest with isDrive | ⟨reason, rfl⟩
      · cases passes with
        | busy waiting => simp [free] at waiting
        | _ => cases isDrive
      · cases passes with
        | busy waiting => simp [free] at waiting

theorem recordsExactly_of_isShaped
    {pipeline : Pipeline σ} (shaped : pipeline.IsShaped)
    (free : pipeline.awaited = none) : pipeline.RecordsExactly := by
  constructor
  · intro operation later isOperation meanwhile accepted
    have takes := takes_happen shaped (.occurrence operation)
    refine recordsOnReturn_cons shaped (by simp) accepted meanwhile ?_
    exact recordsOnReturn_meanwhile (takes.isShaped shaped) meanwhile
  · intro operation later meanwhile accepted isRequest
    have takes := takes_happen shaped (.occurrence operation)
    rcases takes.accepted free (isRequest.imp_left And.left) accepted with
      returned | ⟨isDrive, call, waiting⟩
    · exact ⟨_, List.mem_cons_self, returned⟩
    · have answered : 4 ≤ later.countP Happening.isReply := by
        rcases isRequest with ⟨_, answered⟩ | ⟨reason, rfl⟩
        · exact answered
        · cases isDrive
      obtain ⟨turn, isTurn, returned⟩ := exists_result_of_replies
        (takes.isShaped shaped) waiting meanwhile (by omega)
      exact ⟨turn, List.mem_cons_of_mem _ isTurn, returned⟩
  · intro operation error later meanwhile refused
    have happened : pipeline.happen (.occurrence operation) =
        pipeline.refuse error := refused
    apply recordsNothing_cons shaped _ _ _ meanwhile <;> rw [happened]
    · rfl
    · rfl
    · exact free
  · intro later meanwhile
    have happened : pipeline.happen (.occurrence .discard) =
        pipeline.discard.2.idle := whenFree_of_free free _
    apply recordsNothing_cons shaped _ _ _ meanwhile <;> rw [happened]
    · rfl
    · rfl
    · exact free

/-- Whatever has happened to a pipeline, its operations record exactly one
snapshot each, and its history is the pile of all of them. -/
theorem snapshots_through {store : σ} {capacity : Nat} {history : History σ}
    (loaded : History.load store capacity = .ok history) (supply : Supply)
    (maxAttempts : UInt32) (happenings : List (Happening σ)) :
    (((new history supply maxAttempts).through happenings).awaited = none →
      ((new history supply maxAttempts).through happenings).RecordsExactly) ∧
    ((∀ other, .exchangeHistory other ∉ happenings) →
      ∃ stored snapshots,
        KeyValueStore.read History.itemsDecoder store
          StoreKey.history.name = .ok stored ∧
        (new history supply maxAttempts).Piles happenings capacity
          ((stored.getD []).take capacity) snapshots) := by
  constructor
  · intro free
    exact recordsExactly_of_isShaped
      (isShaped_through history supply maxAttempts happenings) free
  · intro sameHistory
    obtain ⟨stored, read, rfl⟩ := History.exists_stored_of_load loaded
    have fits := List.length_take_le capacity (stored.getD [])
    obtain ⟨snapshots, piles⟩ := exists_piles
      (new_isShaped ⟨store, capacity, _⟩ supply maxAttempts) fits sameHistory
    exact ⟨stored, snapshots, read, piles⟩

/-- A run is cancelled at the checkpoint. -/
def stoppedAtCheckpoint : List (Happening MemoryStore) :=
  [.occurrence (startShort .manual), .occurrence (.reply (.ok .null) 5),
    .occurrence (.reply (.ok (.bool true)) 7),
    .occurrence (.cancelWith "stop")]

/-- A history of one item keeps the later one of two snapshots. -/
theorem snapshots_stoppedAtCheckpoint :
    ((new ⟨MemoryStore.empty, 1, []⟩ ⟨0, 0, ⟨0, 0⟩⟩ 3).through
      stoppedAtCheckpoint).RecordsExactly ∧
    ∃ newer older,
      (new ⟨MemoryStore.empty, 1, []⟩ ⟨0, 0, ⟨0, 0⟩⟩ 3).Piles
        stoppedAtCheckpoint 1 [] [newer, older] ∧
      newer.run.status = .cancelled ∧
      older.run.status = .pausedAtCheckpoint := by
  have loaded : History.load MemoryStore.empty 1 =
      .ok ⟨MemoryStore.empty, 1, []⟩ := rfl
  obtain ⟨exactly, pile⟩ :=
    snapshots_through loaded ⟨0, 0, ⟨0, 0⟩⟩ 3 stoppedAtCheckpoint
  refine ⟨exactly rfl, ?_⟩
  obtain ⟨stored, snapshots, read, piles⟩ :=
    pile (by simp [stoppedAtCheckpoint])
  obtain rfl : stored = none := (Except.ok.inj read).symm
  have told : (snapshots.reverse.map fun item =>
      (item.id, item.run.status)).map Prod.snd =
      [.pausedAtCheckpoint, .cancelled] := by
    rw [piles.recorded]
    rfl
  have statuses : snapshots.map (·.run.status) =
      [.cancelled, .pausedAtCheckpoint] := by
    rw [List.map_map, List.map_reverse, List.reverse_eq_iff] at told
    exact told
  obtain ⟨newer, rest, rfl, isCancelled, left⟩ :=
    List.map_eq_cons_iff.mp statuses
  obtain ⟨older, _, rfl, isPaused, nothing⟩ := List.map_eq_cons_iff.mp left
  obtain rfl := List.map_eq_nil_iff.mp nothing
  exact ⟨newer, older, piles, isCancelled, isPaused⟩

end Pipeline

end AgentPipeline
