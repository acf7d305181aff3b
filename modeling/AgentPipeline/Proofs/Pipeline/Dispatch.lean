import AgentPipeline.Proofs.Pipeline.Cancellation
import AgentPipeline.Proofs.Pipeline.Turn

/-!
# When calls are dispatched

An operation dispatches the call that it begins with exactly when its
conditions hold; what it dispatches later belongs to later stages.  When an
operation fails, a stage has failed, or it was refused and has changed
nothing.  Main statement: `actsExactly_through`.
-/

namespace AgentPipeline

namespace Pipeline

variable {σ : Type} [KeyValueStore σ]

/-- The calls that are dispatched while all of this happens, in order. -/
def requestsThrough (pipeline : Pipeline σ)
    (happenings : List (Happening σ)) : List StageRequest :=
  (pipeline.turnsThrough happenings).flatMap Turn.requests

@[simp]
theorem requestsThrough_cons (pipeline : Pipeline σ)
    (happening : Happening σ) (later : List (Happening σ)) :
    pipeline.requestsThrough (happening :: later) =
      (pipeline.happen happening).requests ++
        (pipeline.happen happening).pipeline.requestsThrough later := by
  simp [requestsThrough, turnsThrough]

omit [KeyValueStore σ] in
@[simp]
theorem requests_dispatch (pipeline : Pipeline σ) (run : Run)
    (token : TokenId) (input : StageInput) :
    (pipeline.dispatch run token input).requests =
      [{ input
         model := pipeline.stageModels.get input.stage
         temperature := run.temperature }] := rfl

omit [KeyValueStore σ] in
@[simp]
theorem requests_refuse (pipeline : Pipeline σ) (error : PipelineError) :
    (pipeline.refuse error).requests = [] := rfl

/-! ## While an operation waits -/

/-- The call that is waited for, if there is one, belongs to the stage at a
position or to a later one. -/
def WaitsFrom (pipeline : Pipeline σ) (position : Nat) : Prop :=
  ∀ call, pipeline.awaited = some call → position ≤ call.stage.index

omit [KeyValueStore σ] in
theorem waitsFrom_of_free
    {pipeline : Pipeline σ} (free : pipeline.awaited = none)
    (position : Nat) : pipeline.WaitsFrom position := by
  intro call waiting
  rw [free] at waiting
  cases waiting

omit [KeyValueStore σ] in
theorem Passes.waitsFrom
    {pipeline next : Pipeline σ} {happening : Happening σ}
    (passes : pipeline.Passes happening next)
    {position : Nat} (waitsFrom : pipeline.WaitsFrom position) :
    next.WaitsFrom position := by
  cases passes with
  | abandon => exact waitsFrom_of_free rfl position
  | discard free => exact waitsFrom_of_free free position
  | _ => exact waitsFrom

omit [KeyValueStore σ] in
theorem Passes.free
    {pipeline next : Pipeline σ} {happening : Happening σ}
    (passes : pipeline.Passes happening next)
    (free : pipeline.awaited = none) : next.awaited = none := by
  cases passes with
  | abandon => rfl
  | _ => exact free

omit [KeyValueStore σ] in
theorem Dispatches.stage_of_meanwhile
    {pipeline base : Pipeline σ} {happening : Happening σ} {run : Run}
    {token : TokenId} {input : StageInput} {events : List Event}
    (dispatches : pipeline.Dispatches happening base run token input events)
    (meanwhile : happening.isMeanwhile = true) {position : Nat}
    (waitsFrom : pipeline.WaitsFrom position) :
    position < input.stage.index := by
  cases dispatches with
  | reply waiting _ _ _ follows =>
      have later := waitsFrom _ waiting
      rw [follows.stage]
      omega
  | start | continueRun | regenerate => cases meanwhile

/-- While an operation waits, only calls of later stages are dispatched. -/
theorem Takes.waitsFrom
    {pipeline : Pipeline σ} {happening : Happening σ} {turn : Turn σ}
    (takes : pipeline.Takes happening turn)
    (meanwhile : happening.isMeanwhile = true) {position : Nat}
    (waitsFrom : pipeline.WaitsFrom position) :
    (∀ sent ∈ turn.requests, position < sent.stage.index) ∧
      turn.pipeline.WaitsFrom position := by
  cases takes with
  | pass passes => exact ⟨by simp, passes.waitsFrom waitsFrom⟩
  | refuse => exact ⟨by simp, waitsFrom⟩
  | dispatch dispatches =>
      have later := dispatches.stage_of_meanwhile meanwhile waitsFrom
      refine ⟨by simpa [StageRequest.stage] using later, ?_⟩
      rintro _ ⟨⟩
      exact Nat.le_of_lt later
  | conclude => exact ⟨by simp, waitsFrom_of_free rfl position⟩

theorem requestsThrough_of_waitsFrom
    {pipeline : Pipeline σ} (shaped : pipeline.IsShaped) {position : Nat}
    (waitsFrom : pipeline.WaitsFrom position) {later : List (Happening σ)}
    (meanwhile : ∀ happening ∈ later, happening.isMeanwhile = true) :
    ∀ sent ∈ pipeline.requestsThrough later, position < sent.stage.index := by
  induction later generalizing pipeline with
  | nil => simp [requestsThrough, turnsThrough]
  | cons happening later ih =>
      rw [List.forall_mem_cons] at meanwhile
      have takes := takes_happen shaped happening
      obtain ⟨first, next⟩ := takes.waitsFrom meanwhile.1 waitsFrom
      intro sent isSent
      rw [requestsThrough_cons] at isSent
      rcases List.mem_append.mp isSent with atFirst | isLater
      · exact first sent atFirst
      · exact ih (takes.isShaped shaped) next meanwhile.2 sent isLater

/-- Where no operation waits, no call is dispatched. -/
theorem requestsThrough_of_free
    {pipeline : Pipeline σ} (shaped : pipeline.IsShaped)
    (free : pipeline.awaited = none) {later : List (Happening σ)}
    (meanwhile : ∀ happening ∈ later, happening.isMeanwhile = true) :
    pipeline.requestsThrough later = [] := by
  have silent := requestsThrough_of_waitsFrom shaped
    (waitsFrom_of_free free 4) meanwhile
  rw [List.eq_nil_iff_forall_not_mem]
  intro sent isSent
  exact absurd (silent sent isSent) (Nat.not_lt.mpr
    (Nat.le_of_lt sent.stage.index_lt))

/-! ## The call that an operation begins with -/

/-- An operation whose conditions hold is neither refused nor ended. -/
theorem Dispatches.takes
    {pipeline base : Pipeline σ} {operation : Occurrence} {run : Run}
    {token : TokenId} {input : StageInput} {events : List Event}
    (dispatches : pipeline.Dispatches (.occurrence operation) base run token
      input events) (isOperation : operation.isOperation = true)
    {turn : Turn σ} (takes : pipeline.Takes (.occurrence operation) turn) :
    ∃ base run token input events, pipeline.Dispatches
        (.occurrence operation) base run token input events ∧
      turn = (base.dispatch run token input).afterEvents events := by
  cases takes with
  | dispatch dispatches => exact ⟨_, _, _, _, _, dispatches, rfl⟩
  | pass passes =>
      cases dispatches with
      | start free | continueRun free | regenerate free =>
          cases passes with
          | busy waiting => simp [free] at waiting
      | reply => cases isOperation
  | refuse _ refuses =>
      cases dispatches with
      | start _ notBlank notBusy online resolved =>
          cases refuses with
          | blank blank => simp [blank] at notBlank
          | busy busy => simp [busy] at notBusy
          | offline unreachable => simp [online] at unreachable
          | unresolved unresolved => simp [unresolved] at resolved
      | continueRun _ current _ _ paused =>
          cases refuses with
          | nothingToContinue noRun => simp [current] at noRun
          | notPaused same notPaused =>
              obtain rfl := Option.some.inj (current.symm.trans same)
              exact absurd paused notPaused
      | regenerate _ current _ completed _ _ _ validate isFailure left =>
          cases refuses with
          | nothingToRegenerate noRun => simp [current] at noRun
          | notFailed same notFailed =>
              obtain rfl := Option.some.inj (current.symm.trans same)
              have failure := (Run.validationFailure_eq_some validate).mpr
                ⟨rfl, isFailure⟩
              simp [notFailed completed] at failure
          | exhausted same exhausted =>
              obtain rfl := Option.some.inj (current.symm.trans same)
              exact absurd left (UInt32.not_lt.mpr exhausted)
      | reply => cases isOperation
  | conclude concludes =>
      cases dispatches with
      | continueRun _ _ _ _ _ _ isOpen =>
          cases concludes with
          | cancel _ _ _ _ stops =>
              cases stops with
              | continueRun _ pending => simp [pending] at isOpen
      | start | regenerate =>
          cases concludes with
          | cancel _ _ _ _ stops => cases stops
      | reply => cases isOperation

/-- An operation dispatches a call of the stage that it can begin with exactly
when it does so at once. -/
theorem exists_sent_iff
    {pipeline : Pipeline σ} (shaped : pipeline.IsShaped)
    (free : pipeline.awaited = none) {operation : Occurrence}
    (isOperation : operation.isOperation = true) {stage : Stage}
    (begins : ∀ {base run token input events}, pipeline.Dispatches
      (.occurrence operation) base run token input events →
        input.stage = stage)
    {later : List (Happening σ)}
    (meanwhile : ∀ happening ∈ later, happening.isMeanwhile = true) :
    (∃ sent ∈ pipeline.requestsThrough (.occurrence operation :: later),
        sent.stage = stage) ↔
      ∃ base run token input events, pipeline.Dispatches
        (.occurrence operation) base run token input events := by
  have takes := takes_happen shaped (.occurrence operation)
  have nextShaped := takes.isShaped shaped
  generalize turnEq : pipeline.happen (.occurrence operation) = turn
    at takes nextShaped
  -- Unless the operation dispatches a call at once nobody waits behind its
  -- turn, and then nothing is dispatched meanwhile.
  constructor
  · rintro ⟨sent, isSent, _⟩
    rw [requestsThrough_cons, turnEq] at isSent
    cases takes with
    | dispatch dispatches => exact ⟨_, _, _, _, _, dispatches⟩
    | pass passes =>
        rw [requestsThrough_of_free nextShaped (passes.free free) meanwhile]
          at isSent
        simp at isSent
    | refuse =>
        rw [requestsThrough_of_free nextShaped free meanwhile] at isSent
        simp at isSent
    | conclude =>
        rw [requestsThrough_of_free nextShaped rfl meanwhile] at isSent
        simp at isSent
  · rintro ⟨_, _, _, _, _, dispatches⟩
    obtain ⟨base, run, token, input, events, dispatched, rfl⟩ :=
      dispatches.takes isOperation takes
    refine ⟨⟨input, base.stageModels.get input.stage, run.temperature⟩, ?_,
      begins dispatched⟩
    rw [requestsThrough_cons, turnEq, Turn.requests_afterEvents,
      requests_dispatch]
    exact List.mem_append_left _ List.mem_cons_self

omit [KeyValueStore σ] in
theorem start_dispatches_iff
    {pipeline : Pipeline σ} (free : pipeline.awaited = none)
    (request : RunRequest) (registry : ModelRegistry) :
    (∃ base run token input events, pipeline.Dispatches
        (.occurrence (.start request registry)) base run token input events) ↔
      Text.isBlankText request.inputText = false ∧ pipeline.isBusy = false ∧
        registry.isOnline = true ∧
        (registry.resolveFor Stage.parse.agent request.selections).isSome := by
  have isOnline_iff :
      registry.isOnline = true ↔ registry.connectivity = .online := by
    unfold ModelRegistry.isOnline
    cases registry.connectivity <;> simp [Connectivity.isOnline]
  rw [isOnline_iff]
  constructor
  · rintro ⟨_, _, _, _, _, dispatches⟩
    cases dispatches with
    | start _ notBlank notBusy online resolved =>
        exact ⟨notBlank, notBusy, online, resolved⟩
  · rintro ⟨notBlank, notBusy, online, resolved⟩
    exact ⟨_, _, _, _, _, .start free notBlank notBusy online resolved⟩

omit [KeyValueStore σ] in
theorem continueRun_dispatches_iff
    {pipeline : Pipeline σ} (shaped : pipeline.IsShaped)
    (free : pipeline.awaited = none) :
    (∃ base run token input events, pipeline.Dispatches
        (.occurrence .continueRun) base run token input events) ↔
      ∃ run token, pipeline.run = some run ∧
        run.status = .pausedAtCheckpoint ∧
        pipeline.cancellation.current? = some token ∧
        pipeline.cancellation.isCancelled token = false := by
  constructor
  · rintro ⟨_, _, _, _, _, dispatches⟩
    cases dispatches with
    | continueRun _ current _ _ paused hasToken isOpen =>
        refine ⟨_, _, current, paused, hasToken, ?_⟩
        simp [CancelGroup.isCancelled,
          CancelGroup.reason?_eq_pending? hasToken, isOpen]
  · rintro ⟨run, token, current, paused, hasToken, isOpen⟩
    obtain ⟨reaches, noError⟩ := (shaped.stands run current).of_paused paused
    obtain ⟨parsed, parse⟩ := reaches.output .parse (by decide)
    obtain ⟨reasoning, reason⟩ := reaches.output .reason (by decide)
    have notPending : pipeline.cancellation.pending? = none := by
      simpa [CancelGroup.isCancelled,
        CancelGroup.reason?_eq_pending? hasToken] using isOpen
    exact ⟨_, _, _, _, _, .continueRun free current reaches noError paused
      hasToken notPending parse reason⟩

omit [KeyValueStore σ] in
theorem regenerate_dispatches_iff
    {pipeline : Pipeline σ} (shaped : pipeline.IsShaped)
    (free : pipeline.awaited = none) :
    (∃ base run token input events, pipeline.Dispatches
        (.occurrence .regenerate) base run token input events) ↔
      ∃ run, pipeline.run = some run ∧ run.status = .completed ∧
        run.validationFailure.isSome ∧
        run.attempt < pipeline.maxAttempts := by
  constructor
  · rintro ⟨_, _, _, _, _, dispatches⟩
    cases dispatches with
    | regenerate _ current _ completed _ _ _ validate isFailure left =>
        have failure := (Run.validationFailure_eq_some validate).mpr
          ⟨rfl, isFailure⟩
        exact ⟨_, current, completed, Option.isSome_of_eq_some failure, left⟩
  · rintro ⟨run, current, completed, hasFailed, left⟩
    have reaches := (shaped.stands run current).of_completed completed
    obtain ⟨parsed, parse⟩ := reaches.output .parse (by decide)
    obtain ⟨reasoning, reason⟩ := reaches.output .reason (by decide)
    obtain ⟨previous, generate⟩ :=
      reaches.output .generate (by decide)
    obtain ⟨verdict, validate⟩ :=
      reaches.output .validate (by decide)
    obtain ⟨summary, failure⟩ := Option.isSome_iff_exists.mp hasFailed
    obtain ⟨rfl, isFailure⟩ :=
      (Run.validationFailure_eq_some validate).mp failure
    exact ⟨_, _, _, _, _, .regenerate free current reaches completed parse
      reason generate validate isFailure left⟩

/-! ## Errors -/

omit [KeyValueStore σ] in
theorem Refuses.isOperation
    {pipeline : Pipeline σ} {operation : Occurrence} {error : PipelineError}
    (refuses : pipeline.Refuses operation error) :
    operation.isOperation = true := by
  cases refuses <;> rfl

/-- An operation that fails was refused, or else a stage has failed. -/
theorem Takes.of_error
    {pipeline : Pipeline σ} {happening : Happening σ} {turn : Turn σ}
    (takes : pipeline.Takes happening turn) {error : PipelineError}
    (failed : turn.result = some (.error error)) :
    (∃ operation, happening = .occurrence operation ∧
      pipeline.Refuses operation error ∧ turn = pipeline.refuse error) ∨
    ∃ stage message, error = .stage stage message := by
  cases takes with
  | pass => cases failed
  | refuse _ refuses =>
      obtain rfl := Except.error.inj (Option.some.inj failed)
      exact .inl ⟨_, rfl, refuses, rfl⟩
  | dispatch => cases failed
  | conclude concludes =>
      cases concludes with
      | cancel | pause | complete => cases failed
      | fail _ _ _ _ isFailure =>
          obtain rfl := Except.error.inj (Option.some.inj failed)
          exact .inr ⟨_, _, isFailure⟩

/-- After the turn in which it is called an operation fails only with a
stage. -/
theorem stage_of_error_meanwhile
    {pipeline : Pipeline σ} (shaped : pipeline.IsShaped)
    {later : List (Happening σ)}
    (meanwhile : ∀ happening ∈ later, happening.isMeanwhile = true)
    {turn : Turn σ} (isTurn : turn ∈ pipeline.turnsThrough later)
    {error : PipelineError} (failed : turn.result = some (.error error)) :
    ∃ stage message, error = .stage stage message := by
  induction later generalizing pipeline with
  | nil => simp [turnsThrough] at isTurn
  | cons happening later ih =>
      rw [List.forall_mem_cons] at meanwhile
      have takes := takes_happen shaped happening
      rcases List.mem_cons.mp isTurn with rfl | isLater
      · rcases takes.of_error failed with
          ⟨operation, rfl, refuses, _⟩ | stageFailed
        · have isOperation := refuses.isOperation
          simp [Happening.isMeanwhile, isOperation] at meanwhile
        · exact stageFailed
      · exact ih (takes.isShaped shaped) meanwhile.2 isLater

/-- An operation fails because it was refused, with nothing changed, or
because a stage failed. -/
theorem refused_or_stage
    {pipeline : Pipeline σ} (shaped : pipeline.IsShaped)
    {operation : Occurrence} {later : List (Happening σ)}
    (meanwhile : ∀ happening ∈ later, happening.isMeanwhile = true)
    {turn : Turn σ}
    (isTurn : turn ∈ pipeline.turnsThrough (.occurrence operation :: later))
    {error : PipelineError} (failed : turn.result = some (.error error)) :
    (pipeline.Refuses operation error ∧ turn = pipeline.refuse error) ∨
      ∃ stage message, error = .stage stage message := by
  have takes := takes_happen shaped (.occurrence operation)
  rcases List.mem_cons.mp isTurn with rfl | isLater
  · rcases takes.of_error failed with ⟨_, ⟨⟩, refused⟩ | stageFailed
    · exact .inl refused
    · exact .inr stageFailed
  · exact .inr (stage_of_error_meanwhile (takes.isShaped shaped) meanwhile
      isLater failed)

/-! ## Every state -/

/-- How the operations of a pipeline act while none waits, whatever else
happens until they return. -/
structure ActsExactly (pipeline : Pipeline σ) : Prop where
  start : ∀ request registry (later : List (Happening σ)),
    (∀ happening ∈ later, happening.isMeanwhile = true) →
    ((∃ sent ∈ pipeline.requestsThrough
        (.occurrence (.start request registry) :: later),
        sent.stage = .parse) ↔
      Text.isBlankText request.inputText = false ∧ pipeline.isBusy = false ∧
        registry.isOnline = true ∧
        (registry.resolveFor Stage.parse.agent request.selections).isSome)
  continueRun : ∀ later : List (Happening σ),
    (∀ happening ∈ later, happening.isMeanwhile = true) →
    ((∃ sent ∈ pipeline.requestsThrough (.occurrence .continueRun :: later),
        sent.stage = .generate) ↔
      ∃ run token, pipeline.run = some run ∧
        run.status = .pausedAtCheckpoint ∧
        pipeline.cancellation.current? = some token ∧
        pipeline.cancellation.isCancelled token = false)
  regenerate : ∀ later : List (Happening σ),
    (∀ happening ∈ later, happening.isMeanwhile = true) →
    ((∃ sent ∈ pipeline.requestsThrough (.occurrence .regenerate :: later),
        sent.stage = .generate) ↔
      ∃ run, pipeline.run = some run ∧ run.status = .completed ∧
        run.validationFailure.isSome ∧ run.attempt < pipeline.maxAttempts)
  /-- What no operation fails with, a further attempt does not fail with, and
  an operation that has changed the run does not fail with. -/
  failure : ∀ operation (later : List (Happening σ)),
    (∀ happening ∈ later, happening.isMeanwhile = true) →
    ∀ turn ∈ pipeline.turnsThrough (.occurrence operation :: later),
    ∀ error, turn.result = some (.error error) →
      (∀ stage source target,
        error ≠ .invalidTransition stage source target) ∧
      (operation = .regenerate → error ≠ .runInProgress) ∧
      ((∃ part, error = .contextMissing part) ∨ error = .noActiveRun →
        turn.pipeline = pipeline)

theorem failure_of_isShaped
    {pipeline : Pipeline σ} (shaped : pipeline.IsShaped)
    {operation : Occurrence} {later : List (Happening σ)}
    (meanwhile : ∀ happening ∈ later, happening.isMeanwhile = true)
    {turn : Turn σ}
    (isTurn : turn ∈ pipeline.turnsThrough (.occurrence operation :: later))
    {error : PipelineError} (failed : turn.result = some (.error error)) :
    (∀ stage source target, error ≠ .invalidTransition stage source target) ∧
      (operation = .regenerate → error ≠ .runInProgress) ∧
      ((∃ part, error = .contextMissing part) ∨ error = .noActiveRun →
        turn.pipeline = pipeline) := by
  rcases refused_or_stage shaped meanwhile isTurn failed with
    ⟨refuses, rfl⟩ | ⟨stage, message, rfl⟩
  · refine ⟨?_, ?_, fun _ => rfl⟩
    · rintro stage source target rfl
      cases refuses
    · rintro rfl rfl
      cases refuses
  · refine ⟨?_, ?_, ?_⟩
    · rintro _ _ _ ⟨⟩
    · rintro _ ⟨⟩
    · rintro (⟨_, ⟨⟩⟩ | isNoRun)
      cases isNoRun

/-- Whatever has happened to a pipeline, its operations act exactly. -/
theorem actsExactly_through (history : History σ) (supply : Supply)
    (maxAttempts : UInt32) (happenings : List (Happening σ))
    (free :
      ((new history supply maxAttempts).through happenings).awaited = none) :
    ((new history supply maxAttempts).through happenings).ActsExactly := by
  have shaped := isShaped_through history supply maxAttempts happenings
  constructor
  · intro request registry later meanwhile
    rw [← start_dispatches_iff free request registry]
    refine exists_sent_iff shaped free rfl ?_ meanwhile
    intro _ _ _ _ _ dispatches
    cases dispatches
    rfl
  · intro later meanwhile
    rw [← continueRun_dispatches_iff shaped free]
    refine exists_sent_iff shaped free rfl ?_ meanwhile
    intro _ _ _ _ _ dispatches
    cases dispatches
    rfl
  · intro later meanwhile
    rw [← regenerate_dispatches_iff shaped free]
    refine exists_sent_iff shaped free rfl ?_ meanwhile
    intro _ _ _ _ _ dispatches
    cases dispatches
    rfl
  · intro operation later meanwhile turn isTurn error failed
    exact failure_of_isShaped shaped meanwhile isTurn failed

/-- A run whose validation fails on its first attempt. -/
def failedCheck : List (Happening MemoryStore) :=
  [.occurrence (startShort .auto), .occurrence (.reply (.ok .null) 5),
    .occurrence (.reply (.ok (.bool true)) 7),
    .occurrence (.reply (.ok .null) 9),
    .occurrence (.reply (.ok (.object [("valid", .bool false)])) 3)]

/-- Behind a failed validation a further attempt is dispatched. -/
theorem actsExactly_failedCheck :
    (inMemory.through failedCheck).awaited = none ∧
      (inMemory.through failedCheck).ActsExactly ∧
      ∃ sent ∈ (inMemory.through failedCheck).requestsThrough
        [.occurrence .regenerate, .occurrence (.fire "stop")],
        sent.stage = .generate := by
  have actsExactly := actsExactly_through ⟨MemoryStore.empty, 10, []⟩
    ⟨0, 0, ⟨0, 0⟩⟩ 3 failedCheck rfl
  have left : ∃ run, (inMemory.through failedCheck).run = some run ∧
      run.status = .completed ∧ run.validationFailure.isSome ∧
      run.attempt < (inMemory.through failedCheck).maxAttempts :=
    ⟨_, rfl, rfl, rfl, by decide⟩
  exact ⟨rfl, actsExactly, (actsExactly.regenerate
    [.occurrence (.fire "stop")] (by simp [Happening.isMeanwhile,
      Occurrence.isOperation])).mpr left⟩

end Pipeline

end AgentPipeline
