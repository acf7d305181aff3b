import AgentPipeline.Proofs.Pipeline.Snapshot

/-!
# How operations fail

An operation that is refused changes nothing, and nobody is told of it or
asked for anything.  Every other operation that fails fails with a stage: then
its run has failed with that error, and the snapshot of the run is the newest
in the history, unless the history keeps nothing at all.
Main statement: `failsCleanly_through`.
-/

namespace AgentPipeline

/-- The errors with which operations are refused. -/
def PipelineError.isRefusal : PipelineError → Bool
  | .emptyInput | .noModel | .runInProgress | .noActiveRun | .notAtCheckpoint
  | .contextMissing _ | .attemptsExhausted _ | .offline _ => true
  | .stage .. | .cancelled _ | .invalidTransition .. => false

/-- The run has failed in a stage. -/
structure Run.FailedIn (run : Run) (stage : Stage) (error : PipelineError) :
    Prop where
  status : run.status = .failed
  error : run.error = some error.message
  state : run.states.get stage = .error

/-- An operation fails in the turn with a stage, and the snapshot of its run
stands before the items that the history had. -/
structure Turn.FailsIn {σ : Type} (turn : Turn σ) (before : History σ)
    (stage : Stage) (error : PipelineError) (item : HistoryItem) : Prop where
  current : turn.pipeline.run = some item.run
  failed : item.run.FailedIn stage error
  items : turn.pipeline.history.items =
    (item :: before.items).take before.capacity
  newest : 0 < before.capacity →
    turn.pipeline.history.items.head? = some item

namespace Pipeline

variable {σ : Type} [KeyValueStore σ]

/-! ## One turn -/

omit [KeyValueStore σ] in
theorem Refuses.isRefusal
    {pipeline : Pipeline σ} {operation : Occurrence} {error : PipelineError}
    (refuses : pipeline.Refuses operation error) :
    error.isRefusal = true := by
  cases refuses <;> rfl

theorem Takes.isRefusal
    {pipeline : Pipeline σ} {happening : Happening σ} {turn : Turn σ}
    (takes : pipeline.Takes happening turn) {error : PipelineError}
    (refused : turn = pipeline.refuse error) : error.isRefusal = true := by
  cases takes with
  | pass | dispatch => cases congrArg Turn.result refused
  | refuse _ refuses =>
      cases congrArg Turn.result refused
      exact refuses.isRefusal
  | conclude concludes =>
      -- The end of an operation is told, a refusal is not.
      obtain ⟨item, records⟩ := concludes.records
      have recorded := records.recorded
      rw [refused] at recorded
      cases recorded

/-- An operation that fails without being refused leaves a run that has failed
in a stage. -/
theorem Takes.failed
    {pipeline : Pipeline σ} {happening : Happening σ} {turn : Turn σ}
    (takes : pipeline.Takes happening turn) {error : PipelineError}
    (failed : turn.result = some (.error error))
    (notRefused : error.isRefusal = false) :
    ∃ stage message run, error = .stage stage message ∧
      turn.pipeline.run = some run ∧ run.FailedIn stage error := by
  cases takes with
  | pass => cases failed
  | refuse _ refuses =>
      obtain rfl := Except.error.inj (Option.some.inj failed)
      simp [refuses.isRefusal] at notRefused
  | dispatch => cases failed
  | conclude concludes =>
      cases concludes with
      | cancel | pause | complete => cases failed
      | fail _ _ _ _ isFailure =>
          obtain rfl := Except.error.inj (Option.some.inj failed)
          exact ⟨_, _, _, isFailure, rfl, rfl, rfl,
            PerStage.get_set_self _ _ _⟩

/-- Every turn is taken in a pipeline of the right shape. -/
theorem exists_takes_of_mem
    {pipeline : Pipeline σ} (shaped : pipeline.IsShaped)
    {happenings : List (Happening σ)} {turn : Turn σ}
    (isTurn : turn ∈ pipeline.turnsThrough happenings) :
    ∃ before : Pipeline σ, ∃ happening, before.IsShaped ∧
      before.Takes happening turn := by
  induction happenings generalizing pipeline with
  | nil => cases isTurn
  | cons happening later ih =>
      have takes := takes_happen shaped happening
      rcases List.mem_cons.mp isTurn with rfl | isLater
      · exact ⟨pipeline, happening, shaped, takes⟩
      · exact ih (takes.isShaped shaped) isLater

/-- The cancellation of a run does not fail. -/
theorem settlePendingCancel_result
    {pipeline : Pipeline σ} {turn : Turn σ}
    (settles : pipeline.settlePendingCancel = some turn) :
    ∃ run, turn.result = some (.ok run) := by
  unfold settlePendingCancel at settles
  split at settles
  · split at settles
    · cases settles
      exact ⟨_, rfl⟩
    · cases settles
  · cases settles

/-! ## One call -/

variable {pipeline : Pipeline σ} {operation : Occurrence}
  {later : List (Happening σ)} {turn : Turn σ} {error : PipelineError}

/-- An operation is refused in the turn in which it is called. -/
theorem eq_refuse_of_refusal (shaped : pipeline.IsShaped)
    (meanwhile : ∀ happening ∈ later, happening.isMeanwhile = true)
    (isTurn : turn ∈ pipeline.turnsThrough (.occurrence operation :: later))
    (failed : turn.result = some (.error error))
    (refusal : error.isRefusal = true) :
    pipeline.occur operation = pipeline.refuse error ∧
      turn = pipeline.refuse error := by
  have notStage : ¬∃ stage message, error = .stage stage message := by
    rintro ⟨stage, message, rfl⟩
    cases refusal
  have takes := takes_happen shaped (.occurrence operation)
  rcases List.mem_cons.mp isTurn with rfl | isLater
  · obtain ⟨_, _, _, refused⟩ := (takes.of_error failed).resolve_right notStage
    exact ⟨refused, refused⟩
  · exact absurd (stage_of_error_meanwhile (takes.isShaped shaped) meanwhile
      isLater failed) notStage

/-- An operation that returns another error has not been refused. -/
theorem accepted_of_failed (shaped : pipeline.IsShaped)
    (free : pipeline.awaited = none)
    (meanwhile : ∀ happening ∈ later, happening.isMeanwhile = true)
    (isTurn : turn ∈ pipeline.turnsThrough (.occurrence operation :: later))
    (failed : turn.result = some (.error error))
    (notRefused : error.isRefusal = false) (refusal : PipelineError) :
    pipeline.occur operation ≠ pipeline.refuse refusal := by
  intro refused
  change pipeline.happen (.occurrence operation) = _ at refused
  have takes := takes_happen shaped (.occurrence operation)
  have nextShaped := takes.isShaped shaped
  rcases List.mem_cons.mp isTurn with rfl | isLater
  · have refusalFails : refusal = error := by
      rw [refused] at failed
      exact Except.error.inj (Option.some.inj failed)
    rw [← refusalFails, takes.isRefusal refused] at notRefused
    cases notRefused
  · rw [refused] at nextShaped isLater
    have nobody := (recordsNothing_of_free nextShaped free meanwhile).2
    simp [nobody turn isLater] at failed

/-- A failure that is no refusal is that of a stage, and it is recorded. -/
theorem exists_failsIn (shaped : pipeline.IsShaped)
    (free : pipeline.awaited = none)
    (isOperation : operation.isOperation = true)
    (meanwhile : ∀ happening ∈ later, happening.isMeanwhile = true)
    (isTurn : turn ∈ pipeline.turnsThrough (.occurrence operation :: later))
    (failed : turn.result = some (.error error))
    (notRefused : error.isRefusal = false) :
    ∃ stage message item, error = .stage stage message ∧
      turn.FailsIn pipeline.history stage error item := by
  obtain ⟨_, _, _, takes⟩ := exists_takes_of_mem shaped isTurn
  obtain ⟨stage, message, run, isStage, current, failedIn⟩ :=
    takes.failed failed notRefused
  have accepted := accepted_of_failed shaped free meanwhile isTurn failed
    notRefused
  obtain ⟨item, recorded, _, _, items, _⟩ :=
    (recordsExactly_of_isShaped shaped free).accepted operation later
      isOperation meanwhile accepted turn isTurn
      (Option.isSome_of_eq_some failed)
  obtain rfl := Option.some.inj (current.symm.trans recorded)
  refine ⟨stage, message, item, isStage, recorded, failedIn, items, ?_⟩
  intro keepsSome
  rw [items, List.head?_take, if_neg (Nat.ne_of_gt keepsSome)]
  rfl

/-! ## Every state -/

/-- How the operations of a pipeline fail while none waits, whatever else
happens until they return. -/
structure FailsCleanly (pipeline : Pipeline σ) : Prop where
  refused : ∀ operation (later : List (Happening σ)),
    operation.isOperation = true →
    (∀ happening ∈ later, happening.isMeanwhile = true) →
    ∀ turn ∈ pipeline.turnsThrough (.occurrence operation :: later),
    ∀ error, turn.result = some (.error error) → error.isRefusal = true →
      turn = pipeline.occur operation ∧ turn.pipeline = pipeline ∧
        turn.effects = []
  failed : ∀ operation (later : List (Happening σ)),
    operation.isOperation = true →
    (∀ happening ∈ later, happening.isMeanwhile = true) →
    ∀ turn ∈ pipeline.turnsThrough (.occurrence operation :: later),
    ∀ error, turn.result = some (.error error) → error.isRefusal = false →
      ∃ stage message item, error = .stage stage message ∧
        turn.FailsIn pipeline.history stage error item
  /-- A pending cancellation is settled with the cancelled run, or there is
  nothing to do. -/
  pending : (∃ turn run, pipeline.settlePendingCancel = some turn ∧
      pipeline.occur .settlePendingCancel = turn ∧
      turn.result = some (.ok run)) ∨
    pipeline.settlePendingCancel = none ∧
      (pipeline.occur .settlePendingCancel).pipeline = pipeline ∧
      (pipeline.occur .settlePendingCancel).effects = []

theorem failsCleanly_of_isShaped (shaped : pipeline.IsShaped)
    (free : pipeline.awaited = none) : pipeline.FailsCleanly := by
  constructor
  case refused =>
    intro operation later _ meanwhile turn isTurn error failed refusal
    obtain ⟨refused, rfl⟩ :=
      eq_refuse_of_refusal shaped meanwhile isTurn failed refusal
    exact ⟨refused.symm, rfl, rfl⟩
  case failed =>
    intro operation later isOperation meanwhile turn isTurn error failed
      notRefused
    exact exists_failsIn shaped free isOperation meanwhile isTurn failed
      notRefused
  case pending =>
    have occurs : pipeline.occur .settlePendingCancel =
        pipeline.settlePendingCancel.getD pipeline.idle :=
      whenFree_of_free free _
    rw [occurs]
    cases settles : pipeline.settlePendingCancel with
    | none => exact .inr ⟨rfl, rfl, rfl⟩
    | some turn =>
        obtain ⟨run, result⟩ := settlePendingCancel_result settles
        exact .inl ⟨turn, run, rfl, rfl, result⟩

/-- Whatever has happened to a pipeline, its operations fail cleanly. -/
theorem failsCleanly_through (history : History σ) (supply : Supply)
    (maxAttempts : UInt32) (happenings : List (Happening σ))
    (free :
      ((new history supply maxAttempts).through happenings).awaited = none) :
    ((new history supply maxAttempts).through happenings).FailsCleanly :=
  failsCleanly_of_isShaped
    (isShaped_through history supply maxAttempts happenings) free

/-- A run that fails in its first stage is the newest in the history. -/
theorem failsCleanly_firstStage :
    inMemory.awaited = none ∧ inMemory.FailsCleanly ∧
      ∃ turn ∈ inMemory.turnsThrough [.occurrence (startShort .auto),
        .occurrence (.reply (.error (.timeout "late")) 5)],
      ∃ error item, turn.result = some (.error error) ∧
        turn.FailsIn inMemory.history .parse error item := by
  have failsCleanly := failsCleanly_through ⟨MemoryStore.empty, 10, []⟩
    ⟨0, 0, ⟨0, 0⟩⟩ 3 [] rfl
  refine ⟨rfl, failsCleanly, _, List.mem_cons_of_mem _ List.mem_cons_self, ?_⟩
  obtain ⟨stage, message, item, isStage, failsIn⟩ := failsCleanly.failed
    (startShort .auto) [.occurrence (.reply (.error (.timeout "late")) 5)] rfl
    (by simp [Happening.isMeanwhile, Occurrence.isOperation]) _
    (List.mem_cons_of_mem _ List.mem_cons_self) _ rfl rfl
  cases isStage
  exact ⟨_, item, rfl, failsIn⟩

/-- A history that keeps nothing does not keep a failed run either. -/
theorem failed_not_newest :
    ∃ turn ∈ (new ⟨MemoryStore.empty, 0, []⟩ ⟨0, 0, ⟨0, 0⟩⟩ 3).turnsThrough
        [.occurrence (startShort .auto),
          .occurrence (.reply (.error (.timeout "late")) 5)],
      ∃ message, turn.result = some (.error (.stage .parse message)) ∧
        ∀ item : HistoryItem, turn.pipeline.run = some item.run →
          turn.pipeline.history.items.head? ≠ some item := by
  refine ⟨_, List.mem_cons_of_mem _ List.mem_cons_self, _, rfl, ?_⟩
  intro item _ newest
  cases newest

end Pipeline

end AgentPipeline
