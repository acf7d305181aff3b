import AgentPipeline.Proofs.Pipeline.Observation
import AgentPipeline.Proofs.Run.Verdict

/-!
# Verdicts that are announced

Of a completed run an observer is told the verdict that its output gives,
whereas it counts as failed by its verdict or by any violation.  The two part
where an output gives the verdict `true` and violations next to it, and nowhere
else.  Main statement: `announces_told`.
-/

namespace AgentPipeline

namespace ValidationSummary

/-! ## Outputs that are no objects -/

/-- The values that an output gives for the verdict and for the violations: an
object under their names, and an array in their order. -/
def given? : Json → Option (List Json × List Json)
  | .object members =>
      some (valuesUnder verdictNames members,
        valuesUnder violationNames members)
  | .array [] => some ([], [])
  | .array [verdict] => some ([verdict], [])
  | .array [verdict, violations] => some ([verdict], [violations])
  | .array _ | .null | .bool _ | .number _ | .string _ => none

/-- The summary of some values for the two fields. -/
def ofGiven (verdicts violations : List Json) : ValidationSummary :=
  match readVerdict verdicts, readViolations violations with
  | some valid, some errors => ⟨valid, errors⟩
  | _, _ => silent

/-- The summary of an array is that of its items, if there are not too
many. -/
theorem ofOutput_array (items : List Json) :
    ofOutput (.array items) =
      match given? (.array items) with
      | some (verdicts, violations) => ofGiven verdicts violations
      | none => silent := by
  match items with
  | [] => rfl
  | [verdict] =>
      cases verdict <;> rfl
  | [verdict, violations] =>
      let limit := Document.depthOfItems
        (Document.ofItems [verdict, violations])
      have fits : ∀ value ∈ [violations],
          (Document.ofJson value).depth ≤ limit := by
        intro value isValue
        obtain rfl := List.mem_singleton.mp isValue
        exact Nat.le_trans (Nat.le_max_left _ _) (Nat.le_max_right _ _)
      simp only [given?, ofGiven]
      rw [← bind_enterAll_verdict [verdict] limit,
        ← bind_enterAll_violations fits]
      simp only [ofOutput, Decoder.ofJson?, Document.ofJson, Document.depth,
        decoder, Decoder.record]
      show Option.getD (do
        let valid ← Decoder.absentOr Decoder.flag limit
          (some (Document.ofJson verdict))
        let errors ← Decoder.defaulting [] (Decoder.list Decoder.payload)
          limit (some (Document.ofJson violations))
        some (ValidationSummary.mk valid errors)) silent = _
      simp only [enterAll, Option.bind_some, Option.bind_eq_bind]
      cases Decoder.absentOr Decoder.flag limit
          (some (Document.ofJson verdict)) with
      | none => rfl
      | some valid =>
          cases Decoder.defaulting [] (Decoder.list Decoder.payload) limit
            (some (Document.ofJson violations)) <;> rfl
  | first :: second :: third :: rest =>
      have tooMany : Decoder.slotsOfItems fieldNames (Document.ofItems
          (first :: second :: third :: rest)) = none := by
        simp [Decoder.slotsOfItems, Document.ofItems, fieldNames]
      simp only [ofOutput, Decoder.ofJson?, Document.ofJson, Document.depth,
        decoder, Decoder.record, tooMany]
      rfl

/-- The summary of an output is that of the values that it gives. -/
theorem ofOutput_eq (output : Json) :
    ofOutput output =
      match given? output with
      | some (verdicts, violations) => ofGiven verdicts violations
      | none => silent := by
  cases output with
  | object members => exact ofOutput_object members
  | array items => exact ofOutput_array items
  | null | bool _ | number _ | string _ => rfl

/-! ## Outputs that contradict themselves -/

/-- The output gives the verdict `true`, and next to it violations; each of the
two is given once. -/
def IsContradictory (output : Json) : Prop :=
  ∃ item items,
    given? output = some ([.bool true], [.array (item :: items)])

theorem readVerdict_eq_true_iff {verdicts : List Json} :
    readVerdict verdicts = some (some true) ↔ verdicts = [.bool true] := by
  unfold readVerdict
  split <;> simp_all

theorem exists_readViolations_iff {violations : List Json} :
    (∃ errors, readViolations violations = some errors ∧ errors ≠ []) ↔
      ∃ item items, violations = [.array (item :: items)] := by
  constructor
  · rintro ⟨errors, isRead, given⟩
    unfold readViolations at isRead
    split at isRead
    · cases isRead
      exact absurd rfl given
    next items =>
      cases items with
      | nil =>
          cases isRead
          exact absurd rfl given
      | cons item items => exact ⟨item, items, rfl⟩
    · cases isRead
  · rintro ⟨item, items, rfl⟩
    exact ⟨_, rfl, List.cons_ne_nil _ _⟩

/-- A negative verdict is a failure by itself. -/
theorem isFailure_of_negative {summary : ValidationSummary}
    (negative : summary.valid = some false) : summary.isFailure = true := by
  simp [isFailure, negative]

/-- Next to a positive verdict only violations make a failure. -/
theorem isFailure_of_positive {summary : ValidationSummary}
    (positive : summary.valid = some true) :
    summary.isFailure = true ↔ summary.errors ≠ [] := by
  simp [isFailure, positive]

/-- A failure is told to be valid exactly where the output contradicts
itself. -/
theorem isContradictory_iff {output : Json} :
    IsContradictory output ↔
      (ofOutput output).valid = some true ∧
        (ofOutput output).isFailure = true := by
  have only : (ofOutput output).valid = some true ∧
      (ofOutput output).isFailure = true ↔
      (ofOutput output).valid = some true ∧ (ofOutput output).errors ≠ [] :=
    and_congr_right isFailure_of_positive
  rw [only, IsContradictory, ofOutput_eq]
  cases given? output with
  | none => simp [silent]
  | some given =>
      obtain ⟨verdicts, violations⟩ := given
      have apart : (∃ item items, some (verdicts, violations) =
          some ([Json.bool true], [Json.array (item :: items)])) ↔
          verdicts = [.bool true] ∧
            ∃ item items, violations = [.array (item :: items)] := by
        simp
      rw [apart, ← readVerdict_eq_true_iff, ← exists_readViolations_iff]
      simp only [ofGiven]
      cases readVerdict verdicts with
      | none => simp [silent]
      | some valid =>
          cases readViolations violations with
          | none => simp [silent]
          | some errors => simp

end ValidationSummary

namespace Run

/-- The output of the validation contradicts itself. -/
def IsContradicted (run : Run) : Prop :=
  ∃ output, run.outputs.validate = some output ∧
    ValidationSummary.IsContradictory output

/-- The verdict that the output of the validation gives. -/
def verdict? (run : Run) : Option Bool :=
  run.outputs.validate.bind fun output =>
    (ValidationSummary.ofOutput output).valid

theorem isSome_validationFailure_iff {run : Run} :
    run.validationFailure.isSome ↔
      ∃ output, run.outputs.validate = some output ∧
        (ValidationSummary.ofOutput output).isFailure = true := by
  cases validate : run.outputs.validate with
  | none => simp [validationFailure, validate]
  | some output =>
      simp [Option.isSome_iff_exists, validationFailure_eq_some validate]

theorem verdict?_eq_some_iff {run : Run} {valid : Bool} :
    run.verdict? = some valid ↔
      ∃ output, run.outputs.validate = some output ∧
        (ValidationSummary.ofOutput output).valid = some valid :=
  Option.bind_eq_some_iff

theorem isContradicted_iff {run : Run} :
    run.IsContradicted ↔
      run.verdict? = some true ∧ run.validationFailure.isSome := by
  rw [verdict?_eq_some_iff, isSome_validationFailure_iff, IsContradicted]
  cases validate : run.outputs.validate with
  | none => simp
  | some output => simp [ValidationSummary.isContradictory_iff]

/-- What is announced of a run when it is completed, beside what becomes of it
then. -/
structure Announces (run : Run) (told : Option Bool) : Prop where
  event : run.complete.2 = [.runCompleted run.id run.attempt told]
  /-- A run that is told to be invalid has failed, and can be regenerated. -/
  negative (invalid : told = some false) : run.complete.1.FailsIf True
  /-- One that is told to be valid has failed exactly if its output contradicts
  itself. -/
  positive (valid : told = some true) :
    run.complete.1.FailsIf run.IsContradicted
  contradicted (contradicts : run.IsContradicted) : told = some true

/-- A failure can be regenerated. -/
theorem FailsIf.of_failure {run : Run} {condition : Prop}
    (failure : run.validationFailure.isSome ↔ condition) :
    run.FailsIf condition where
  failure
  regenerates shaped free current completed := by
    rw [← failure]
    exact Pipeline.regenerate_awaited_isSome shaped free current completed

/-- An observer is told the verdict that the output gives.  It is `false` for a
failure only, and it is `true` for a failure exactly where the output gives
violations next to it. -/
theorem announces_told (run : Run) : run.Announces run.verdict? := by
  have failure : run.complete.1.validationFailure = run.validationFailure :=
    rfl
  constructor
  case event => rfl
  case negative =>
    intro invalid
    obtain ⟨output, validate, negative⟩ := verdict?_eq_some_iff.mp invalid
    refine .of_failure (iff_of_true ?_ trivial)
    rw [failure, isSome_validationFailure_iff]
    exact ⟨output, validate,
      ValidationSummary.isFailure_of_negative negative⟩
  case positive =>
    intro valid
    refine .of_failure ?_
    rw [failure, isContradicted_iff]
    exact (and_iff_right valid).symm
  case contradicted =>
    intro contradicts
    exact (isContradicted_iff.mp contradicts).1

/-- The verdict `true` next to a violation. -/
def validWithViolation : Json :=
  .object [("errors", .array [.string "missing sh:path"]),
    ("valid", .bool true)]

/-- A run whose validation answers so. -/
def contradictedCheck : List (Happening MemoryStore) :=
  [.occurrence (Pipeline.startShort .auto),
    .occurrence (.reply (.ok .null) 5),
    .occurrence (.reply (.ok (.bool true)) 7),
    .occurrence (.reply (.ok .null) 9),
    .occurrence (.reply (.ok validWithViolation) 3)]

/-- An observer is told that the run is valid, and it is regenerated. -/
theorem announces_told_contradicted :
    ∃ run, (Pipeline.inMemory.through contradictedCheck).run = some run ∧
      .runCompleted run.id run.attempt (some true) ∈
        Pipeline.inMemory.eventsThrough contradictedCheck ∧
      run.Announces (some true) ∧
      run.validationFailure.isSome ∧
      (Pipeline.inMemory.through
        contradictedCheck).regenerate.pipeline.awaited.isSome := by
  have reached : ∃ run,
      (Pipeline.inMemory.through contradictedCheck).run = some run ∧
        run.status = .completed ∧
        run.outputs.validate = some validWithViolation ∧
        run.attempt = 1 ∧
        .runCompleted run.id run.attempt (some true) ∈
          Pipeline.inMemory.eventsThrough contradictedCheck := by
    refine ⟨_, rfl, rfl, rfl, rfl, ?_⟩
    decide +kernel
  obtain ⟨run, current, completed, validate, first, event⟩ := reached
  have contradicted : run.IsContradicted := ⟨_, validate, _, _, rfl⟩
  have valid := run.announces_told.contradicted contradicted
  have announces := run.announces_told
  rw [valid] at announces
  have fails := announces.positive rfl
  have same : run.complete.1 = run := by
    rw [complete, ← completed]
  have shaped := Pipeline.isShaped_through ⟨MemoryStore.empty, 10, []⟩
    ⟨0, 0, ⟨0, 0⟩⟩ 3 contradictedCheck
  rw [same] at fails
  refine ⟨run, current, event, announces,
    fails.failure.mpr contradicted, ?_⟩
  refine (fails.regenerates shaped rfl current completed).mpr
    ⟨contradicted, ?_⟩
  rw [first]
  decide +kernel

end Run

end AgentPipeline
