import AgentPipeline.Proofs.Json.Nesting
import AgentPipeline.Proofs.Pipeline.Dispatch

/-!
# Verdicts

The summary of a validation is read from an output that may be any object.
Either of its two fields is found under several names, and the summary is read
as a whole: one field that cannot be read takes the other with it, and the
output then counts as one that says nothing.  Main statement: an output with a
negative verdict or a violation is a failure exactly if it is legible.
-/

namespace AgentPipeline

namespace ValidationSummary

def verdictNames : List String := ["valid", "conforms", "is_valid"]

def violationNames : List String := ["errors", "violations"]

/-- The values that an object has under any of some names. -/
def valuesUnder (names : List String) (members : List (String × Json)) :
    List Json :=
  (members.filter fun member => names.contains member.1).map Prod.snd

/-- The verdict, if there is at most one value and it is a truth value or
`null`. -/
def readVerdict : List Json → Option (Option Bool)
  | [] | [.null] => some none
  | [.bool value] => some (some value)
  | _ => none

/-- The violations, if there is at most one value and it is an array. -/
def readViolations : List Json → Option (List Json)
  | [] => some []
  | [.array items] => some (Json.sortedItems items)
  | _ => none

/-- Both fields can be read. -/
structure IsLegible (members : List (String × Json)) : Prop where
  verdict : (readVerdict (valuesUnder verdictNames members)).isSome
  violations : (readViolations (valuesUnder violationNames members)).isSome

/-- The object says that the validation has failed: under one of the names of
the verdict it has `false`, or under one of the names of the violations an
array that is not empty. -/
inductive IsNegative (members : List (String × Json)) : Prop where
  | verdict {name : String} (isName : name ∈ verdictNames)
      (stated : (name, .bool false) ∈ members)
  | violation {name : String} (isName : name ∈ violationNames) {item : Json}
      {items : List Json} (stated : (name, .array (item :: items)) ∈ members)

/-! ## The slots of the summary -/

/-- The slot of a field into which values are entered one after the other. -/
def enterAll : Option Document → List Json → Option (Option Document)
  | slot, [] => some slot
  | none, value :: values => enterAll (some (.ofJson value)) values
  | some _, _ :: _ => none

theorem valuesUnder_cons (names : List String) (name : String) (value : Json)
    (members : List (String × Json)) :
    valuesUnder names ((name, value) :: members) =
      if name ∈ names then value :: valuesUnder names members
      else valuesUnder names members := by
  by_cases isName : name ∈ names <;>
    simp [valuesUnder, isName]

/-- A value is entered where its name belongs, if that slot is free. -/
theorem enterMember_eq (name : String) (document : Document)
    (verdict violations : Option Document) :
    Decoder.enterMember fieldNames [verdict, violations]
        (⟨some name, true⟩, document) =
      if name ∈ verdictNames then
        if verdict.isSome then none else some [some document, violations]
      else if name ∈ violationNames then
        if violations.isSome then none else some [verdict, some document]
      else some [verdict, violations] := by
  have index : Decoder.fieldIndex? fieldNames name =
      if name ∈ verdictNames then some 0
      else if name ∈ violationNames then some 1
      else none := by
    have isNames : fieldNames = [verdictNames, violationNames] := rfl
    by_cases isVerdict : name ∈ verdictNames <;>
      by_cases isViolation : name ∈ violationNames <;>
        simp [Decoder.fieldIndex?, isNames, List.findIdx?_cons, isVerdict,
          isViolation]
  simp only [Decoder.enterMember, Option.bind_eq_bind, Option.bind_some,
    index]
  by_cases isVerdict : name ∈ verdictNames
  · cases verdict <;> simp [isVerdict]
  by_cases isViolation : name ∈ violationNames
  · cases violations <;> simp [isVerdict, isViolation]
  · simp [isVerdict, isViolation]

theorem foldlM_enterMember (members : List (String × Json))
    (verdict violations : Option Document) :
    (Document.ofMembers members).foldlM (Decoder.enterMember fieldNames)
        [verdict, violations] =
      (enterAll verdict (valuesUnder verdictNames members)).bind
        fun verdict =>
          (enterAll violations (valuesUnder violationNames members)).map
            fun violations => [verdict, violations] := by
  induction members generalizing verdict violations with
  | nil => rfl
  | cons member members ih =>
      obtain ⟨name, value⟩ := member
      rw [valuesUnder_cons, valuesUnder_cons, Document.ofMembers,
        List.foldlM_cons, enterMember_eq]
      have apart : ∀ name ∈ verdictNames, name ∉ violationNames := by decide
      by_cases isVerdict : name ∈ verdictNames
      · rw [if_pos isVerdict, if_pos isVerdict, if_neg (apart name isVerdict)]
        cases verdict with
        | none => exact ih _ _
        | some taken => rfl
      rw [if_neg isVerdict, if_neg isVerdict]
      by_cases isViolation : name ∈ violationNames
      · rw [if_pos isViolation, if_pos isViolation]
        cases violations with
        | none => exact ih _ _
        | some taken =>
            cases enterAll verdict (valuesUnder verdictNames members) <;> rfl
      · rw [if_neg isViolation, if_neg isViolation]
        exact ih _ _

/-! ## The values in the slots -/

theorem depth_le_of_mem {members : List (String × Json)} {name : String}
    {value : Json} (isMember : (name, value) ∈ members) :
    (Document.ofJson value).depth ≤
      Document.depthOfMembers (Document.ofMembers members) := by
  induction members with
  | nil => cases isMember
  | cons member members ih =>
      cases isMember with
      | head => exact Nat.le_max_left _ _
      | tail _ later => exact Nat.le_trans (ih later) (Nat.le_max_right _ _)

theorem mapM_payload {limit : Nat} {items : List Json}
    (fits : Document.depthOfItems (Document.ofItems items) ≤ limit) :
    (Document.ofItems items).mapM (Decoder.payload limit) =
      some (Json.sortedItems items) := by
  induction items with
  | nil => rfl
  | cons item items ih =>
      obtain ⟨itemFits, restFits⟩ := Nat.max_le.mp fits
      rw [Document.ofItems, List.mapM_cons, Decoder.payload,
        Document.value?_ofJson itemFits, ← Decoder.payload, ih restFits]
      rfl

theorem bind_enterAll_verdict (values : List Json) (limit : Nat) :
    (enterAll none values).bind
        (Decoder.absentOr Decoder.flag limit) = readVerdict values := by
  match values with
  | [] => rfl
  | [value] => cases value <;> rfl
  | first :: second :: rest => cases first <;> rfl

theorem bind_enterAll_violations {values : List Json} {limit : Nat}
    (fits : ∀ value ∈ values, (Document.ofJson value).depth ≤ limit) :
    (enterAll none values).bind (Decoder.defaulting []
        (Decoder.list Decoder.payload) limit) = readViolations values := by
  match values with
  | [] => rfl
  | [value] =>
      have valueFits := fits value (List.mem_singleton_self value)
      cases value with
      | array items =>
          cases limit with
          | zero => cases valueFits
          | succ inner => exact mapM_payload (Nat.le_of_succ_le_succ valueFits)
      | null | bool _ | number _ | string _ | object _ => cases limit <;> rfl
  | first :: second :: rest => cases first <;> rfl

/-- The summary of an object is that of its two fields, or silent if one of
them cannot be read. -/
theorem ofOutput_object (members : List (String × Json)) :
    ofOutput (.object members) =
      match readVerdict (valuesUnder verdictNames members),
        readViolations (valuesUnder violationNames members) with
      | some valid, some errors => ⟨valid, errors⟩
      | _, _ => silent := by
  let limit := Document.depthOfMembers (Document.ofMembers members)
  have fits : ∀ value ∈ valuesUnder violationNames members,
      (Document.ofJson value).depth ≤ limit := by
    intro value isValue
    obtain ⟨⟨name, same⟩, isMember, rfl⟩ := List.mem_map.mp isValue
    exact depth_le_of_mem (List.mem_filter.mp isMember).1
  have entered : Decoder.slotsOfMembers fieldNames
      (Document.ofMembers members) = _ := foldlM_enterMember members none none
  have isVerdict :=
    bind_enterAll_verdict (valuesUnder verdictNames members) limit
  have areViolations := bind_enterAll_violations fits
  simp only [ofOutput, Decoder.ofJson?, Document.ofJson, Document.depth,
    decoder, Decoder.record, entered]
  rw [← isVerdict, ← areViolations]
  cases enterAll none (valuesUnder verdictNames members) with
  | none => rfl
  | some verdict =>
      cases enterAll none (valuesUnder violationNames members) with
      | none =>
          simp only [Option.bind_some, Option.map_none, Option.bind_none]
          cases Decoder.absentOr Decoder.flag limit verdict <;> rfl
      | some violations =>
          simp only [Option.bind_some, Option.map_some, Option.bind_eq_bind]
          cases Decoder.absentOr Decoder.flag limit verdict with
          | none => rfl
          | some valid =>
              cases Decoder.defaulting [] (Decoder.list Decoder.payload)
                limit violations <;> rfl

theorem mem_valuesUnder {names : List String}
    {members : List (String × Json)} {value : Json} :
    value ∈ valuesUnder names members ↔
      ∃ name ∈ names, (name, value) ∈ members := by
  simp only [valuesUnder, List.mem_map, List.mem_filter,
    List.contains_iff_mem]
  constructor
  · rintro ⟨⟨name, value⟩, ⟨isMember, isName⟩, rfl⟩
    exact ⟨name, isName, isMember⟩
  · rintro ⟨name, isName, isMember⟩
    exact ⟨(name, value), ⟨isMember, isName⟩, rfl⟩

theorem isNegative_iff {members : List (String × Json)} :
    IsNegative members ↔
      .bool false ∈ valuesUnder verdictNames members ∨
        ∃ item items,
          .array (item :: items) ∈ valuesUnder violationNames members := by
  simp only [mem_valuesUnder]
  constructor
  · intro negative
    cases negative with
    | @verdict name isName stated => exact .inl ⟨name, isName, stated⟩
    | @violation name isName item items stated =>
        exact .inr ⟨item, items, name, isName, stated⟩
  · rintro (⟨name, isName, stated⟩ | ⟨item, items, name, isName, stated⟩)
    · exact .verdict isName stated
    · exact .violation isName stated

/-- A verdict that can be read is negative if `false` is among its values. -/
theorem readVerdict_eq_some {values : List Json} {valid : Option Bool}
    (isRead : readVerdict values = some valid) :
    valid = some false ↔ .bool false ∈ values := by
  unfold readVerdict at isRead
  split at isRead
  · cases isRead
    simp
  · cases isRead
    simp
  · cases isRead
    simp [eq_comm]
  · cases isRead

theorem readViolations_eq_some {values : List Json} {errors : List Json}
    (isRead : readViolations values = some errors) :
    errors ≠ [] ↔ ∃ item items, .array (item :: items) ∈ values := by
  unfold readViolations at isRead
  split at isRead
  · cases isRead
    simp
  next items =>
    cases isRead
    cases items <;> simp [Json.sortedItems]
  · cases isRead

theorem isFailure_ofOutput (members : List (String × Json)) :
    (ofOutput (.object members)).isFailure = true ↔
      IsLegible members ∧ IsNegative members := by
  rw [ofOutput_object, isNegative_iff]
  cases isVerdict : readVerdict (valuesUnder verdictNames members) with
  | none =>
      have notLegible : ¬IsLegible members := fun legible => by
        simpa [isVerdict] using legible.verdict
      simp [notLegible, silent, isFailure]
  | some valid =>
      cases areViolations :
          readViolations (valuesUnder violationNames members) with
      | none =>
          have notLegible : ¬IsLegible members := fun legible => by
            simpa [areViolations] using legible.violations
          simp [notLegible, silent, isFailure]
      | some errors =>
          have legible : IsLegible members :=
            ⟨by simp [isVerdict], by simp [areViolations]⟩
          rw [← readVerdict_eq_some isVerdict,
            ← readViolations_eq_some areViolations]
          simp [legible, isFailure]

end ValidationSummary

namespace Pipeline

variable {σ : Type} [KeyValueStore σ]

/-- Whether a completed run is regenerated depends on its verdict and on the
attempts that are left. -/
theorem regenerate_awaited_isSome
    {pipeline : Pipeline σ} (shaped : pipeline.IsShaped)
    (free : pipeline.awaited = none) {run : Run}
    (current : pipeline.run = some run)
    (completed : run.status = .completed) :
    pipeline.regenerate.pipeline.awaited.isSome ↔
      run.validationFailure.isSome ∧
        run.attempt < pipeline.maxAttempts := by
  have dispatches := regenerate_dispatches_iff shaped free
  have takes := regenerate_takes shaped free
  generalize pipeline.regenerate = turn at takes
  constructor
  · intro dispatched
    cases takes with
    | pass passes =>
        cases passes with
        | busy waiting _ =>
            rw [free] at waiting
            cases waiting
    | refuse _ refuses =>
        simp [refuse, free] at dispatched
    | conclude concludes => simp at dispatched
    | dispatch regenerates =>
        obtain ⟨regenerated, isCurrent, -, hasFailed, left⟩ :=
          dispatches.mp ⟨_, _, _, _, _, regenerates⟩
        obtain rfl := Option.some.inj (isCurrent.symm.trans current)
        exact ⟨hasFailed, left⟩
  · rintro ⟨hasFailed, left⟩
    cases takes with
    | pass passes =>
        cases passes with
        | busy waiting _ =>
            rw [free] at waiting
            cases waiting
    | refuse _ refuses =>
        cases refuses with
        | nothingToRegenerate noRun =>
            rw [current] at noRun
            cases noRun
        | notFailed isCurrent notFailed part =>
            obtain rfl := Option.some.inj (isCurrent.symm.trans current)
            rw [notFailed completed] at hasFailed
            cases hasFailed
        | exhausted isCurrent exhausted =>
            obtain rfl := Option.some.inj (isCurrent.symm.trans current)
            exact absurd left (UInt32.not_lt.mpr exhausted)
    | conclude concludes =>
        cases concludes with
        | cancel _ _ _ _ stops => cases stops
    | dispatch dispatched => rfl

end Pipeline

namespace Run

/-- What becomes of a run whose failure is seen if a condition holds. -/
structure FailsIf (run : Run) (condition : Prop) : Prop where
  failure : run.validationFailure.isSome ↔ condition
  /-- The completed run can be regenerated while attempts are left. -/
  regenerates {σ : Type} [KeyValueStore σ] {pipeline : Pipeline σ}
    (shaped : pipeline.IsShaped) (free : pipeline.awaited = none)
    (current : pipeline.run = some run)
    (completed : run.status = .completed) :
    pipeline.regenerate.pipeline.awaited.isSome ↔
      condition ∧ run.attempt < pipeline.maxAttempts

/-- A negative verdict is seen exactly if the output is legible: at most one
spelling of each field, a verdict that is a truth value or `null`, and
violations in an array.  Otherwise the output counts as one that says
nothing, whatever it says. -/
theorem failsIf_legible {run : Run} {members : List (String × Json)}
    (validate : run.outputs.validate = some (.object members)) :
    run.FailsIf (ValidationSummary.IsLegible members ∧
      ValidationSummary.IsNegative members) := by
  have failure : run.validationFailure.isSome ↔
      ValidationSummary.IsLegible members ∧
        ValidationSummary.IsNegative members := by
    rw [← ValidationSummary.isFailure_ofOutput, Option.isSome_iff_exists]
    constructor
    · rintro ⟨summary, isSome⟩
      obtain ⟨rfl, isFailure⟩ :=
        (validationFailure_eq_some validate).mp isSome
      exact isFailure
    · intro isFailure
      exact ⟨_, (validationFailure_eq_some validate).mpr ⟨rfl, isFailure⟩⟩
  refine ⟨failure, ?_⟩
  intro σ _ pipeline shaped free current completed
  rw [← failure]
  exact Pipeline.regenerate_awaited_isSome shaped free current completed

/-- The verdict `false`, next to violations that are `null`. -/
def nullViolations : List (String × Json) :=
  [("errors", .null), ("valid", .bool false)]

/-- A run whose validation answers with the verdict `false` next to violations
that are `null`. -/
def misreadCheck : List (Happening MemoryStore) :=
  [.occurrence (Pipeline.startShort .auto),
    .occurrence (.reply (.ok .null) 5),
    .occurrence (.reply (.ok (.bool true)) 7),
    .occurrence (.reply (.ok .null) 9),
    .occurrence (.reply (.ok (.object nullViolations)) 3)]

/-- The verdict is not seen, and the run cannot be regenerated. -/
theorem failsIf_misreadCheck :
    ValidationSummary.IsNegative nullViolations ∧
      ∃ run, (Pipeline.inMemory.through misreadCheck).run = some run ∧
        run.status = .completed ∧
        run.outputs.validate = some (.object nullViolations) ∧
        run.validationFailure.isSome = false ∧
        (Pipeline.inMemory.through
          misreadCheck).regenerate.pipeline.awaited.isSome = false := by
  have isNegative : ValidationSummary.IsNegative nullViolations :=
    .verdict (show "valid" ∈ _ by decide) (by decide)
  have notLegible : ¬(ValidationSummary.IsLegible nullViolations ∧
      ValidationSummary.IsNegative nullViolations) := by
    rintro ⟨legible, -⟩
    exact absurd legible.violations (by decide)
  have misread : ∃ run,
      (Pipeline.inMemory.through misreadCheck).run = some run ∧
        run.status = .completed ∧
        run.outputs.validate = some (.object nullViolations) :=
    ⟨_, rfl, rfl, rfl⟩
  obtain ⟨run, current, completed, validate⟩ := misread
  have fails := failsIf_legible validate
  have shaped := Pipeline.isShaped_through ⟨MemoryStore.empty, 10, []⟩
    ⟨0, 0, ⟨0, 0⟩⟩ 3 misreadCheck
  refine ⟨isNegative, run, current, completed, validate, ?_, ?_⟩
  · exact Bool.eq_false_iff.mpr fun seen =>
      notLegible (fails.failure.mp seen)
  · exact Bool.eq_false_iff.mpr fun awaited =>
      notLegible ((fails.regenerates shaped rfl current completed).mp
        awaited).1

end Run

end AgentPipeline
