import AgentPipeline.Proofs.Codec.Carried
import AgentPipeline.Proofs.Json.Unchanged
import AgentPipeline.Run.Basic
import Mathlib.Data.List.Forall2

/-!
# The names of fields

A field that has had several names is read under any of them, in any order and
among members of other names, but only once; it is written under the first.
Main statement: `namesAreFree`.
-/

namespace AgentPipeline

namespace Decoder

variable {α : Type} {fields spellings : FieldNames}

/-! ## Other spellings -/

def IsNamed (names : List String) (member : Spelling × Document) : Prop :=
  ∃ name ∈ names, member.1.value = some name

/-- The same document under the same name or under another name of its
field. -/
structure Renamed (spellings : FieldNames)
    (member other : Spelling × Document) : Prop where
  document : other.2 = member.2
  name : other.1.value = member.1.value ∨
    ∃ names ∈ spellings, IsNamed names member ∧ IsNamed names other

/-- The same members in any order, each under any name of its field. -/
def Respelled (spellings : FieldNames)
    (members others : List (Spelling × Document)) : Prop :=
  ∃ renamed, List.Forall₂ (Renamed spellings) members renamed ∧
    renamed.Perm others

/-- A further member, at any place, for a field that has one. -/
inductive Doubled (spellings : FieldNames)
    (members others : List (Spelling × Document)) : Prop where
  | intro {names : List String} (isField : names ∈ spellings)
      {present added : Spelling × Document} (isPresent : present ∈ members)
      (isNamed : IsNamed names present) (addedNamed : IsNamed names added)
      (others : others.Perm (added :: members))

/-- What becomes of an object whose fields are spelled in another way. -/
structure SpellsFreely (decoder : Decoder α) (spellings : FieldNames) :
    Prop where
  respelled {members others : List (Spelling × Document)}
    (same : Respelled spellings members others) (limit : Nat) :
    decoder limit (.object others) = decoder limit (.object members)
  doubled {members others : List (Spelling × Document)}
    (twice : Doubled spellings members others) (limit : Nat) :
    decoder limit (.object others) = none

/-! ## The members of one field -/

/-- The field that a member belongs to. -/
def memberIndex? (fields : FieldNames) (member : Spelling × Document) :
    Option Nat :=
  member.1.value.bind (fieldIndex? fields)

/-- The documents that an object gives for a field. -/
def documentsFor (fields : FieldNames) (index : Nat)
    (members : List (Spelling × Document)) : List Document :=
  (members.filter fun member =>
    memberIndex? fields member == some index).map Prod.snd

/-- The document in a slot, if there is one. -/
def slotDocuments (slots : List (Option Document)) (index : Nat) :
    List Document :=
  slots[index]?.join.toList

theorem documentsFor_cons (fields : FieldNames) (index : Nat)
    (member : Spelling × Document) (members : List (Spelling × Document)) :
    documentsFor fields index (member :: members) =
      documentsFor fields index [member] ++
        documentsFor fields index members := by
  rw [← List.singleton_append, documentsFor, List.filter_append,
    List.map_append]
  rfl

theorem documentsFor_singleton (fields : FieldNames) (index : Nat)
    (member : Spelling × Document) :
    documentsFor fields index [member] =
      if memberIndex? fields member = some index then [member.2] else [] := by
  by_cases isField : memberIndex? fields member = some index <;>
    simp [documentsFor, isField]

theorem documentsFor_perm (fields : FieldNames) (index : Nat)
    {members others : List (Spelling × Document)}
    (rearranged : members.Perm others) :
    (documentsFor fields index members).Perm
      (documentsFor fields index others) :=
  (rearranged.filter _).map _

theorem length_slotDocuments_le (slots : List (Option Document))
    (index : Nat) : (slotDocuments slots index).length ≤ 1 := by
  unfold slotDocuments
  cases slots[index]?.join <;> simp

/-- Slots with the same documents are the same. -/
theorem eq_of_slotDocuments {slots others : List (Option Document)}
    (sameLength : slots.length = others.length)
    (same : ∀ index, slotDocuments slots index = slotDocuments others index) :
    slots = others := by
  refine List.ext_getElem sameLength fun index inside insideOther => ?_
  have slot := same index
  unfold slotDocuments at slot
  rw [List.getElem?_eq_getElem inside, List.getElem?_eq_getElem insideOther,
    Option.join_some, Option.join_some] at slot
  cases isSlot : slots[index] <;> cases isOther : others[index] <;>
    simp_all

theorem memberIndex?_lt {member : Spelling × Document} {index : Nat}
    (isField : memberIndex? fields member = some index) :
    index < fields.length := by
  obtain ⟨_, -, found⟩ := Option.bind_eq_some_iff.mp isField
  exact (List.findIdx?_eq_some_iff_getElem.mp found).1

/-! ## Entering members -/

/-- A member whose name can be read is added to what its field has, unless
the field has a member already. -/
theorem enterMember_cases {slots : List (Option Document)}
    (allFields : slots.length = fields.length)
    (member : Spelling × Document) :
    (∃ next, enterMember fields slots member = some next ∧
      member.1.value.isSome ∧ next.length = fields.length ∧
      ∀ index, slotDocuments next index =
        slotDocuments slots index ++ documentsFor fields index [member]) ∨
    (enterMember fields slots member = none ∧
      (member.1.value = none ∨ ∃ index, 1 < (slotDocuments slots index ++
        documentsFor fields index [member]).length)) := by
  cases isName : member.1.value with
  | none => exact .inr ⟨by simp [enterMember, isName], .inl rfl⟩
  | some name =>
  have indexOf : memberIndex? fields member = fieldIndex? fields name := by
    rw [memberIndex?, isName, Option.bind_some]
  cases isField : fieldIndex? fields name with
  | none =>
      refine .inl ⟨slots, by simp [enterMember, isName, isField], rfl,
        allFields, fun index => ?_⟩
      simp [documentsFor_singleton, indexOf, isField]
  | some place =>
      rw [isField] at indexOf
      have inside : place < slots.length := allFields ▸ memberIndex?_lt indexOf
      cases taken : slots[place] with
      | none =>
          refine .inl ⟨slots.set place (some member.2), ?_, rfl,
            List.length_set.trans allFields, fun index => ?_⟩
          · simp [enterMember, isName, isField, inside, taken]
          · by_cases isPlace : place = index
            · subst isPlace
              simp [slotDocuments, documentsFor_singleton, indexOf, inside,
                taken]
            · simp [slotDocuments, documentsFor_singleton, indexOf, isPlace]
      | some document =>
          refine .inr ⟨?_, .inr ⟨place, ?_⟩⟩
          · simp [enterMember, isName, isField, inside, taken]
          · simp [slotDocuments, documentsFor_singleton, indexOf, inside,
              taken]

/-- The slots hold what the members give for each field, if all names can be
read. -/
theorem foldlM_enterMember_eq_some_iff
    {members : List (Spelling × Document)}
    {start slots : List (Option Document)}
    (allFields : start.length = fields.length) :
    members.foldlM (enterMember fields) start = some slots ↔
      (∀ member ∈ members, member.1.value.isSome) ∧
        slots.length = fields.length ∧
          ∀ index, slotDocuments slots index =
            slotDocuments start index ++
              documentsFor fields index members := by
  induction members generalizing start with
  | nil =>
      simp only [List.foldlM_nil, Option.pure_def, Option.some.injEq,
        List.not_mem_nil, documentsFor, List.filter_nil, List.map_nil,
        List.append_nil]
      constructor
      · rintro rfl
        exact ⟨by simp, allFields, fun _ => rfl⟩
      · rintro ⟨-, length, same⟩
        exact (eq_of_slotDocuments (length.trans allFields.symm) same).symm
  | cons member members ih =>
      rw [List.foldlM_cons, List.forall_mem_cons]
      simp only [documentsFor_cons fields _ member members,
        ← List.append_assoc]
      rcases enterMember_cases allFields member with
        ⟨next, entered, readable, length, added⟩ | ⟨refused, reason⟩
      · simp only [entered, Option.bind_eq_bind, Option.bind_some, readable,
          true_and, ih length, added]
      · simp only [refused, Option.bind_eq_bind, Option.bind_none, reduceCtorEq,
          false_iff]
        rintro ⟨⟨readable, -⟩, -, same⟩
        rcases reason with unreadable | ⟨index, two⟩
        · simp [unreadable] at readable
        · have one := length_slotDocuments_le slots index
          rw [same index, List.length_append] at one
          omega

theorem slotsOfMembers_eq_some_iff {members : List (Spelling × Document)}
    {slots : List (Option Document)} :
    slotsOfMembers fields members = some slots ↔
      (∀ member ∈ members, member.1.value.isSome) ∧
        slots.length = fields.length ∧
          ∀ index, slotDocuments slots index =
            documentsFor fields index members := by
  have empty (index : Nat) : slotDocuments
      (fields.map fun _ => (none : Option Document)) index = [] := by
    unfold slotDocuments
    cases found : (fields.map fun _ => (none : Option Document))[index]? with
    | none => rfl
    | some slot =>
        obtain ⟨_, -, rfl⟩ := List.mem_map.mp (List.mem_of_getElem? found)
        rfl
  rw [slotsOfMembers, foldlM_enterMember_eq_some_iff (List.length_map _)]
  simp only [empty, List.nil_append]

/-- A field with two members makes a record unreadable. -/
theorem slotsOfMembers_eq_none {members : List (Spelling × Document)}
    {index : Nat} (two : 1 < (documentsFor fields index members).length) :
    slotsOfMembers fields members = none := by
  refine Option.eq_none_iff_forall_ne_some.mpr fun slots entered => ?_
  obtain ⟨-, -, same⟩ := slotsOfMembers_eq_some_iff.mp entered
  have one := length_slotDocuments_le slots index
  rw [same index] at one
  omega

private theorem slotsOfMembers_of_perm
    {members others : List (Spelling × Document)}
    (readable : (∀ member ∈ members, member.1.value.isSome) →
      ∀ member ∈ others, member.1.value.isSome)
    (same : ∀ index, (documentsFor fields index members).Perm
      (documentsFor fields index others)) {slots : List (Option Document)}
    (entered : slotsOfMembers fields members = some slots) :
    slotsOfMembers fields others = some slots := by
  obtain ⟨read, length, documents⟩ := slotsOfMembers_eq_some_iff.mp entered
  refine slotsOfMembers_eq_some_iff.mpr
    ⟨readable read, length, fun index => ?_⟩
  have rearranged := same index
  rw [← documents index] at rearranged
  have one := length_slotDocuments_le slots index
  match held : slotDocuments slots index with
  | [] =>
      rw [held] at rearranged
      exact (List.nil_perm.mp rearranged).symm
  | [document] =>
      rw [held] at rearranged
      exact List.singleton_perm.mp rearranged
  | first :: second :: rest => simp [held] at one

/-- Objects that give the same documents for every field fill the slots
alike. -/
theorem slotsOfMembers_congr {members others : List (Spelling × Document)}
    (readable : (∀ member ∈ members, member.1.value.isSome) ↔
      ∀ member ∈ others, member.1.value.isSome)
    (same : ∀ index, (documentsFor fields index members).Perm
      (documentsFor fields index others)) :
    slotsOfMembers fields members = slotsOfMembers fields others :=
  Option.ext fun _ =>
    ⟨slotsOfMembers_of_perm readable.mp same,
      slotsOfMembers_of_perm readable.mpr fun index => (same index).symm⟩

/-! ## Fields with several names -/

/-- The names of one field all have one place. -/
def Places (fields spellings : FieldNames) : Prop :=
  ∀ names ∈ spellings, ∀ name ∈ names, ∀ other ∈ names,
    (fieldIndex? fields name).isSome ∧
      fieldIndex? fields other = fieldIndex? fields name

instance : Decidable (Places fields spellings) :=
  inferInstanceAs (Decidable (∀ names ∈ spellings, ∀ name ∈ names,
    ∀ other ∈ names, (fieldIndex? fields name).isSome ∧
      fieldIndex? fields other = fieldIndex? fields name))

theorem IsNamed.exists_index (places : Places fields spellings)
    {names : List String} (isField : names ∈ spellings)
    {member other : Spelling × Document} (isNamed : IsNamed names member)
    (otherNamed : IsNamed names other) :
    ∃ index, memberIndex? fields member = some index ∧
      memberIndex? fields other = some index := by
  obtain ⟨name, isName, value⟩ := isNamed
  obtain ⟨second, isSecond, otherValue⟩ := otherNamed
  obtain ⟨found, same⟩ := places names isField name isName second isSecond
  obtain ⟨index, isIndex⟩ := Option.isSome_iff_exists.mp found
  refine ⟨index, ?_, ?_⟩
  · rw [memberIndex?, value, Option.bind_some, isIndex]
  · rw [memberIndex?, otherValue, Option.bind_some, same, isIndex]

namespace Renamed

variable {member other : Spelling × Document}

theorem isSome_eq (renamed : Renamed spellings member other) :
    other.1.value.isSome = member.1.value.isSome := by
  rcases renamed.name with same | ⟨_, -, ⟨_, -, name⟩, ⟨_, -, second⟩⟩
  · rw [same]
  · rw [name, second]
    rfl

theorem memberIndex?_eq (renamed : Renamed spellings member other)
    (places : Places fields spellings) :
    memberIndex? fields other = memberIndex? fields member := by
  rcases renamed.name with same | ⟨_, isField, isNamed, otherNamed⟩
  · rw [memberIndex?, same, memberIndex?]
  · obtain ⟨_, index, otherIndex⟩ :=
      isNamed.exists_index places isField otherNamed
    rw [index, otherIndex]

end Renamed

theorem documentsFor_of_renamed (places : Places fields spellings)
    {members renamed : List (Spelling × Document)}
    (each : List.Forall₂ (Renamed spellings) members renamed) (index : Nat) :
    documentsFor fields index renamed = documentsFor fields index members := by
  induction each with
  | nil => rfl
  | @cons member _ members _ one _ ih =>
      rw [documentsFor_cons, documentsFor_cons fields index member members,
        ih, documentsFor_singleton, documentsFor_singleton,
        one.memberIndex?_eq places, one.document]

theorem isSome_of_renamed {members renamed : List (Spelling × Document)}
    (each : List.Forall₂ (Renamed spellings) members renamed) :
    (∀ member ∈ renamed, member.1.value.isSome) ↔
      ∀ member ∈ members, member.1.value.isSome := by
  induction each with
  | nil => exact Iff.rfl
  | cons one _ ih =>
      rw [List.forall_mem_cons, List.forall_mem_cons, ih, one.isSome_eq]

theorem map_snd_of_renamed {members renamed : List (Spelling × Document)}
    (each : List.Forall₂ (Renamed spellings) members renamed) :
    renamed.map Prod.snd = members.map Prod.snd := by
  induction each with
  | nil => rfl
  | cons one _ ih => rw [List.map_cons, List.map_cons, one.document, ih]

theorem slotsOfMembers_of_respelled (places : Places fields spellings)
    {members others : List (Spelling × Document)}
    (same : Respelled spellings members others) :
    slotsOfMembers fields others = slotsOfMembers fields members := by
  obtain ⟨renamed, each, rearranged⟩ := same
  refine slotsOfMembers_congr ?_ fun index => ?_
  · rw [← isSome_of_renamed each]
    exact forall_congr' fun member => by rw [rearranged.mem_iff]
  · rw [← documentsFor_of_renamed places each]
    exact documentsFor_perm fields index rearranged.symm

theorem slotsOfMembers_of_doubled (places : Places fields spellings)
    {members others : List (Spelling × Document)}
    (twice : Doubled spellings members others) :
    slotsOfMembers fields others = none := by
  cases twice with
  | @intro names isField present added isPresent isNamed addedNamed rearranged =>
  obtain ⟨index, presentIndex, addedIndex⟩ :=
    isNamed.exists_index places isField addedNamed
  have given : 0 < (documentsFor fields index members).length := by
    have isMember : present ∈ members.filter fun member =>
        memberIndex? fields member == some index :=
      List.mem_filter.mpr ⟨isPresent, beq_iff_eq.mpr presentIndex⟩
    exact List.length_pos_of_mem (List.mem_map_of_mem isMember)
  have two : 1 < (documentsFor fields index others).length := by
    have length := (documentsFor_perm fields index rearranged).length_eq
    rw [documentsFor_cons, List.length_append, documentsFor_singleton,
      if_pos addedIndex, List.length_singleton] at length
    omega
  exact slotsOfMembers_eq_none two

theorem record_spellsFreely
    {build : Nat → List (Option Document) → Option α}
    (places : Places fields spellings) :
    (record fields build).SpellsFreely spellings where
  respelled same limit := by
    cases limit with
    | zero => rfl
    | succ inner => rw [record, record, slotsOfMembers_of_respelled places same]
  doubled twice limit := by
    cases limit with
    | zero => rfl
    | succ inner => rw [record, slotsOfMembers_of_doubled places twice]; rfl

/-! ## Written names -/

theorem map_fst_membersOfSlots (names : List String)
    (slots : List (Option Json)) :
    ((membersOfSlots names slots).map Prod.fst).Sublist names := by
  induction names generalizing slots with
  | nil => exact .slnil
  | cons name names ih =>
      match slots with
      | [] => exact List.nil_sublist _
      | none :: slots => exact (ih slots).cons name
      | some _ :: slots => exact (ih slots).cons_cons name

/-- The value is written as an object, whose members have the first names of
their fields. -/
def WritesFirstNames (spellings : FieldNames) (written : Json) : Prop :=
  ∃ members, written = .object members ∧
    (members.map Prod.fst).Sublist (spellings.filterMap List.head?)

end Decoder

open Decoder

namespace StartedRun

def spellings : FieldNames := [["run_id", "id"]]

theorem decoder_restores (limit : Nat) (started : StartedRun) :
    decoder.Restores (limit + 1) started.encode started := rfl

end StartedRun

namespace RunSnapshot

def spellings : FieldNames :=
  [["status"], ["cursor", "offset", "next_offset"], ["items", "progress"],
    ["tokens"], ["metrics_table"], ["error"]]

theorem encode_writesFirstNames (snapshot : RunSnapshot) :
    WritesFirstNames spellings snapshot.encode :=
  ⟨_, snapshot.encode_eq, map_fst_membersOfSlots _ _⟩

/-- What was read and is written again comes back up to its table of metrics,
and as it was exactly if the floating-point numbers in the table are read
back. -/
structure ComesBack (snapshot : RunSnapshot) : Prop where
  upToMetrics {back : RunSnapshot}
    (read : decoder.parse? snapshot.encode.text = some back) :
    back = { snapshot with metrics := back.metrics }
  exactly : decoder.parse? snapshot.encode.text = some snapshot ↔
    ∀ number ∈ snapshot.floats, (Number.float number).ReadsBack

theorem rereadMetrics_eq_self_iff {snapshot : RunSnapshot} {limit : Nat}
    (isHeld : snapshot.IsHeld)
    (nests : snapshot.encode.Nests (limit + 4)) :
    EvaluatorRun.rereadMetrics (limit + 3) snapshot.metrics =
        some snapshot.metrics ↔
      ∀ number ∈ snapshot.floats, (Number.float number).ReadsBack := by
  unfold floats EvaluatorRun.rereadMetrics
  cases present : snapshot.metrics with
  | none =>
      have absent := absentOr_none payload (limit + 3)
      exact ⟨fun _ => by rintro _ ⟨⟩, fun _ => absent⟩
  | some table =>
      have isPayload := isHeld table present
      have tableNests := nests_encode.mp nests table present
      have inTable : Json.optionalFloats (some table) = table.floats := by
        simp [Json.optionalFloats]
      rw [absentOr_reread isPayload.given, payload, inTable,
        ← Json.reread_bind_value?_iff isPayload.isHeld tableNests]
      cases table.reread.bind (Document.value? (limit + 3)) <;> simp

theorem comesBack_of_parse? {text : String} {snapshot : RunSnapshot}
    (read : decoder.parse? text = some snapshot) : snapshot.ComesBack := by
  obtain ⟨isHeld, nests⟩ := decoder_gives.of_parse? read
  have again : decoder.parse? snapshot.encode.text =
      (EvaluatorRun.rereadMetrics 126 snapshot.metrics).map
        fun metrics => { snapshot with metrics } := by
    rw [Decoder.parse?, Json.parse?_text]
    exact snapshot.decoder_reread 123
  constructor
  case upToMetrics =>
    intro back isBack
    rw [again] at isBack
    obtain ⟨metrics, -, rfl⟩ := Option.map_eq_some_iff.mp isBack
    rfl
  case exactly =>
    rw [again, ← rereadMetrics_eq_self_iff isHeld nests,
      Option.map_eq_some_iff]
    constructor
    · rintro ⟨metrics, isRead, same⟩
      rw [← same] at isRead ⊢
      exact isRead
    · exact fun isRead => ⟨_, isRead, rfl⟩

end RunSnapshot

/-! ## Outputs of the validate stage -/

theorem Document.depthOfMembers_le_iff {members : List (Spelling × Document)}
    {limit : Nat} :
    depthOfMembers members ≤ limit ↔
      ∀ document ∈ members.map Prod.snd, document.depth ≤ limit := by
  induction members with
  | nil => simp [depthOfMembers]
  | cons member members ih =>
      rw [depthOfMembers, Nat.max_le, ih, List.map_cons,
        List.forall_mem_cons]

theorem Decoder.Respelled.depthOfMembers_eq {spellings : FieldNames}
    {members others : List (Spelling × Document)}
    (same : Respelled spellings members others) :
    Document.depthOfMembers others = Document.depthOfMembers members := by
  obtain ⟨renamed, each, rearranged⟩ := same
  have sameLimits (limit : Nat) : Document.depthOfMembers others ≤ limit ↔
      Document.depthOfMembers members ≤ limit := by
    simp only [Document.depthOfMembers_le_iff,
      ← (rearranged.map Prod.snd).mem_iff, map_snd_of_renamed each]
  exact Nat.le_antisymm ((sameLimits _).mpr (Nat.le_refl _))
    ((sameLimits _).mp (Nat.le_refl _))

namespace ValidationSummary

def spellings : FieldNames :=
  [["valid", "conforms", "is_valid"], ["errors", "violations"]]

theorem decoder_spellsFreely : decoder.SpellsFreely spellings :=
  record_spellsFreely (by decide)

theorem ofOutput_respelled {members others : List (String × Json)}
    (same : Respelled spellings (Document.ofMembers members)
      (Document.ofMembers others)) :
    ofOutput (.object others) = ofOutput (.object members) := by
  simp only [ofOutput, ofJson?, Document.ofJson, Document.depth,
    same.depthOfMembers_eq, decoder_spellsFreely.respelled same]

theorem ofOutput_doubled {members others : List (String × Json)}
    (twice : Doubled spellings (Document.ofMembers members)
      (Document.ofMembers others)) :
    ofOutput (.object others) = silent := by
  simp only [ofOutput, ofJson?, Document.ofJson,
    decoder_spellsFreely.doubled twice, Option.getD_none]

end ValidationSummary

/-! ## All together -/

/-- How the fields with several names are read and written. -/
structure NamesAreFree : Prop where
  snapshot : RunSnapshot.decoder.SpellsFreely RunSnapshot.spellings
  started : StartedRun.decoder.SpellsFreely StartedRun.spellings
  summary :
    ValidationSummary.decoder.SpellsFreely ValidationSummary.spellings
  output {members others : List (String × Json)}
    (same : Respelled ValidationSummary.spellings
      (Document.ofMembers members) (Document.ofMembers others)) :
    ValidationSummary.ofOutput (.object others) =
      ValidationSummary.ofOutput (.object members)
  outputTwice {members others : List (String × Json)}
    (twice : Doubled ValidationSummary.spellings
      (Document.ofMembers members) (Document.ofMembers others)) :
    ValidationSummary.ofOutput (.object others) = .silent
  snapshotWritten (snapshot : RunSnapshot) :
    WritesFirstNames RunSnapshot.spellings snapshot.encode
  startedWritten (started : StartedRun) :
    WritesFirstNames StartedRun.spellings started.encode
  snapshotAgain {text : String} {snapshot : RunSnapshot}
    (read : RunSnapshot.decoder.parse? text = some snapshot) :
    snapshot.ComesBack
  startedAgain (started : StartedRun) :
    StartedRun.decoder.parse? started.encode.text = some started

theorem namesAreFree : NamesAreFree where
  snapshot := record_spellsFreely (by decide)
  started := record_spellsFreely (by decide)
  summary := ValidationSummary.decoder_spellsFreely
  output := ValidationSummary.ofOutput_respelled
  outputTwice := ValidationSummary.ofOutput_doubled
  snapshotWritten := RunSnapshot.encode_writesFirstNames
  startedWritten started := ⟨_, rfl, .refl _⟩
  snapshotAgain := RunSnapshot.comesBack_of_parse?
  startedAgain started := (started.decoder_restores 126).parse?

/-- The answer to a poll with the table of metrics 8.2e-22. -/
def RunSnapshot.drifting : String :=
  "\x7b\"status\":\"completed\",\"cursor\":1,\"metrics_table\":8.2e-22\x7d"

/-- What is read of it is written with the digits 8.200000000000001e-22, which
are read as another number. -/
theorem drifting_changes :
    ∃ snapshot, RunSnapshot.decoder.parse? RunSnapshot.drifting =
        some snapshot ∧
      RunSnapshot.decoder.parse? snapshot.encode.text ≠ some snapshot := by
  refine ⟨(RunSnapshot.decoder.parse? RunSnapshot.drifting).get ?_, ?_, ?_⟩
  · decide +kernel
  · simp
  · decide +kernel

end AgentPipeline
