import AgentPipeline.Proofs.Json.Nesting
import AgentPipeline.Proofs.SortedMap.Merge

/-!
# Payloads

A payload is carried without being looked into.  It comes back from its text if
its floating-point numbers do and it is held in canonical form; and what the
reader gives is held in this form.
Main statements: `reread_bind_value?`, `Document.isHeld_of_parse?`.
-/

namespace AgentPipeline

namespace Number

/-- An integer has 64 bits. -/
def IsHeld : Number → Prop
  | .integer value =>
      -((UInt64.size / 2 : Nat) : Int) ≤ value ∧ value < UInt64.size
  | .float _ => True

/-- The number is what the reader makes of its digits. -/
def ReadsBack (number : Number) : Prop :=
  (Json.numberParts? number).bind Json.NumberParts.value? = some number

end Number

/-- A finite number that the reader makes of its digits. -/
structure Double.ReadsBack (number : Double) : Prop where
  isFinite : number.isFinite = true
  readsBack : (Number.float number).ReadsBack

namespace Json

mutual

/-- The numbers in a value. -/
def numbers : Json → List Number
  | .number value => [value]
  | .array items => numbersOfItems items
  | .object members => numbersOfMembers members
  | _ => []

def numbersOfItems : List Json → List Number
  | [] => []
  | item :: rest => numbers item ++ numbersOfItems rest

def numbersOfMembers : List (String × Json) → List Number
  | [] => []
  | (_, value) :: rest => numbers value ++ numbersOfMembers rest

end

/-- The floating-point numbers in a value. -/
def floats (value : Json) : List Double :=
  value.numbers.filterMap fun number => match number with
    | .integer _ => none
    | .float value => some value

/-- All numbers in the value are read back. -/
def ReadsBack (value : Json) : Prop :=
  ∀ number ∈ value.numbers, number.ReadsBack

/-- A value as the program holds it: in canonical form, with integers of 64
bits. -/
structure IsHeld (value : Json) : Prop where
  isSorted : value.sorted = value
  numbers : ∀ number ∈ value.numbers, number.IsHeld

end Json

/-! ## Numbers -/

namespace Number

/-- An integer of 64 bits is read back. -/
theorem IsHeld.readsBack {value : Int} (held : (integer value).IsHeld) :
    (integer value).ReadsBack := by
  obtain ⟨lower, upper⟩ := held
  cases value with
  | ofNat value =>
      have bounded : value < UInt64.size := Int.ofNat_lt.mp upper
      have parts := Json.numberParts?_nat value
      rw [ReadsBack, show Int.ofNat value = (value : Int) from rfl, parts]
      exact Json.NumberParts.value?_nat bounded
  | negSucc value =>
      have bounded : value < UInt64.size / 2 := by omega
      rw [ReadsBack, Json.numberParts?_negSucc]
      exact Json.NumberParts.value?_negSucc bounded

/-- What the reader gives has 64 bits. -/
theorem isHeld_of_value? {parts : Json.NumberParts} {number : Number}
    (read : parts.value? = some number) : number.IsHeld := by
  have ofDouble : parts.double?.map .float = some number → number.IsHeld := by
    intro isDouble
    obtain ⟨_, -, rfl⟩ := Option.map_eq_some_iff.mp isDouble
    trivial
  unfold Json.NumberParts.value? at read
  dsimp only at read
  split at read
  · split at read
    · split at read
      next small =>
        cases read
        refine ⟨?_, ?_⟩ <;> simp only [UInt64.size] at * <;> omega
      · exact ofDouble read
    · split at read
      next small =>
        cases read
        refine ⟨?_, ?_⟩ <;> simp only [UInt64.size] at * <;> omega
      · exact ofDouble read
  · exact ofDouble read

end Number

namespace Json

/-- With the floating-point numbers all numbers are read back. -/
theorem IsHeld.readsBack_iff {value : Json} (held : value.IsHeld) :
    value.ReadsBack ↔
      ∀ number ∈ value.floats, (Number.float number).ReadsBack := by
  constructor
  · intro readsBack number isFloat
    obtain ⟨found, isNumber, same⟩ := List.mem_filterMap.mp isFloat
    cases found with
    | integer => cases same
    | float =>
        cases same
        exact readsBack _ isNumber
  · intro floats number isNumber
    cases number with
    | integer integer => exact (held.numbers _ isNumber).readsBack
    | float double =>
        exact floats double (List.mem_filterMap.mpr ⟨_, isNumber, rfl⟩)

theorem IsHeld.readsBack {value : Json} (held : value.IsHeld)
    (floats : ∀ number ∈ value.floats, number.ReadsBack) :
    value.ReadsBack :=
  held.readsBack_iff.mpr fun number isFloat =>
    (floats number isFloat).readsBack

theorem mem_numbersOfMembers {number : Number}
    {members : List (String × Json)} :
    number ∈ numbersOfMembers members ↔
      ∃ member ∈ members, number ∈ member.2.numbers := by
  induction members with
  | nil => simp [numbersOfMembers]
  | cons member members ih =>
      obtain ⟨key, value⟩ := member
      simp [numbersOfMembers, ih]

@[simp]
theorem readsBack_string (text : String) : (string text).ReadsBack := by
  rintro _ ⟨⟩

@[simp]
theorem readsBack_word32 (value : UInt32) : (word32 value).ReadsBack := by
  intro number isNumber
  obtain rfl := List.mem_singleton.mp isNumber
  have bounded := value.toNat_lt_size
  refine Number.IsHeld.readsBack ⟨?_, ?_⟩ <;>
    simp only [UInt32.size, UInt64.size] at * <;> omega

/-! ## Coming back -/

mutual

/-- A value whose numbers are read back is read back in canonical form. -/
theorem reread_bind_value? {limit : Nat} : ∀ {value : Json},
    value.ReadsBack → value.Nests limit →
      value.reread.bind (Document.value? limit) = some value.sorted
  | .null, _, _ | .bool _, _, _ | .string _, _, _ => rfl
  | .number given, readsBack, _ => by
      have read : (numberParts? given).bind NumberParts.value? = some given :=
        readsBack given List.mem_cons_self
      obtain ⟨parts, isParts, isNumber⟩ := Option.bind_eq_some_iff.mp read
      simp only [reread, isParts, Option.map_some, Option.bind_some,
        Document.value?, isNumber, sorted]
  | .array items, readsBack, fits => by
      cases limit with
      | zero => cases fits
      | succ inner =>
          obtain ⟨documents, itemsRead, values⟩ := Option.bind_eq_some_iff.mp
            (rereadItems_bind_items? readsBack (Nat.le_of_succ_le_succ fits))
          simp only [reread, itemsRead, Option.map_some, Option.bind_some,
            Document.value?, values, sorted]
  | .object members, readsBack, fits => by
      cases limit with
      | zero => cases fits
      | succ inner =>
          obtain ⟨documents, membersRead, entries⟩ :=
            Option.bind_eq_some_iff.mp (rereadMembers_bind_members? readsBack
              (Nat.le_of_succ_le_succ fits))
          simp only [reread, membersRead, Option.map_some, Option.bind_some,
            Document.value?, entries, sorted]

theorem rereadItems_bind_items? {limit : Nat} : ∀ {items : List Json},
    (∀ number ∈ numbersOfItems items, number.ReadsBack) →
      Document.depthOfItems (Document.ofItems items) ≤ limit →
        (rereadItems items).bind (Document.items? limit) =
          some (sortedItems items)
  | [], _, _ => rfl
  | item :: rest, readsBack, fits => by
      obtain ⟨itemFits, restFits⟩ := Nat.max_le.mp fits
      rw [numbersOfItems, List.forall_mem_append] at readsBack
      obtain ⟨document, itemRead, value⟩ := Option.bind_eq_some_iff.mp
        (reread_bind_value? readsBack.1 itemFits)
      obtain ⟨documents, restRead, values⟩ := Option.bind_eq_some_iff.mp
        (rereadItems_bind_items? readsBack.2 restFits)
      simp only [rereadItems, itemRead, restRead, Option.bind_some,
        Option.map_some, Document.items?, value, values, sortedItems]

theorem rereadMembers_bind_members? {limit : Nat} :
    ∀ {members : List (String × Json)},
      (∀ number ∈ numbersOfMembers members, number.ReadsBack) →
        Document.depthOfMembers (Document.ofMembers members) ≤ limit →
          (rereadMembers members).bind (Document.members? limit) =
            some (sortedMembers members)
  | [], _, _ => rfl
  | (key, value) :: rest, readsBack, fits => by
      obtain ⟨valueFits, restFits⟩ := Nat.max_le.mp fits
      rw [numbersOfMembers, List.forall_mem_append] at readsBack
      obtain ⟨document, valueRead, value⟩ := Option.bind_eq_some_iff.mp
        (reread_bind_value? readsBack.1 valueFits)
      obtain ⟨documents, restRead, entries⟩ := Option.bind_eq_some_iff.mp
        (rereadMembers_bind_members? readsBack.2 restFits)
      simp only [rereadMembers, valueRead, restRead, Option.bind_some,
        Option.map_some, Document.members?, spelling, value, entries,
        sortedMembers]

end

end Json

/-! ## What the reader gives -/

namespace Json

theorem sortedMembers_eq_self {members : List (String × Json)}
    (isSorted : ∀ member ∈ members, member.2.sorted = member.2) :
    sortedMembers members = members := by
  induction members with
  | nil => rfl
  | cons member members ih =>
      rw [List.forall_mem_cons] at isSorted
      rw [sortedMembers, isSorted.1, ih isSorted.2]

/-- A map of members in canonical form is in canonical form. -/
theorem sorted_ofList {members : List (String × Json)}
    (isSorted : ∀ member ∈ members, member.2.sorted = member.2) :
    (object (SortedMap.ofList members).entries).sorted =
      object (SortedMap.ofList members).entries := by
  have entries : sortedMembers (SortedMap.ofList members).entries =
      (SortedMap.ofList members).entries :=
    sortedMembers_eq_self fun member isMember =>
      isSorted member (SortedMap.mem_of_mem_ofList isMember)
  rw [sorted, entries, SortedMap.ofList_entries]

end Json

namespace Document

mutual

/-- The numbers in a document that have a value. -/
def numbers : Document → List Number
  | .number (some value) => [value]
  | .array items => numbersOfItems items
  | .object members => numbersOfMembers members
  | _ => []

def numbersOfItems : List Document → List Number
  | [] => []
  | item :: rest => numbers item ++ numbersOfItems rest

def numbersOfMembers : List (Spelling × Document) → List Number
  | [] => []
  | (_, value) :: rest => numbers value ++ numbersOfMembers rest

end

/-- The document has only integers of 64 bits. -/
def IsHeld (document : Document) : Prop :=
  ∀ number ∈ document.numbers, number.IsHeld

mutual

/-- The value of a document is in canonical form and has its numbers. -/
theorem sorted_of_value? {limit : Nat} : ∀ {document : Document}
    {value : Json}, document.value? limit = some value →
      value.sorted = value ∧ ∀ number ∈ value.numbers,
        number ∈ document.numbers
  | .null, _, read | .bool _, _, read => by
      cases read
      exact ⟨rfl, fun _ isNumber => isNumber⟩
  | .number given, _, read => by
      obtain ⟨_, rfl, rfl⟩ := Option.map_eq_some_iff.mp read
      exact ⟨rfl, fun _ isNumber => isNumber⟩
  | .string spelling, _, read => by
      obtain ⟨text, -, rfl⟩ := Option.map_eq_some_iff.mp read
      exact ⟨rfl, fun _ isNumber => isNumber⟩
  | .array items, _, read => by
      cases limit with
      | zero => cases read
      | succ inner =>
          obtain ⟨values, itemsRead, rfl⟩ := Option.map_eq_some_iff.mp read
          obtain ⟨isSorted, numbers⟩ := sortedItems_of_items? itemsRead
          exact ⟨congrArg Json.array isSorted, numbers⟩
  | .object members, _, read => by
      cases limit with
      | zero => cases read
      | succ inner =>
          obtain ⟨entries, membersRead, rfl⟩ := Option.map_eq_some_iff.mp read
          obtain ⟨isSorted, numbers⟩ := sortedMembers_of_members? membersRead
          refine ⟨Json.sorted_ofList isSorted, fun number isNumber => ?_⟩
          obtain ⟨member, isMember, inside⟩ :=
            Json.mem_numbersOfMembers.mp isNumber
          exact numbers number (Json.mem_numbersOfMembers.mpr
            ⟨member, SortedMap.mem_of_mem_ofList isMember, inside⟩)

theorem sortedItems_of_items? {limit : Nat} : ∀ {items : List Document}
    {values : List Json}, items? limit items = some values →
      Json.sortedItems values = values ∧
        ∀ number ∈ Json.numbersOfItems values, number ∈ numbersOfItems items
  | [], _, read => by
      cases read
      exact ⟨rfl, fun _ isNumber => isNumber⟩
  | item :: rest, _, read => by
      simp only [items?] at read
      split at read
      next value values itemRead restRead =>
        cases read
        obtain ⟨isSorted, first⟩ := sorted_of_value? itemRead
        obtain ⟨areSorted, others⟩ := sortedItems_of_items? restRead
        refine ⟨by rw [Json.sortedItems, isSorted, areSorted], ?_⟩
        intro number isNumber
        rcases List.mem_append.mp isNumber with isFirst | isOther
        · exact List.mem_append_left _ (first number isFirst)
        · exact List.mem_append_right _ (others number isOther)
      next => cases read

theorem sortedMembers_of_members? {limit : Nat} :
    ∀ {members : List (Spelling × Document)}
      {entries : List (String × Json)},
      members? limit members = some entries →
        (∀ entry ∈ entries, entry.2.sorted = entry.2) ∧
          ∀ number ∈ Json.numbersOfMembers entries,
            number ∈ numbersOfMembers members
  | [], _, read => by
      cases read
      exact ⟨by simp, fun _ isNumber => isNumber⟩
  | (key, item) :: rest, _, read => by
      simp only [members?] at read
      split at read
      next itemRead restRead =>
        cases read
        obtain ⟨isSorted, first⟩ := sorted_of_value? itemRead
        obtain ⟨areSorted, others⟩ := sortedMembers_of_members? restRead
        refine ⟨List.forall_mem_cons.mpr ⟨isSorted, areSorted⟩, ?_⟩
        intro number isNumber
        rcases List.mem_append.mp isNumber with isFirst | isOther
        · exact List.mem_append_left _ (first number isFirst)
        · exact List.mem_append_right _ (others number isOther)
      next => cases read

end

theorem IsHeld.value? {document : Document} (held : document.IsHeld)
    {limit : Nat} {value : Json} (read : document.value? limit = some value) :
    value.IsHeld := by
  obtain ⟨isSorted, numbers⟩ := sorted_of_value? read
  exact ⟨isSorted, fun number isNumber => held number (numbers _ isNumber)⟩

theorem isHeld_array {items : List Document} :
    (array items).IsHeld ↔ ∀ item ∈ items, item.IsHeld := by
  unfold IsHeld
  rw [numbers]
  induction items with
  | nil => simp [numbersOfItems]
  | cons item items ih =>
      rw [numbersOfItems, List.forall_mem_append, List.forall_mem_cons, ih]

theorem isHeld_object {members : List (Spelling × Document)} :
    (object members).IsHeld ↔ ∀ member ∈ members, member.2.IsHeld := by
  unfold IsHeld
  rw [numbers]
  induction members with
  | nil => simp [numbersOfMembers]
  | cons member members ih =>
      obtain ⟨key, value⟩ := member
      rw [numbersOfMembers, List.forall_mem_append, List.forall_mem_cons, ih]

private theorem isHeld_of_simple {document : Document}
    (simple : document.numbers = []) : document.IsHeld := by
  simp [IsHeld, simple]

end Document

namespace Json

private def ValuesAreHeld (fuel : Nat) : Prop :=
  ∀ {characters document rest},
    readValue fuel characters = some (document, rest) → document.IsHeld

private def ItemsAreHeld (fuel : Nat) : Prop :=
  ∀ {characters items rest},
    readItems fuel characters = some (items, rest) →
      ∀ item ∈ items, Document.IsHeld item

private def MembersAreHeld (fuel : Nat) : Prop :=
  ∀ {characters members rest},
    readMembers fuel characters = some (members, rest) →
      ∀ member ∈ members, Document.IsHeld member.2

private theorem valuesAreHeld_succ {fuel : Nat}
    (itemsAreHeld : ItemsAreHeld fuel)
    (membersAreHeld : MembersAreHeld fuel) : ValuesAreHeld (fuel + 1) := by
  intro characters document rest read
  rw [readValue] at read
  split at read
  · obtain ⟨_, -, same⟩ := Option.map_eq_some_iff.mp read
    cases same
    exact Document.isHeld_of_simple rfl
  · split at read
    · cases read
      exact Document.isHeld_of_simple rfl
    · obtain ⟨_, itemsRead, same⟩ := Option.map_eq_some_iff.mp read
      cases same
      exact Document.isHeld_array.mpr (itemsAreHeld itemsRead)
  · split at read
    · cases read
      exact Document.isHeld_of_simple rfl
    · obtain ⟨_, membersRead, same⟩ := Option.map_eq_some_iff.mp read
      cases same
      exact Document.isHeld_object.mpr (membersAreHeld membersRead)
  · cases read
    exact Document.isHeld_of_simple rfl
  · cases read
    exact Document.isHeld_of_simple rfl
  · cases read
    exact Document.isHeld_of_simple rfl
  · obtain ⟨⟨parts, _⟩, -, same⟩ := Option.map_eq_some_iff.mp read
    cases same
    cases value : parts.value? with
    | none => exact Document.isHeld_of_simple rfl
    | some given =>
        intro number isNumber
        obtain rfl := List.mem_singleton.mp isNumber
        exact Number.isHeld_of_value? value

private theorem itemsAreHeld_succ {fuel : Nat}
    (valuesAreHeld : ValuesAreHeld fuel)
    (itemsAreHeld : ItemsAreHeld fuel) : ItemsAreHeld (fuel + 1) := by
  intro characters items rest read
  rw [readItems] at read
  split at read
  · cases read
  next itemRead =>
    have held := valuesAreHeld itemRead
    split at read
    · cases read
      simpa using held
    · obtain ⟨_, itemsRead, same⟩ := Option.map_eq_some_iff.mp read
      cases same
      exact List.forall_mem_cons.mpr ⟨held, itemsAreHeld itemsRead⟩
    · cases read

private theorem membersAreHeld_succ {fuel : Nat}
    (valuesAreHeld : ValuesAreHeld fuel)
    (membersAreHeld : MembersAreHeld fuel) : MembersAreHeld (fuel + 1) := by
  intro characters members rest read
  rw [readMembers] at read
  split at read
  · split at read
    · cases read
    split at read
    · split at read
      · cases read
      next valueRead =>
        have held := valuesAreHeld valueRead
        split at read
        · cases read
          simpa using held
        · obtain ⟨_, membersRead, same⟩ := Option.map_eq_some_iff.mp read
          cases same
          exact List.forall_mem_cons.mpr ⟨held, membersAreHeld membersRead⟩
        · cases read
    · cases read
  · cases read

private theorem areHeld (fuel : Nat) :
    ValuesAreHeld fuel ∧ ItemsAreHeld fuel ∧ MembersAreHeld fuel := by
  induction fuel with
  | zero =>
      refine ⟨?_, ?_, ?_⟩
      · rintro _ _ _ ⟨⟩
      · rintro _ _ _ ⟨⟩
      · rintro _ _ _ ⟨⟩
  | succ fuel ih =>
      obtain ⟨values, items, members⟩ := ih
      exact ⟨valuesAreHeld_succ items members, itemsAreHeld_succ values items,
        membersAreHeld_succ values members⟩

end Json

/-- What a text spells has only integers of 64 bits. -/
theorem Document.isHeld_of_parse? {text : String} {document : Document}
    (read : Document.parse? text = some document) : document.IsHeld := by
  unfold Document.parse? Json.readCharacters? at read
  split at read
  next valueRead =>
    split at read
    · cases read
      exact (Json.areHeld _).1 valueRead
    · cases read
  · cases read

end AgentPipeline
