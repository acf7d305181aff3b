import AgentPipeline.Codec.Basic
import AgentPipeline.Proofs.Json.Reread
import AgentPipeline.Proofs.SortedMap.Merge

/-!
# Nesting

A document that has a value inside a number of brackets is not nested more
deeply than that, and neither is the value; one that spells a value has one
inside so many brackets, and printing a value keeps its nesting.
-/

namespace AgentPipeline

namespace Document

mutual

theorem depth_le_of_value? {limit : Nat} : ∀ {document : Document}
    {value : Json}, document.value? limit = some value →
      document.depth ≤ limit
  | .null, _, _ | .bool _, _, _ | .number _, _, _ | .string _, _, _ =>
      Nat.zero_le limit
  | .array items, _, read => by
      cases limit with
      | zero => simp [value?] at read
      | succ inner =>
          simp only [value?, Option.map_eq_some_iff] at read
          obtain ⟨values, itemsRead, _⟩ := read
          exact Nat.succ_le_succ (depthOfItems_le_of_items? itemsRead)
  | .object members, _, read => by
      cases limit with
      | zero => simp [value?] at read
      | succ inner =>
          simp only [value?, Option.map_eq_some_iff] at read
          obtain ⟨entries, membersRead, _⟩ := read
          exact Nat.succ_le_succ (depthOfMembers_le_of_members? membersRead)

theorem depthOfItems_le_of_items? {limit : Nat} : ∀ {items : List Document}
    {values : List Json}, items? limit items = some values →
      depthOfItems items ≤ limit
  | [], _, _ => Nat.zero_le limit
  | item :: rest, _, read => by
      simp only [items?] at read
      split at read
      next itemRead restRead =>
        exact Nat.max_le.mpr ⟨depth_le_of_value? itemRead,
          depthOfItems_le_of_items? restRead⟩
      next => cases read

theorem depthOfMembers_le_of_members? {limit : Nat} :
    ∀ {members : List (Spelling × Document)}
      {entries : List (String × Json)},
      members? limit members = some entries →
        depthOfMembers members ≤ limit
  | [], _, _ => Nat.zero_le limit
  | (key, item) :: rest, _, read => by
      simp only [members?] at read
      split at read
      next itemRead restRead =>
        exact Nat.max_le.mpr ⟨depth_le_of_value? itemRead,
          depthOfMembers_le_of_members? restRead⟩
      next => cases read

end

mutual

/-- The document of a value has this value in canonical form. -/
theorem value?_ofJson {limit : Nat} : ∀ {value : Json},
    (ofJson value).depth ≤ limit →
      (ofJson value).value? limit = some value.sorted
  | .null, _ | .bool _, _ | .number _, _ | .string _, _ => rfl
  | .array items, fits => by
      cases limit with
      | zero => cases fits
      | succ inner =>
          simp only [ofJson, value?, Json.sorted]
          rw [items?_ofItems (Nat.le_of_succ_le_succ fits), Option.map_some]
  | .object members, fits => by
      cases limit with
      | zero => cases fits
      | succ inner =>
          simp only [ofJson, value?, Json.sorted]
          rw [members?_ofMembers (Nat.le_of_succ_le_succ fits),
            Option.map_some]

theorem items?_ofItems {limit : Nat} : ∀ {items : List Json},
    depthOfItems (ofItems items) ≤ limit →
      items? limit (ofItems items) = some (Json.sortedItems items)
  | [], _ => rfl
  | item :: rest, fits => by
      obtain ⟨itemFits, restFits⟩ := Nat.max_le.mp fits
      simp only [ofItems, items?, Json.sortedItems]
      rw [value?_ofJson itemFits, items?_ofItems restFits]

theorem members?_ofMembers {limit : Nat} :
    ∀ {members : List (String × Json)},
      depthOfMembers (ofMembers members) ≤ limit →
        members? limit (ofMembers members) =
          some (Json.sortedMembers members)
  | [], _ => rfl
  | (key, value) :: rest, fits => by
      obtain ⟨valueFits, restFits⟩ := Nat.max_le.mp fits
      simp only [ofMembers, members?, Json.sortedMembers]
      rw [value?_ofJson valueFits, members?_ofMembers restFits]

end

end Document

namespace Json

mutual

theorem depth_of_reread : ∀ {value : Json} {document : Document},
    value.reread = some document →
      document.depth = (Document.ofJson value).depth
  | .null, _, read | .bool _, _, read | .string _, _, read => by
      cases read
      rfl
  | .number _, _, read => by
      obtain ⟨parts, _, rfl⟩ := Option.map_eq_some_iff.mp read
      rfl
  | .array items, _, read => by
      obtain ⟨documents, itemsRead, rfl⟩ := Option.map_eq_some_iff.mp read
      exact congrArg Nat.succ (depthOfItems_of_rereadItems itemsRead)
  | .object members, _, read => by
      obtain ⟨documents, membersRead, rfl⟩ := Option.map_eq_some_iff.mp read
      exact congrArg Nat.succ (depthOfMembers_of_rereadMembers membersRead)

theorem depthOfItems_of_rereadItems : ∀ {items : List Json}
    {documents : List Document}, rereadItems items = some documents →
      Document.depthOfItems documents =
        Document.depthOfItems (Document.ofItems items)
  | [], _, read => by
      cases read
      rfl
  | item :: rest, _, read => by
      obtain ⟨document, itemRead, restRead⟩ :=
        Option.bind_eq_some_iff.mp read
      obtain ⟨documents, others, rfl⟩ := Option.map_eq_some_iff.mp restRead
      exact congrArg₂ max (depth_of_reread itemRead)
        (depthOfItems_of_rereadItems others)

theorem depthOfMembers_of_rereadMembers :
    ∀ {members : List (String × Json)}
      {documents : List (Spelling × Document)},
      rereadMembers members = some documents →
        Document.depthOfMembers documents =
          Document.depthOfMembers (Document.ofMembers members)
  | [], _, read => by
      cases read
      rfl
  | (key, value) :: rest, _, read => by
      obtain ⟨document, valueRead, restRead⟩ :=
        Option.bind_eq_some_iff.mp read
      obtain ⟨documents, others, rfl⟩ := Option.map_eq_some_iff.mp restRead
      exact congrArg₂ max (depth_of_reread valueRead)
        (depthOfMembers_of_rereadMembers others)

end

end Json

namespace Json

/-- A value with at most so many brackets around any part. -/
def Nests (limit : Nat) (value : Json) : Prop :=
  (Document.ofJson value).depth ≤ limit

section Nests

variable {limit : Nat}

@[simp]
theorem nests_null : Json.null.Nests limit := Nat.zero_le limit

@[simp]
theorem nests_bool (value : Bool) : (bool value).Nests limit :=
  Nat.zero_le limit

@[simp]
theorem nests_number (value : Number) : (number value).Nests limit :=
  Nat.zero_le limit

@[simp]
theorem nests_string (text : String) : (string text).Nests limit :=
  Nat.zero_le limit

@[simp]
theorem nests_word32 (value : UInt32) : (word32 value).Nests limit :=
  nests_number _

@[simp]
theorem nests_word64 (value : UInt64) : (word64 value).Nests limit :=
  nests_number _

@[simp]
theorem nests_double (value : Double) : (double value).Nests limit := by
  unfold double
  split <;> simp

theorem nests_array {items : List Json} :
    (array items).Nests (limit + 1) ↔ ∀ item ∈ items, item.Nests limit := by
  unfold Nests
  rw [Document.ofJson, Document.depth, Nat.add_le_add_iff_right]
  induction items with
  | nil => simp [Document.ofItems, Document.depthOfItems]
  | cons item items ih =>
      rw [Document.ofItems, Document.depthOfItems, Nat.max_le, ih,
        List.forall_mem_cons]

theorem nests_list {α : Type} {encode : α → Json} {values : List α} :
    (array (values.map encode)).Nests (limit + 1) ↔
      ∀ value ∈ values, (encode value).Nests limit := by
  rw [nests_array, List.forall_mem_map]

theorem nests_object {members : List (String × Json)} :
    (object members).Nests (limit + 1) ↔
      ∀ member ∈ members, member.2.Nests limit := by
  unfold Nests
  rw [Document.ofJson, Document.depth, Nat.add_le_add_iff_right]
  induction members with
  | nil => simp [Document.ofMembers, Document.depthOfMembers]
  | cons member members ih =>
      obtain ⟨key, value⟩ := member
      rw [Document.ofMembers, Document.depthOfMembers, Nat.max_le, ih,
        List.forall_mem_cons]

theorem forall_mem_optionalMember {key : String} {slot : Option Json}
    {property : Json → Prop} :
    (∀ member ∈ optionalMember key slot, property member.2) ↔
      ∀ value, slot = some value → property value := by
  cases slot <;> simp [optionalMember]

theorem nests_ofTextMap {α : Type} {encode : α → Json}
    {map : SortedMap String α} :
    (ofTextMap encode map).Nests (limit + 1) ↔
      ∀ entry ∈ map.entries, (encode entry.2).Nests limit := by
  rw [ofTextMap, nests_object, List.forall_mem_map]

theorem nests_ofWordMap {α : Type} {encode : α → Json}
    {map : SortedMap UInt32 α} :
    (ofWordMap encode map).Nests (limit + 1) ↔
      ∀ entry ∈ map.entries, (encode entry.2).Nests limit := by
  rw [ofWordMap, nests_object, List.forall_mem_map]

end Nests

end Json

namespace Document

mutual

/-- A value is not nested more deeply than its document may be. -/
theorem nests_of_value? {limit : Nat} : ∀ {document : Document}
    {value : Json}, document.value? limit = some value → value.Nests limit
  | .null, _, read | .bool _, _, read => by
      cases read
      exact Nat.zero_le limit
  | .number _, _, read | .string _, _, read => by
      obtain ⟨_, -, rfl⟩ := Option.map_eq_some_iff.mp read
      exact Nat.zero_le limit
  | .array items, _, read => by
      cases limit with
      | zero => cases read
      | succ inner =>
          obtain ⟨values, itemsRead, rfl⟩ := Option.map_eq_some_iff.mp read
          exact Json.nests_array.mpr (nests_of_items? itemsRead)
  | .object members, _, read => by
      cases limit with
      | zero => cases read
      | succ inner =>
          obtain ⟨entries, membersRead, rfl⟩ := Option.map_eq_some_iff.mp read
          exact Json.nests_object.mpr fun entry isEntry =>
            nests_of_members? membersRead entry
              (SortedMap.mem_of_mem_ofList isEntry)

theorem nests_of_items? {limit : Nat} : ∀ {items : List Document}
    {values : List Json}, items? limit items = some values →
      ∀ value ∈ values, value.Nests limit
  | [], _, read => by
      cases read
      simp
  | item :: rest, _, read => by
      simp only [items?] at read
      split at read
      next itemRead restRead =>
        cases read
        exact List.forall_mem_cons.mpr
          ⟨nests_of_value? itemRead, nests_of_items? restRead⟩
      next => cases read

theorem nests_of_members? {limit : Nat} :
    ∀ {members : List (Spelling × Document)}
      {entries : List (String × Json)},
      members? limit members = some entries →
        ∀ entry ∈ entries, entry.2.Nests limit
  | [], _, read => by
      cases read
      simp
  | (key, item) :: rest, _, read => by
      simp only [members?] at read
      split at read
      next itemRead restRead =>
        cases read
        exact List.forall_mem_cons.mpr
          ⟨nests_of_value? itemRead, nests_of_members? restRead⟩
      next => cases read

end

end Document

end AgentPipeline
