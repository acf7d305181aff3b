import AgentPipeline.Proofs.Json.Payload

/-!
# Payloads that come back

A payload that the program holds comes back from its text exactly if the
floating-point numbers in it do.
Main statement: `reread_bind_value?_iff`.
-/

namespace AgentPipeline

namespace Json

variable {limit : Nat}

/-! ## One part at a time -/

theorem exists_of_rereadItems_cons {item : Json} {rest values : List Json}
    (read : (rereadItems (item :: rest)).bind (Document.items? limit) =
      some values) :
    ∃ back others, values = back :: others ∧
      item.reread.bind (Document.value? limit) = some back ∧
      (rereadItems rest).bind (Document.items? limit) = some others := by
  rw [rereadItems] at read
  cases itemRead : item.reread with
  | none => simp [itemRead] at read
  | some document =>
  cases restRead : rereadItems rest with
  | none => simp [itemRead, restRead] at read
  | some documents =>
      simp only [itemRead, restRead, Option.bind_some, Option.map_some,
        Document.items?] at read
      split at read
      next back others isBack areOthers =>
        cases read
        exact ⟨back, others, rfl, isBack, areOthers⟩
      next => cases read

theorem exists_of_rereadMembers_cons {key : String} {value : Json}
    {rest entries : List (String × Json)}
    (read : (rereadMembers ((key, value) :: rest)).bind
      (Document.members? limit) = some entries) :
    ∃ back others, entries = (key, back) :: others ∧
      value.reread.bind (Document.value? limit) = some back ∧
      (rereadMembers rest).bind (Document.members? limit) =
        some others := by
  rw [rereadMembers] at read
  cases valueRead : value.reread with
  | none => simp [valueRead] at read
  | some document =>
  cases restRead : rereadMembers rest with
  | none => simp [valueRead, restRead] at read
  | some documents =>
      simp only [valueRead, restRead, Option.bind_some, Option.map_some,
        Document.members?, spelling] at read
      split at read
      next name back others isName isBack areOthers =>
        cases isName
        cases read
        exact ⟨back, others, rfl, isBack, areOthers⟩
      next => cases read

/-! ## Keys -/

theorem map_fst_sortedMembers (members : List (String × Json)) :
    (sortedMembers members).map Prod.fst = members.map Prod.fst := by
  induction members with
  | nil => rfl
  | cons member members ih =>
      rw [sortedMembers, List.map_cons, List.map_cons, ih]

/-- What is read back of members has their keys. -/
theorem map_fst_of_rereadMembers {members entries : List (String × Json)}
    (read : (rereadMembers members).bind (Document.members? limit) =
      some entries) :
    entries.map Prod.fst = members.map Prod.fst := by
  induction members generalizing entries with
  | nil =>
      cases read
      rfl
  | cons member members ih =>
      obtain ⟨back, others, rfl, -, areOthers⟩ :=
        exists_of_rereadMembers_cons read
      rw [List.map_cons, List.map_cons, ih areOthers]

/-- A list with the keys of its map is the list of the entries of its map. -/
theorem eq_of_ofList_entries {entries members : List (String × Json)}
    (sameKeys : entries.map Prod.fst = members.map Prod.fst)
    (same : (SortedMap.ofList entries).entries = members) :
    entries = members := by
  have ascending : (entries.map Prod.fst).Pairwise fun earlier later =>
      compare earlier later = .lt := by
    rw [sameKeys, ← same, List.pairwise_map]
    exact (SortedMap.ofList entries).ascending
  have isMap := SortedMap.ofList_entries
    ⟨entries, List.pairwise_map.mp ascending⟩
  rw [← same, isMap]

/-! ## Coming back -/

mutual

theorem readsBack_of_reread {limit : Nat} : ∀ {value : Json},
    value.sorted = value → value.reread.bind (Document.value? limit) =
      some value → value.ReadsBack
  | .null, _, _ | .bool _, _, _ | .string _, _, _ => by
      rintro _ ⟨⟩
  | .number given, _, back => by
      obtain ⟨_, isDocument, isValue⟩ := Option.bind_eq_some_iff.mp back
      obtain ⟨parts, isParts, rfl⟩ := Option.map_eq_some_iff.mp isDocument
      obtain ⟨number, isNumber, same⟩ := Option.map_eq_some_iff.mp isValue
      cases same
      refine List.forall_mem_singleton.mpr ?_
      rw [Number.ReadsBack, isParts]
      exact isNumber
  | .array items, isSorted, back => by
      obtain ⟨_, isDocument, isValue⟩ := Option.bind_eq_some_iff.mp back
      obtain ⟨documents, areDocuments, rfl⟩ :=
        Option.map_eq_some_iff.mp isDocument
      cases limit with
      | zero => cases isValue
      | succ inner =>
          obtain ⟨values, areValues, same⟩ :=
            Option.map_eq_some_iff.mp isValue
          cases same
          have read : (rereadItems items).bind
              (Document.items? inner) = some items := by
            rw [areDocuments]
            exact areValues
          exact readsBack_of_rereadItems (Json.array.inj isSorted) read
  | .object members, isSorted, back => by
      obtain ⟨_, isDocument, isValue⟩ := Option.bind_eq_some_iff.mp back
      obtain ⟨documents, areDocuments, rfl⟩ :=
        Option.map_eq_some_iff.mp isDocument
      cases limit with
      | zero => cases isValue
      | succ inner =>
          obtain ⟨entries, areEntries, same⟩ :=
            Option.map_eq_some_iff.mp isValue
          have read : (rereadMembers members).bind
              (Document.members? inner) = some entries := by
            rw [areDocuments]
            exact areEntries
          have sameEntries := eq_of_ofList_entries
            (map_fst_of_rereadMembers read) (Json.object.inj same)
          have sameSorted := eq_of_ofList_entries
            (map_fst_sortedMembers members) (Json.object.inj isSorted)
          exact readsBack_of_rereadMembers sameSorted (sameEntries ▸ read)

theorem readsBack_of_rereadItems {limit : Nat} : ∀ {items : List Json},
    sortedItems items = items →
      (rereadItems items).bind (Document.items? limit) = some items →
        ∀ number ∈ numbersOfItems items, number.ReadsBack
  | [], _, _ => by
      rintro _ ⟨⟩
  | item :: rest, areSorted, back => by
      obtain ⟨isSorted, restSorted⟩ := List.cons.inj areSorted
      obtain ⟨_, _, same, isBack, areOthers⟩ :=
        exists_of_rereadItems_cons back
      cases same
      rw [numbersOfItems, List.forall_mem_append]
      exact ⟨readsBack_of_reread isSorted isBack,
        readsBack_of_rereadItems restSorted areOthers⟩

theorem readsBack_of_rereadMembers {limit : Nat} :
    ∀ {members : List (String × Json)},
    sortedMembers members = members →
      (rereadMembers members).bind (Document.members? limit) =
          some members →
        ∀ number ∈ numbersOfMembers members, number.ReadsBack
  | [], _, _ => by
      rintro _ ⟨⟩
  | (key, value) :: rest, areSorted, back => by
      obtain ⟨isSorted, restSorted⟩ := List.cons.inj areSorted
      obtain ⟨_, _, same, isBack, areOthers⟩ :=
        exists_of_rereadMembers_cons back
      cases same
      rw [numbersOfMembers, List.forall_mem_append]
      exact ⟨readsBack_of_reread (Prod.ext_iff.mp isSorted).2 isBack,
        readsBack_of_rereadMembers restSorted areOthers⟩

end

theorem reread_bind_value?_iff {value : Json} (held : value.IsHeld)
    (nests : value.Nests limit) :
    value.reread.bind (Document.value? limit) = some value ↔
      ∀ number ∈ value.floats, (Number.float number).ReadsBack := by
  rw [← held.readsBack_iff]
  constructor
  · exact readsBack_of_reread held.isSorted
  · intro readsBack
    rw [reread_bind_value? readsBack nests, held.isSorted]

end Json

end AgentPipeline
