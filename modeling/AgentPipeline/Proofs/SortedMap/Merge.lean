import AgentPipeline.SortedMap

/-!
# Merging sorted maps

A map is determined by the values of its keys.  Maps of lists and extensions
are described by them: of several entries with one key the last counts.
-/

namespace AgentPipeline

namespace SortedMap

universe u v

variable {κ : Type u} [Ord κ] {α : Type v}

/-! ## Values determine the map -/

section Determined

variable [Std.TransOrd κ] [Std.LawfulEqOrd κ]

omit [Std.TransOrd κ] in
/-- A key before those of all entries is not found among them. -/
private theorem find?_of_before {key : κ} {entries : List (κ × α)}
    (before : ∀ entry ∈ entries, compare key entry.1 = .lt) :
    entries.find? (fun entry => compare entry.1 key == .eq) = none := by
  rw [List.find?_eq_none]
  intro entry member same
  have sameKey : entry.1 = key :=
    Std.LawfulEqCmp.eq_of_compare (eq_of_beq same)
  have self : compare key key = .eq := Std.ReflCmp.compare_self
  have notSame := before entry member
  rw [sameKey, self] at notSame
  cases notSame

/-- If the first key of a list is found in another one, it does not come before
all keys there. -/
private theorem not_before_of_same {first second : κ × α}
    {left right : List (κ × α)}
    (secondBefore : ∀ entry ∈ right, compare second.1 entry.1 = .lt)
    (same : (first :: left).find? (fun entry =>
        compare entry.1 first.1 == .eq) =
      (second :: right).find? (fun entry =>
        compare entry.1 first.1 == .eq)) :
    compare first.1 second.1 ≠ .lt := by
  intro order
  have missing : (second :: right).find?
      (fun entry => compare entry.1 first.1 == .eq) = none := by
    apply find?_of_before
    intro entry member
    rcases List.mem_cons.mp member with rfl | later
    · exact order
    · exact Std.TransCmp.lt_trans order (secondBefore entry later)
  rw [missing] at same
  simp at same

private theorem entries_eq {left right : List (κ × α)}
    (leftAscending : left.Pairwise fun earlier later =>
      compare earlier.1 later.1 = .lt)
    (rightAscending : right.Pairwise fun earlier later =>
      compare earlier.1 later.1 = .lt)
    (same : ∀ key, left.find? (fun entry => compare entry.1 key == .eq) =
      right.find? (fun entry => compare entry.1 key == .eq)) :
    left = right := by
  induction left generalizing right with
  | nil =>
      cases right with
      | nil => rfl
      | cons entry right =>
          have absent := same entry.1
          simp at absent
  | cons first left ih =>
      cases right with
      | nil =>
          have absent := same first.1
          simp at absent
      | cons second right =>
          obtain ⟨firstBefore, leftRest⟩ := List.pairwise_cons.mp leftAscending
          obtain ⟨secondBefore, rightRest⟩ :=
            List.pairwise_cons.mp rightAscending
          -- the heads have one key, because neither map misses the other's
          have sameKey : first.1 = second.1 := by
            cases order : compare first.1 second.1 with
            | eq => exact Std.LawfulEqCmp.eq_of_compare order
            | lt =>
                exact absurd order
                  (not_before_of_same secondBefore (same first.1))
            | gt =>
                exact absurd (Std.OrientedCmp.lt_of_gt order)
                  (not_before_of_same firstBefore (same second.1).symm)
          have sameHead : first = second := by
            have found := same first.1
            simpa [sameKey] using found
          subst second
          have sameRest : left = right := by
            apply ih leftRest rightRest
            intro key
            have found := same key
            simp only [List.find?_cons] at found
            by_cases isFirst : compare first.1 key = .eq
            · have keyEq : first.1 = key :=
                Std.LawfulEqCmp.eq_of_compare isFirst
              subst key
              rw [find?_of_before firstBefore, find?_of_before secondBefore]
            · have notFirst : (compare first.1 key == .eq) = false := by
                simpa using isFirst
              simpa [notFirst] using found
          rw [sameRest]

/-- Maps with the same values are equal. -/
theorem ext_find? {left right : SortedMap κ α}
    (same : ∀ key, left.find? key = right.find? key) : left = right := by
  apply ext
  apply entries_eq left.ascending right.ascending
  intro key
  have values := same key
  simp only [find?] at values
  -- an entry that is found has the key that was looked for
  have keyOf : ∀ (entries : List (κ × α)) entry,
      entries.find? (fun entry => compare entry.1 key == .eq) = some entry →
        entry.1 = key := by
    intro entries entry found
    have isKey := List.find?_some found
    exact Std.LawfulEqCmp.eq_of_compare (eq_of_beq isKey)
  cases leftFound : left.entries.find?
      (fun entry => compare entry.1 key == .eq) with
  | none =>
      cases rightFound : right.entries.find?
          (fun entry => compare entry.1 key == .eq) with
      | none => rfl
      | some entry => simp [leftFound, rightFound] at values
  | some leftEntry =>
      cases rightFound : right.entries.find?
          (fun entry => compare entry.1 key == .eq) with
      | none => simp [leftFound, rightFound] at values
      | some rightEntry =>
          have leftKey := keyOf _ _ leftFound
          have rightKey := keyOf _ _ rightFound
          simp only [leftFound, rightFound, Option.map_some,
            Option.some.injEq] at values
          exact congrArg some (Prod.ext (leftKey.trans rightKey.symm) values)

end Determined

/-! ## Erasing -/

@[simp]
theorem find?_erase_self (map : SortedMap κ α) (key : κ) :
    (map.erase key).find? key = none := by
  simp [find?, erase]

theorem find?_erase_of_ne [Std.LawfulEqOrd κ] {key other : κ}
    (different : key ≠ other) (map : SortedMap κ α) :
    (map.erase key).find? other = map.find? other := by
  rw [find?, find?, erase, List.find?_filter]
  congr 2
  funext entry
  by_cases same : compare entry.1 other = .eq
  · have notKey : compare entry.1 key ≠ .eq := by
      intro isKey
      exact different ((Std.LawfulEqCmp.eq_of_compare isKey).symm.trans
        (Std.LawfulEqCmp.eq_of_compare same))
    simp [same, notKey]
  · simp [same]

/-! ## Maps of lists -/

section OfList

variable [Std.TransOrd κ] [Std.LawfulEqOrd κ]

/-- Enters a list of entries one after the other. -/
private def insertAll (map : SortedMap κ α) (entries : List (κ × α)) :
    SortedMap κ α :=
  entries.foldl (fun map entry => map.insert entry.1 entry.2) map

private theorem find?_insert (map : SortedMap κ α) (entry : κ × α)
    (key : κ) :
    (map.insert entry.1 entry.2).find? key =
      if compare entry.1 key = .eq then some entry.2 else map.find? key := by
  by_cases same : compare entry.1 key = .eq
  · have sameKey : entry.1 = key := Std.LawfulEqCmp.eq_of_compare same
    rw [if_pos same, ← sameKey, find?_insert_self]
  · have different : entry.1 ≠ key := by
      rintro rfl
      exact same Std.ReflCmp.compare_self
    rw [if_neg same, find?_insert_of_ne different]

/-- To enter the same once more changes nothing. -/
theorem insert_insert (map : SortedMap κ α) (key : κ) (value : α) :
    (map.insert key value).insert key value = map.insert key value := by
  apply ext_find?
  intro other
  have again := find?_insert (map.insert key value) (key, value) other
  have once := find?_insert map (key, value) other
  dsimp only at again once
  rw [again, once]
  split <;> rfl

/-- A map of a list has no other entries. -/
theorem mem_of_mem_ofList {entries : List (κ × α)} {entry : κ × α}
    (isEntry : entry ∈ (ofList entries).entries) : entry ∈ entries := by
  have entered : ∀ (later : List (κ × α)) (map : SortedMap κ α),
      entry ∈ (insertAll map later).entries →
        entry ∈ later ∨ entry ∈ map.entries := by
    intro later
    induction later with
    | nil => exact fun _ old => .inr old
    | cons first later ih =>
        intro map isEntry
        rcases ih (map.insert first.1 first.2) isEntry with isLater | isOld
        · exact .inl (List.mem_cons_of_mem _ isLater)
        · rcases mem_insertEntry isOld with rfl | older
          · exact .inl List.mem_cons_self
          · exact .inr older
  rcases entered entries empty isEntry with isListed | isOld
  · exact isListed
  · cases isOld

private theorem find?_insertAll (map : SortedMap κ α)
    (entries : List (κ × α)) (key : κ) :
    (insertAll map entries).find? key =
      ((ofList entries).find? key <|> map.find? key) := by
  induction entries generalizing map with
  | nil => simp [insertAll, ofList, find?, empty]
  | cons entry entries ih =>
      have ofRest := ih (empty.insert entry.1 entry.2)
      have mapRest := ih (map.insert entry.1 entry.2)
      simp only [insertAll, ofList, List.foldl_cons] at ofRest mapRest ⊢
      rw [mapRest, ofRest, find?_insert, find?_insert]
      by_cases same : compare entry.1 key = .eq
      · cases (insertAll empty entries).find? key <;>
          simp [same]
      · simp [same, find?, empty]

theorem find?_ofList_append (first second : List (κ × α)) (key : κ) :
    (ofList (first ++ second)).find? key =
      ((ofList second).find? key <|> (ofList first).find? key) := by
  rw [← find?_insertAll]
  simp [insertAll, ofList]

omit [Std.LawfulEqOrd κ] in
/-- Entering a key that is greater than all others appends it. -/
private theorem insertEntry_of_after {key : κ} {value : α}
    {entries : List (κ × α)}
    (after : ∀ entry ∈ entries, compare entry.1 key = .lt) :
    insertEntry key value entries = entries ++ [(key, value)] := by
  induction entries with
  | nil => rfl
  | cons entry entries ih =>
      have reverse : compare key entry.1 = .gt :=
        Std.OrientedCmp.gt_of_lt (after entry (by simp))
      rw [insertEntry, reverse]
      simp [ih fun other member => after other (List.mem_cons_of_mem _ member)]

@[simp]
theorem ofList_entries (map : SortedMap κ α) : ofList map.entries = map := by
  have appended : ∀ (later : List (κ × α)) (map : SortedMap κ α),
      (map.entries ++ later).Pairwise (fun earlier later =>
        compare earlier.1 later.1 = .lt) →
      (insertAll map later).entries = map.entries ++ later := by
    intro later
    induction later with
    | nil =>
        intro map _
        simp [insertAll]
    | cons entry later ih =>
        intro map ascending
        have after : ∀ other ∈ map.entries, compare other.1 entry.1 = .lt :=
          fun other member =>
            (List.pairwise_append.mp ascending).2.2 other member entry
              (by simp)
        have inserted : (map.insert entry.1 entry.2).entries =
            map.entries ++ [entry] := insertEntry_of_after after
        have rest := ih (map.insert entry.1 entry.2) (by
          rw [inserted]
          simpa using ascending)
        rw [inserted] at rest
        simpa [insertAll] using rest
  exact ext (appended map.entries empty (by simpa [empty] using map.ascending))

/-- The newer entries come first. -/
theorem find?_extend (map newer : SortedMap κ α) (key : κ) :
    (map.extend newer).find? key =
      (newer.find? key <|> map.find? key) := by
  have found := find?_insertAll map newer.entries key
  rw [ofList_entries] at found
  exact found

/-- Entries that were seen before may come again together with those that
follow them. -/
theorem extend_ofList_overlap (seen again later : List (κ × α)) :
    (ofList (seen ++ again)).extend (ofList (again ++ later)) =
      ofList (seen ++ again ++ later) := by
  apply ext_find?
  intro key
  simp only [find?_extend, find?_ofList_append]
  cases (ofList later).find? key <;> cases (ofList again).find? key <;> rfl

end OfList

end SortedMap

end AgentPipeline
