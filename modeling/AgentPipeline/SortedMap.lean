/-!
# Sorted maps

A finite map is the list of its entries in strictly ascending order of their
keys.  The order is part of the type, so two maps with the same entries are
equal.  Main statements: looking up an inserted key finds the inserted value,
and insertion changes no other key.
-/

namespace AgentPipeline

universe u v w

/-- A finite map, given by its entries in strictly ascending order. -/
structure SortedMap (κ : Type u) [Ord κ] (α : Type v) where
  entries : List (κ × α)
  ascending : entries.Pairwise fun earlier later =>
    compare earlier.1 later.1 = .lt

namespace SortedMap

variable {κ : Type u} [Ord κ] {α : Type v} {β : Type w}

@[ext]
theorem ext {left right : SortedMap κ α}
    (same : left.entries = right.entries) : left = right := by
  cases left
  cases right
  simpa using same

instance [DecidableEq κ] [DecidableEq α] : DecidableEq (SortedMap κ α) :=
  fun left right =>
    if same : left.entries = right.entries then isTrue (ext same)
    else isFalse fun equal => same (congrArg entries equal)

/-- The map without entries. -/
def empty : SortedMap κ α := ⟨[], .nil⟩

instance : Inhabited (SortedMap κ α) := ⟨empty⟩

/-- The entries with one more, in the place its key demands; an entry with the
same key is replaced. -/
def insertEntry (key : κ) (value : α) : List (κ × α) → List (κ × α)
  | [] => [(key, value)]
  | (other, old) :: rest =>
      match compare key other with
      | .lt => (key, value) :: (other, old) :: rest
      | .eq => (key, value) :: rest
      | .gt => (other, old) :: insertEntry key value rest

theorem mem_insertEntry {key : κ} {value : α} {entry : κ × α}
    {entries : List (κ × α)}
    (member : entry ∈ insertEntry key value entries) :
    entry = (key, value) ∨ entry ∈ entries := by
  induction entries with
  | nil => exact .inl (by simpa [insertEntry] using member)
  | cons head rest ih =>
      unfold insertEntry at member
      split at member
      · rcases List.mem_cons.1 member with same | later
        · exact .inl same
        · exact .inr later
      · rcases List.mem_cons.1 member with same | later
        · exact .inl same
        · exact .inr (List.mem_cons_of_mem _ later)
      · rcases List.mem_cons.1 member with same | later
        · exact .inr (same ▸ List.mem_cons_self)
        · rcases ih later with same | old
          · exact .inl same
          · exact .inr (List.mem_cons_of_mem _ old)

variable [Std.TransOrd κ] [Std.LawfulEqOrd κ]

theorem ascending_insertEntry (key : κ) (value : α) {entries : List (κ × α)}
    (ascending : entries.Pairwise fun earlier later =>
      compare earlier.1 later.1 = .lt) :
    (insertEntry key value entries).Pairwise fun earlier later =>
      compare earlier.1 later.1 = .lt := by
  induction entries with
  | nil => simp [insertEntry]
  | cons head rest ih =>
      obtain ⟨headBefore, restAscending⟩ := List.pairwise_cons.1 ascending
      unfold insertEntry
      split
      · rename_i before
        refine List.pairwise_cons.2 ⟨fun entry member => ?_, ascending⟩
        rcases List.mem_cons.1 member with same | later
        · exact same ▸ before
        · exact Std.TransCmp.lt_trans before (headBefore entry later)
      · rename_i same
        have sameKey : key = head.1 := Std.LawfulEqCmp.eq_of_compare same
        exact List.pairwise_cons.2
          ⟨fun entry member => by
              simpa [sameKey] using headBefore entry member,
            restAscending⟩
      · rename_i after
        refine List.pairwise_cons.2 ⟨fun entry member => ?_, ih restAscending⟩
        rcases mem_insertEntry member with same | later
        · subst same
          exact Std.OrientedCmp.lt_of_gt after
        · exact headBefore entry later

/-- The map with one more entry; an entry with the same key is replaced. -/
def insert (map : SortedMap κ α) (key : κ) (value : α) : SortedMap κ α :=
  ⟨insertEntry key value map.entries,
    ascending_insertEntry key value map.ascending⟩

def find? (map : SortedMap κ α) (key : κ) : Option α :=
  (map.entries.find? fun entry => compare entry.1 key == .eq).map Prod.snd

def erase (map : SortedMap κ α) (key : κ) : SortedMap κ α :=
  ⟨map.entries.filter fun entry => compare entry.1 key != .eq,
    map.ascending.filter _⟩

/-- The map of a list of entries, in which the last entry of a key counts. -/
def ofList (entries : List (κ × α)) : SortedMap κ α :=
  entries.foldl (fun map entry => map.insert entry.1 entry.2) empty

/-- The map in which the entries of `newer` replace those of `map`. -/
def extend (map newer : SortedMap κ α) : SortedMap κ α :=
  newer.entries.foldl (fun map entry => map.insert entry.1 entry.2) map

/-- The values in the order of their keys. -/
def values (map : SortedMap κ α) : List α :=
  map.entries.map Prod.snd

/-- The number of entries. -/
def size (map : SortedMap κ α) : Nat :=
  map.entries.length

theorem find?_insertEntry_self (key : κ) (value : α)
    (entries : List (κ × α)) :
    (insertEntry key value entries).find? (fun entry =>
      compare entry.1 key == .eq) = some (key, value) := by
  induction entries with
  | nil => simp [insertEntry]
  | cons head rest ih =>
      unfold insertEntry
      split
      · simp
      · simp
      · rename_i after
        have before : compare head.1 key = .lt :=
          Std.OrientedCmp.lt_of_gt after
        rw [List.find?_cons_of_neg (by simp [before])]
        exact ih

@[simp]
theorem find?_insert_self (map : SortedMap κ α) (key : κ) (value : α) :
    (map.insert key value).find? key = some value := by
  simp [find?, insert, find?_insertEntry_self]

omit [Std.TransOrd κ] in
theorem find?_insertEntry_of_ne {key other : κ} (different : key ≠ other)
    (value : α) (entries : List (κ × α)) :
    (insertEntry key value entries).find? (fun entry =>
      compare entry.1 other == .eq)
      = entries.find? (fun entry => compare entry.1 other == .eq) := by
  have unequal : compare key other ≠ .eq :=
    fun same => different (Std.LawfulEqCmp.eq_of_compare same)
  induction entries with
  | nil => simp [insertEntry, unequal]
  | cons head rest ih =>
      unfold insertEntry
      split
      · rw [List.find?_cons_of_neg (by simpa using unequal)]
      · rename_i same
        have sameKey : key = head.1 := Std.LawfulEqCmp.eq_of_compare same
        rw [List.find?_cons_of_neg (by simpa using unequal),
          List.find?_cons_of_neg (by simpa [← sameKey] using unequal)]
      · simp only [List.find?_cons, ih]

theorem find?_insert_of_ne {key other : κ} (different : key ≠ other)
    (map : SortedMap κ α) (value : α) :
    (map.insert key value).find? other = map.find? other := by
  simp [find?, insert, find?_insertEntry_of_ne different]

end SortedMap

end AgentPipeline
