import Mathlib.Data.List.Nodup
import AgentPipeline.Proofs.Model.Change

/-!
# Unions of lists

A union has the identifiers of both lists and the entries of no other.  Under
one identifier the entries that are offered contend, one after the other, with
the last one that is stored.  An entry without a time loses against every
other and wins against every earlier one, so the later of two is no order; but
what is left in the end stays when the same entries are offered again.  Main
statements: `isUnion_merge`, `foldl_contend_again`.
-/

namespace AgentPipeline

namespace CustomModel

/-! ## Entries that contend again -/

theorem outlasts_self (model : CustomModel) :
    model.outlasts model = false := by
  rw [Bool.eq_false_iff]
  intro outlasted
  obtain ⟨moment, other, isMoment, isOther, before⟩ :=
    outlasts_eq_true_iff.mp outlasted
  obtain rfl := Option.some.inj (isMoment.symm.trans isOther)
  simp [Timestamp.isBefore] at before

theorem outlasts_congr {model other : CustomModel}
    (sameTime : model.updatedAt = other.updatedAt) (offered : CustomModel) :
    model.outlasts offered = other.outlasts offered := by
  rw [outlasts, outlasts, sameTime]

/-- An entry that was offered and is left owes nothing to what stood there
before. -/
theorem foldl_contend_none_of_mem {standing : Option CustomModel}
    {offered : List CustomModel} {model : CustomModel}
    (stands : offered.foldl contend standing = some model)
    (isOffered : model ∈ offered) :
    offered.foldl contend none = some model := by
  cases standing with
  | none => exact stands
  | some stored =>
      rw [foldl_contend] at stands
      split at stands
      next outlasts =>
        -- a stored entry that outlasts all cannot be one of them
        obtain rfl := Option.some.inj stands
        have itself := outlasts stored isOffered
        rw [outlasts_self] at itself
        cases itself
      next => exact stands

/-- What is left stays when the same entries are offered again; if it comes
back with other details, those are kept unless it was itself offered. -/
theorem foldl_contend_again {standing : Option CustomModel}
    {offered : List CustomModel} {model back : CustomModel}
    (stands : offered.foldl contend standing = some model)
    (sameTime : back.updatedAt = model.updatedAt) :
    offered.foldl contend (some back) =
      if model ∈ offered then some model else some back := by
  rw [foldl_contend]
  simp only [outlasts_congr sameTime]
  by_cases isOffered : model ∈ offered
  · have notAll : ¬∀ other ∈ offered, model.outlasts other = true := by
      intro all
      have itself := all model isOffered
      rw [outlasts_self] at itself
      cases itself
    rw [if_neg notAll, if_pos isOffered]
    exact foldl_contend_none_of_mem stands isOffered
  · have wasStanding : standing = some model :=
      (mem_of_foldl_contend stands).resolve_right isOffered
    have all : ∀ other ∈ offered, model.outlasts other = true := by
      by_contra notAll
      rw [wasStanding, foldl_contend, if_neg notAll] at stands
      exact isOffered (mem_of_foldl_contend_none stands)
    rw [if_pos all, if_neg isOffered]

/-! ## Entries under an identifier -/

theorem named_eq_head? (id : String) (models : List CustomModel) :
    named id models = (models.filter (·.id = id)).head? := by
  rw [List.head?_filter, named]
  rfl

/-- The union with entries that were united before is the same. -/
theorem merge_merge (stored offered : List CustomModel) :
    merge (merge stored offered) offered = merge stored offered := by
  refine AreAscending.ext_named (areAscending_merge _ _)
    (areAscending_merge _ _) fun id => ?_
  rw [named_merge (areAscending_merge stored offered)]
  cases left : named id (merge stored offered) with
  | none =>
      rw [named_merge_eq, foldl_contend_eq_none_iff] at left
      rw [left.2]
      rfl
  | some model =>
      rw [named_merge_eq] at left
      rw [foldl_contend_again left rfl, ite_self]

/-! ## The union of two lists -/

/-- The stored entry stands against the one that is offered: there is none, or
both have a time and that of the stored one is later. -/
inductive Stands : Option CustomModel → Option CustomModel → Prop where
  | unopposed (stored : Option CustomModel) : Stands stored none
  | later {stored offered : CustomModel} {storedAt offeredAt : Timestamp}
      (isStored : stored.updatedAt = some storedAt)
      (isOffered : offered.updatedAt = some offeredAt)
      (before : offeredAt.isBefore storedAt = true) :
      Stands (some stored) (some offered)

/-- A list is the union of two others by identifier. -/
structure IsUnion (stored offered union : List CustomModel) : Prop where
  ascending : AreAscending union
  identifiers (id : String) : id ∈ union.map (·.id) ↔
    id ∈ stored.map (·.id) ∨ id ∈ offered.map (·.id)
  given : ∀ model ∈ union, model ∈ stored ∨ model ∈ offered
  /-- Of one entry on either side the stored one is chosen if it stands, and
  the one that is offered otherwise. -/
  chosen {id : String}
    (storedOnce : (stored.filter (·.id = id)).length ≤ 1)
    (offeredOnce : (offered.filter (·.id = id)).length ≤ 1) :
    (Stands (named id stored) (named id offered) →
        named id union = named id stored) ∧
      (¬Stands (named id stored) (named id offered) →
        named id union = named id offered)

theorem mem_map_id_iff {id : String} {models : List CustomModel} :
    id ∈ models.map (·.id) ↔ models.filter (·.id = id) ≠ [] := by
  simp [List.filter_eq_nil_iff]

/-- An identifier that stands at most once. -/
theorem filter_of_length_le_one {models : List CustomModel} {id : String}
    (once : (models.filter (·.id = id)).length ≤ 1) :
    models.filter (·.id = id) = (named id models).toList := by
  rw [named_eq_head?]
  generalize models.filter (·.id = id) = found at once
  match found with
  | [] => rfl
  | [_] => rfl
  | _ :: _ :: _ => simp at once

theorem length_filter_le_one {models : List CustomModel}
    (different : (models.map (·.id)).Nodup) (id : String) :
    (models.filter (·.id = id)).length ≤ 1 := by
  have once := List.nodup_iff_count_le_one.mp different id
  rw [List.count, List.countP_map, List.countP_eq_length_filter] at once
  exact once

theorem stands_some_iff {stored offered : CustomModel} :
    Stands (some stored) (some offered) ↔
      stored.outlasts offered = true := by
  rw [outlasts_eq_true_iff]
  constructor
  · rintro (_ | ⟨isStored, isOffered, before⟩)
    exact ⟨_, _, isStored, isOffered, before⟩
  · rintro ⟨storedAt, offeredAt, isStored, isOffered, before⟩
    exact .later isStored isOffered before

theorem chosen_merge {stored offered : List CustomModel} {id : String}
    (storedOnce : (stored.filter (·.id = id)).length ≤ 1)
    (offeredOnce : (offered.filter (·.id = id)).length ≤ 1) :
    (Stands (named id stored) (named id offered) →
        named id (merge stored offered) = named id stored) ∧
      (¬Stands (named id stored) (named id offered) →
        named id (merge stored offered) = named id offered) := by
  have last : (named id stored).toList.getLast? = named id stored := by
    cases named id stored <;> rfl
  rw [named_merge_eq, filter_of_length_le_one storedOnce,
    filter_of_length_le_one offeredOnce, last]
  cases named id offered with
  | none =>
      exact ⟨fun _ => rfl, fun opposed => absurd (.unopposed _) opposed⟩
  | some theirs =>
      cases named id stored with
      | none =>
          refine ⟨?_, fun _ => rfl⟩
          rintro ⟨⟩
      | some ours =>
          rw [stands_some_iff]
          show (_ → contend (some ours) theirs = _) ∧
            (_ → contend (some ours) theirs = _)
          rw [contend]
          exact ⟨fun stands => if_pos stands, fun yields => if_neg yields⟩

/-- Lists that differ in the order of different identifiers have the same
entries under each of them. -/
theorem filter_of_perm {models others : List CustomModel}
    (different : (models.map (·.id)).Nodup) (reordered : others.Perm models)
    (id : String) :
    others.filter (·.id = id) = models.filter (·.id = id) := by
  have same := reordered.filter (·.id = id)
  have once := length_filter_le_one different id
  generalize models.filter (·.id = id) = found at same once
  match found with
  | [] => exact List.perm_nil.mp same
  | [_] => exact List.perm_singleton.mp same
  | _ :: _ :: _ => simp at once

/-- The union of two lists, in whatever order they come if neither repeats an
identifier. -/
theorem isUnion_merge (stored offered : List CustomModel) :
    IsUnion stored offered (merge stored offered) ∧
      ((stored.map (·.id)).Nodup → (offered.map (·.id)).Nodup →
        ∀ {otherStored otherOffered : List CustomModel},
          otherStored.Perm stored → otherOffered.Perm offered →
            merge otherStored otherOffered = merge stored offered) := by
  have ascending := areAscending_merge stored offered
  refine ⟨⟨ascending, ?identifiers, ?given, chosen_merge⟩, ?reordered⟩
  case identifiers =>
    intro id
    rw [← not_iff_not, ← named_eq_none_iff_not_mem, named_merge_eq,
      foldl_contend_eq_none_iff, List.getLast?_eq_none_iff, not_or,
      mem_map_id_iff, mem_map_id_iff, not_not, not_not]
  case given =>
    intro model isModel
    have isNamed := ascending.named_eq_some_iff.mpr ⟨isModel, rfl⟩
    rw [named_merge_eq] at isNamed
    rcases mem_of_foldl_contend isNamed with isLast | isOffered
    · exact .inl (List.mem_filter.mp (List.mem_of_getLast? isLast)).1
    · exact .inr (List.mem_filter.mp isOffered).1
  case reordered =>
    intro storedDifferent offeredDifferent otherStored otherOffered
      storedReordered offeredReordered
    refine AreAscending.ext_named (areAscending_merge _ _) ascending
      fun id => ?_
    rw [named_merge_eq, named_merge_eq,
      filter_of_perm storedDifferent storedReordered,
      filter_of_perm offeredDifferent offeredReordered]

/-- An entry that is told by its identifier and its time only. -/
def ofTime (id : String) (updatedAt : Option Timestamp) : CustomModel :=
  { (default : CustomModel) with id, updatedAt }

/-- The stored entry is the later one under one identifier, and under the other
it has no time; neither that nor the order of the lists matters to the
first. -/
theorem isUnion_merge_reordered :
    let first := ofTime "a" (some ⟨5, 0⟩)
    let stored := [first, ofTime "b" none]
    let offered := [ofTime "a" (some ⟨3, 0⟩), ofTime "b" (some ⟨1, 0⟩)]
    named "a" (merge stored offered) = some first ∧
      merge stored.reverse offered.reverse = merge stored offered := by
  intro first stored offered
  obtain ⟨isUnion, reordered⟩ := isUnion_merge stored offered
  have stands : Stands (named "a" stored) (named "a" offered) :=
    .later (rfl : first.updatedAt = some ⟨5, 0⟩)
      (rfl : _ = some (⟨3, 0⟩ : Timestamp)) (by decide)
  refine ⟨(isUnion.chosen (by decide) (by decide)).1 stands, ?_⟩
  exact reordered (by decide) (by decide) (List.reverse_perm _)
    (List.reverse_perm _)

end CustomModel

end AgentPipeline
