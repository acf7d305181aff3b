import AgentPipeline.Cancellation.Group

/-!
# The current token of a group

Only the newest token of a group can be open.  The lemmas say what issuing and
cancelling do to the current token and to the reasons of the others.
-/

namespace AgentPipeline

namespace CancelGroup

/-- The reason of the current token is what is pending. -/
theorem reason?_eq_pending?
    {group : CancelGroup} {token : TokenId}
    (current : group.current? = some token) :
    group.reason? token = group.pending? := by
  obtain ⟨reasons⟩ := group
  cases reasons with
  | nil => simp [current?] at current
  | cons newest older =>
      have serial : (⟨older.length⟩ : TokenId) = token := by
        simpa [current?] using current
      subst token
      cases newest <;> simp [reason?, pending?]

theorem current?_issue (group : CancelGroup) :
    group.issue.1.current? = some group.issue.2 := by
  obtain ⟨reasons⟩ := group
  rcases reasons with _ | ⟨_ | reason, older⟩ <;>
    simp [issue, cancel, current?]

theorem pending?_issue (group : CancelGroup) :
    group.issue.1.pending? = none := rfl

/-- A token that was just issued is open. -/
theorem reason?_issue (group : CancelGroup) :
    group.issue.1.reason? group.issue.2 = none := by
  rw [reason?_eq_pending? group.current?_issue, pending?_issue]

theorem current?_cancel (group : CancelGroup) (reason : String) :
    (group.cancel reason).current? = group.current? := by
  obtain ⟨reasons⟩ := group
  rcases reasons with _ | ⟨_ | first, older⟩ <;> rfl

/-- The first reason of an open token is kept. -/
theorem pending?_cancel_of_open
    {group : CancelGroup} {token : TokenId} (reason : String)
    (current : group.current? = some token)
    (isOpen : group.pending? = none) :
    (group.cancel reason).pending? = some reason := by
  obtain ⟨reasons⟩ := group
  rcases reasons with _ | ⟨_ | first, older⟩
  · simp [current?] at current
  · rfl
  · simp [pending?] at isOpen

/-- A cancelled token cannot be cancelled again. -/
theorem cancel_of_pending
    {group : CancelGroup} {first : String} (reason : String)
    (pending : group.pending? = some first) :
    group.cancel reason = group := by
  obtain ⟨reasons⟩ := group
  rcases reasons with _ | ⟨_ | kept, older⟩
  · rfl
  · simp [pending?] at pending
  · rfl

/-! ## All tokens of a group -/

/-- Only the token issued last can be open. -/
def IsOrdered (group : CancelGroup) : Prop :=
  ∀ reason ∈ group.reasons.tail, reason.isSome

theorem isOrdered_new : new.IsOrdered := nofun

theorem IsOrdered.cancel {group : CancelGroup} (ordered : group.IsOrdered)
    (reason : String) : (group.cancel reason).IsOrdered := by
  obtain ⟨reasons⟩ := group
  rcases reasons with _ | ⟨_ | first, older⟩ <;> exact ordered

theorem IsOrdered.issue {group : CancelGroup} (ordered : group.IsOrdered) :
    group.issue.1.IsOrdered := by
  obtain ⟨reasons⟩ := group
  rcases reasons with _ | ⟨_ | first, older⟩
  · exact nofun
  · exact List.forall_mem_cons.mpr ⟨rfl, ordered⟩
  · exact List.forall_mem_cons.mpr ⟨rfl, ordered⟩

@[simp]
theorem length_reasons_cancel (group : CancelGroup) (reason : String) :
    (group.cancel reason).reasons.length = group.reasons.length := by
  obtain ⟨reasons⟩ := group
  rcases reasons with _ | ⟨_ | first, older⟩ <;> rfl

/-- Behind the tokens issued before comes the one issued last. -/
theorem reason?_of_cons (newest : Option String)
    (older : List (Option String)) (token : TokenId) :
    reason? ⟨newest :: older⟩ token =
      if token.serial = older.length then newest
      else reason? ⟨older⟩ token := by
  unfold reason?
  rw [List.reverse_cons]
  split
  next isLast =>
    rw [List.getElem?_append_right (by simp [isLast])]
    simp [isLast]
  next notLast =>
    rcases Nat.lt_or_ge token.serial older.length with before | behind
    · rw [List.getElem?_append_left (by simpa using before)]
    · rw [List.getElem?_eq_none (by simp; omega),
        List.getElem?_eq_none (by simpa using behind)]

theorem current?_of_cons (newest : Option String)
    (older : List (Option String)) (token : TokenId) :
    current? ⟨newest :: older⟩ = some token ↔
      token.serial = older.length := by
  obtain ⟨serial⟩ := token
  simp [current?, eq_comm]

/-- An issued token that is not current is cancelled. -/
theorem IsOrdered.isCancelled {group : CancelGroup}
    (ordered : group.IsOrdered) {token : TokenId}
    (known : group.hasIssued token = true)
    (notCurrent : group.current? ≠ some token) :
    (group.reason? token).isSome := by
  obtain ⟨reasons⟩ := group
  cases reasons with
  | nil => simp [hasIssued] at known
  | cons newest older =>
      have before : token.serial < older.length := by
        rw [Ne, current?_of_cons] at notCurrent
        simp [hasIssued] at known
        omega
      have inside : token.serial < older.reverse.length := by
        simpa using before
      rw [reason?_of_cons, if_neg (Nat.ne_of_lt before), reason?,
        List.getElem?_eq_getElem inside]
      exact ordered _ (List.mem_reverse.mp (List.getElem_mem inside))

theorem IsOrdered.current?_of_open {group : CancelGroup}
    (ordered : group.IsOrdered) {token : TokenId}
    (known : group.hasIssued token = true)
    (isOpen : group.reason? token = none) :
    group.current? = some token := by
  apply Decidable.byContradiction
  intro notCurrent
  have cancelled := ordered.isCancelled known notCurrent
  rw [isOpen] at cancelled
  cases cancelled

/-- Cancelling gives the current token a reason if it has none. -/
theorem reason?_cancel (group : CancelGroup) (reason : String)
    (token : TokenId) :
    (group.cancel reason).reason? token =
      (group.reason? token <|>
        if group.current? = some token then some reason else none) := by
  obtain ⟨reasons⟩ := group
  rcases reasons with _ | ⟨newest, older⟩
  · rfl
  simp only [current?_of_cons]
  cases newest with
  | none =>
      rw [cancel, reason?_of_cons, reason?_of_cons]
      split
      · rfl
      · simp
  | some first =>
      rw [cancel, reason?_of_cons]
      split <;> simp

/-- Issuing a token cancels the others that have been open so far. -/
theorem IsOrdered.reason?_issue {group : CancelGroup}
    (ordered : group.IsOrdered) {token : TokenId}
    (known : group.hasIssued token = true) :
    group.issue.1.reason? token =
      (group.reason? token <|> some superseded) := by
  have isOlder : token.serial ≠ (group.cancel superseded).reasons.length := by
    rw [length_reasons_cancel]
    simp [hasIssued] at known
    omega
  rw [show group.issue.1 = ⟨none :: (group.cancel superseded).reasons⟩ from rfl,
    reason?_of_cons, if_neg isOlder,
    show reason? ⟨(group.cancel superseded).reasons⟩ token =
      (group.cancel superseded).reason? token from rfl, reason?_cancel]
  split
  · rfl
  next notCurrent =>
    obtain ⟨reason, isReason⟩ := Option.isSome_iff_exists.mp
      (ordered.isCancelled known notCurrent)
    rw [isReason]
    rfl

/-- Tokens that were not issued are not cancelled. -/
theorem hasIssued_of_reason? {group : CancelGroup} {token : TokenId}
    (cancelled : (group.reason? token).isSome) :
    group.hasIssued token = true := by
  obtain ⟨reason, isReason⟩ := Option.isSome_iff_exists.mp cancelled
  rw [reason?, Option.join_eq_some_iff] at isReason
  have inside := (List.getElem?_eq_some_iff.mp isReason).1
  simpa [hasIssued] using inside

theorem hasIssued_current? {group : CancelGroup} {token : TokenId}
    (current : group.current? = some token) : group.hasIssued token = true := by
  obtain ⟨reasons⟩ := group
  cases reasons with
  | nil => simp [current?] at current
  | cons newest older =>
      rw [current?_of_cons] at current
      simp [hasIssued, current]

/-- There is a current token that is open. -/
theorem isOpen_iff {group : CancelGroup} :
    group.isOpen = true ↔ ∃ token, group.current? = some token ∧
      group.reason? token = none := by
  obtain ⟨reasons⟩ := group
  cases reasons with
  | nil => simp [isOpen, current?]
  | cons newest older =>
      constructor
      · intro isOpen
        refine ⟨⟨older.length⟩, rfl, ?_⟩
        rw [reason?_of_cons, if_pos rfl]
        cases newest with
        | none => rfl
        | some reason => simp [CancelGroup.isOpen] at isOpen
      · rintro ⟨token, current, notCancelled⟩
        rw [reason?_of_cons, if_pos ((current?_of_cons ..).mp current)]
          at notCancelled
        rw [notCancelled]
        rfl

theorem open?_eq_some_iff {group : CancelGroup} {token : TokenId} :
    group.open? = some token ↔
      group.current? = some token ∧ group.reason? token = none := by
  unfold open?
  split
  next isOpen =>
    obtain ⟨newest, current, notCancelled⟩ := isOpen_iff.mp isOpen
    refine ⟨fun isToken => ⟨isToken, ?_⟩, And.left⟩
    obtain rfl := Option.some.inj (current.symm.trans isToken)
    exact notCancelled
  next closed =>
    refine ⟨nofun, fun ⟨current, notCancelled⟩ => ?_⟩
    exact absurd (isOpen_iff.mpr ⟨token, current, notCancelled⟩) closed

theorem cancel_of_not_isOpen {group : CancelGroup}
    (closed : group.isOpen = false) (reason : String) :
    group.cancel reason = group := by
  obtain ⟨reasons⟩ := group
  rcases reasons with _ | ⟨_ | first, older⟩
  · rfl
  · cases closed
  · rfl

end CancelGroup

end AgentPipeline
