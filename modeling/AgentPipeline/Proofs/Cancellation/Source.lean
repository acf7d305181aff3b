import AgentPipeline.Cancellation.Source
import AgentPipeline.Proofs.Cancellation.Group

/-!
# Tokens of several sources

What is done with a source gives a reason to tokens of its group and to no
others, and only to those that have none yet.  The tasks that are woken are
those that wait for a token that is cancelled just then.
-/

namespace AgentPipeline

namespace CancelSources

/-- The token was issued through a source of its group. -/
def hasIssued (world : CancelSources) (issued : IssuedToken) : Bool :=
  (world.groups[issued.group]?).any (·.hasIssued issued.token)

/-- In each group only the token issued last can be open. -/
def AreOrdered (world : CancelSources) : Prop :=
  ∀ group ∈ world.groups, group.IsOrdered

/-- The reason that a token gets when another one is issued. -/
def issueReason? (world : CancelSources) (source : Nat)
    (issued : IssuedToken) : Option String :=
  if world.groupOf? source = some issued.group then some superseded else none

/-- The reason that a token gets when a source is cancelled. -/
def cancelReason? (world : CancelSources) (source : Nat) (reason : String)
    (issued : IssuedToken) : Option String :=
  if world.current? source = some issued then some reason else none

/-- The tasks that wait for the current token of a source. -/
def waitingFor (world : CancelSources) (source : Nat) : List Nat :=
  (world.parked.filter fun waiting =>
    world.current? source = some waiting.2).map Prod.fst

theorem isCancelled_eq (world : CancelSources) (issued : IssuedToken) :
    world.isCancelled issued = (world.reason? issued).isSome := by
  unfold isCancelled reason?
  cases world.groups[issued.group]? <;> rfl

theorem hasIssued_of_isCancelled {world : CancelSources}
    {issued : IssuedToken} (cancelled : world.isCancelled issued = true) :
    world.hasIssued issued = true := by
  unfold isCancelled at cancelled
  unfold hasIssued
  cases found : world.groups[issued.group]? with
  | none => simp [found] at cancelled
  | some group =>
      rw [found] at cancelled
      exact CancelGroup.hasIssued_of_reason? cancelled

theorem current?_eq_map {world : CancelSources} {source index : Nat}
    {group : CancelGroup} (isGroup : world.groupOf? source = some index)
    (found : world.groups[index]? = some group) :
    world.current? source = group.current?.map fun token => ⟨index, token⟩ := by
  unfold current?
  rw [isGroup]
  simp only [Option.bind_eq_bind, Option.bind_some, found]
  cases group.current? <;> rfl

/-! ## One group is changed -/

section Change

variable {world : CancelSources} {index : Nat} {group next : CancelGroup}

theorem groups_change :
    (world.change index group next).1.groups =
      world.groups.set index next := by
  unfold change
  split <;> rfl

theorem sources_change :
    (world.change index group next).1.sources = world.sources := by
  unfold change
  split <;> rfl

theorem reason?_change (found : world.groups[index]? = some group)
    (issued : IssuedToken) :
    (world.change index group next).1.reason? issued =
      if issued.group = index then next.reason? issued.token
      else world.reason? issued := by
  have inside := (List.getElem?_eq_some_iff.mp found).1
  unfold reason?
  rw [groups_change]
  split
  next same => simp [same, inside]
  next different => rw [List.getElem?_set_ne (Ne.symm different)]

theorem hasIssued_change (found : world.groups[index]? = some group)
    (grows : group.reasons.length ≤ next.reasons.length)
    {issued : IssuedToken} (known : world.hasIssued issued = true) :
    (world.change index group next).1.hasIssued issued = true := by
  have inside := (List.getElem?_eq_some_iff.mp found).1
  unfold hasIssued at known ⊢
  rw [groups_change]
  by_cases same : issued.group = index
  · rw [same, found] at known
    simp only [Option.any_some, CancelGroup.hasIssued,
      decide_eq_true_eq] at known
    simp only [same, List.getElem?_set_self inside, Option.any_some,
      CancelGroup.hasIssued, decide_eq_true_eq]
    omega
  · rw [List.getElem?_set_ne (Ne.symm same)]
    exact known

theorem AreOrdered.change (ordered : world.AreOrdered)
    (isOrdered : next.IsOrdered) :
    (world.change index group next).1.AreOrdered := by
  intro other isGroup
  rw [groups_change] at isGroup
  rcases List.mem_or_eq_of_mem_set isGroup with isOld | rfl
  · exact ordered other isOld
  · exact isOrdered

/-- Those are notified who wait for the token that was open. -/
theorem woken_change :
    (world.change index group next).2 = (world.parked.filter fun waiting =>
      group.open?.map (⟨index, ·⟩) = some waiting.2).map Prod.fst := by
  unfold change
  cases group.open? with
  | none => simp
  | some token =>
      simp [notify, List.partition_eq_filter_filter, eq_comm]

/-- The others wait on. -/
theorem parked_change :
    (world.change index group next).1.parked =
      world.parked.filter fun waiting =>
        group.open?.map (⟨index, ·⟩) ≠ some waiting.2 := by
  unfold change
  cases group.open? with
  | none => exact (List.filter_eq_self.mpr fun _ _ => rfl).symm
  | some token =>
      simp [notify, List.partition_eq_filter_filter, eq_comm,
        Function.comp_def]

/-- Who is not woken waits on. -/
theorem woken_or_parked {waiting : Nat × IssuedToken}
    (isParked : waiting ∈ world.parked) :
    waiting.1 ∈ (world.change index group next).2 ∨
      waiting ∈ (world.change index group next).1.parked := by
  rw [woken_change, parked_change]
  by_cases wasOpen : group.open?.map (⟨index, ·⟩) = some waiting.2
  · exact .inl (List.mem_map_of_mem
      (List.mem_filter.mpr ⟨isParked, decide_eq_true wasOpen⟩))
  · exact .inr (List.mem_filter.mpr ⟨isParked, decide_eq_true wasOpen⟩)

end Change

/-! ## Issuing and cancelling -/

variable {world : CancelSources}

/-- Nothing is done through a source that does not exist. -/
theorem issue_cases (world : CancelSources) (source : Nat) :
    (world.issue source = (world, none, []) ∧ world.current? source = none ∧
        ∀ issued, world.hasIssued issued = true →
          world.issueReason? source issued = none) ∨
      ∃ index group, world.groupOf? source = some index ∧
        world.groups[index]? = some group ∧
        world.issue source =
          ((world.change index group group.issue.1).1,
            some ⟨index, group.issue.2⟩,
            (world.change index group group.issue.1).2) := by
  cases isGroup : world.groupOf? source with
  | none =>
      exact .inl ⟨by simp [issue, isGroup], by simp [current?, isGroup],
        fun _ _ => by simp [issueReason?, isGroup]⟩
  | some index =>
      cases found : world.groups[index]? with
      | none =>
          refine .inl ⟨by simp [issue, isGroup, found],
            by simp [current?, isGroup, found], fun issued known => ?_⟩
          rw [issueReason?, isGroup, if_neg]
          rintro same
          obtain rfl := Option.some.inj same
          simp [hasIssued, found] at known
      | some group =>
          exact .inr ⟨index, group, rfl, found, by simp [issue, isGroup, found]⟩

theorem cancel_cases (world : CancelSources) (source : Nat)
    (reason : String) :
    (world.cancel source reason = (world, false, []) ∧
        world.current? source = none) ∨
      ∃ index group, world.groupOf? source = some index ∧
        world.groups[index]? = some group ∧
        world.cancel source reason =
          ((world.change index group (group.cancel reason)).1, group.isOpen,
            (world.change index group (group.cancel reason)).2) := by
  cases isGroup : world.groupOf? source with
  | none =>
      exact .inl ⟨by simp [cancel, isGroup], by simp [current?, isGroup]⟩
  | some index =>
      cases found : world.groups[index]? with
      | none =>
          exact .inl ⟨by simp [cancel, isGroup, found],
            by simp [current?, isGroup, found]⟩
      | some group =>
          exact .inr ⟨index, group, rfl, found,
            by simp [cancel, isGroup, found]⟩

theorem woken_or_parked_issue (source : Nat) {waiting : Nat × IssuedToken}
    (isParked : waiting ∈ world.parked) :
    waiting.1 ∈ (world.issue source).2.2 ∨
      waiting ∈ (world.issue source).1.parked := by
  rcases world.issue_cases source with
    ⟨nothing, -⟩ | ⟨index, group, -, -, isIssue⟩
  · rw [nothing]
    exact .inr isParked
  · rw [isIssue]
    exact woken_or_parked isParked

theorem woken_or_parked_cancel (source : Nat) (reason : String)
    {waiting : Nat × IssuedToken} (isParked : waiting ∈ world.parked) :
    waiting.1 ∈ (world.cancel source reason).2.2 ∨
      waiting ∈ (world.cancel source reason).1.parked := by
  rcases world.cancel_cases source reason with
    ⟨nothing, -⟩ | ⟨index, group, -, -, isCancel⟩
  · rw [nothing]
    exact .inr isParked
  · rw [isCancel]
    exact woken_or_parked isParked

/-- Issuing a token cancels the issued tokens of the group. -/
theorem reason?_issue (ordered : world.AreOrdered) (source : Nat)
    {issued : IssuedToken} (known : world.hasIssued issued = true) :
    (world.issue source).1.reason? issued =
      (world.reason? issued <|> world.issueReason? source issued) := by
  rcases world.issue_cases source with
    ⟨nothing, -, noReason⟩ | ⟨index, group, isGroup, found, isIssue⟩
  · rw [nothing, noReason issued known, Option.orElse_eq_orElse,
      Option.orElse_eq_or, Option.or_none]
  rw [isIssue, reason?_change found, issueReason?, isGroup]
  by_cases same : issued.group = index
  · have isOrdered := ordered group (List.mem_of_getElem? found)
    simp only [hasIssued, same, found, Option.any_some] at known
    rw [if_pos same, if_pos (congrArg some same.symm),
      isOrdered.reason?_issue known, reason?, same, found, Option.bind_some]
  · rw [if_neg same, if_neg (by simpa [eq_comm] using same)]
    simp

/-- Cancelling concerns the current token alone. -/
theorem reason?_cancel (world : CancelSources) (source : Nat)
    (reason : String) (issued : IssuedToken) :
    (world.cancel source reason).1.reason? issued =
      (world.reason? issued <|>
        world.cancelReason? source reason issued) := by
  rcases world.cancel_cases source reason with
    ⟨nothing, noCurrent⟩ | ⟨index, group, isGroup, found, isCancel⟩
  · rw [nothing, cancelReason?, noCurrent]
    simp
  rw [isCancel, reason?_change found, cancelReason?,
    current?_eq_map isGroup found]
  by_cases same : issued.group = index
  · obtain ⟨_, token⟩ := issued
    obtain rfl : _ = index := same
    rw [if_pos rfl, CancelGroup.reason?_cancel, reason?, found,
      Option.bind_some]
    congr 1
    cases group.current? <;> simp
  · rw [if_neg same, if_neg]
    · simp
    · rintro current
      obtain ⟨token, -, rfl⟩ := Option.map_eq_some_iff.mp current
      exact same rfl

/-- An open token is the one its group issued last. -/
theorem current?_of_isOpen (ordered : world.AreOrdered)
    {issued : IssuedToken} (known : world.hasIssued issued = true)
    (isOpen : world.isCancelled issued = false) :
    ∃ group, world.groups[issued.group]? = some group ∧
      group.current? = some issued.token := by
  unfold hasIssued at known
  cases found : world.groups[issued.group]? with
  | none => simp [found] at known
  | some group =>
      rw [found, Option.any_some] at known
      have noReason : group.reason? issued.token = none := by
        simpa [isCancelled_eq, reason?, found] using isOpen
      exact ⟨group, rfl, (ordered group
        (List.mem_of_getElem? found)).current?_of_open known noReason⟩

/-- At most one token of a group is open. -/
theorem AreOrdered.unique (ordered : world.AreOrdered)
    {issued other : IssuedToken} (same : issued.group = other.group)
    (known : world.hasIssued issued = true)
    (otherKnown : world.hasIssued other = true)
    (isOpen : world.isCancelled issued = false)
    (otherOpen : world.isCancelled other = false) : issued = other := by
  obtain ⟨group, found, current⟩ := current?_of_isOpen ordered known isOpen
  obtain ⟨otherGroup, otherFound, otherCurrent⟩ :=
    current?_of_isOpen ordered otherKnown otherOpen
  obtain ⟨index, token⟩ := issued
  obtain ⟨otherIndex, otherToken⟩ := other
  obtain rfl : index = otherIndex := same
  obtain rfl := Option.some.inj (found.symm.trans otherFound)
  obtain rfl := Option.some.inj (current.symm.trans otherCurrent)
  rfl

/-- The tasks wait for issued tokens that are open. -/
structure AreWaiting (world : CancelSources) : Prop where
  issued : ∀ waiting ∈ world.parked, world.hasIssued waiting.2 = true
  isOpen : ∀ waiting ∈ world.parked, world.isCancelled waiting.2 = false

/-- Exactly those are notified who wait for the current token. -/
theorem AreWaiting.woken_change (waits : world.AreWaiting)
    {source index : Nat} {group : CancelGroup}
    (isGroup : world.groupOf? source = some index)
    (found : world.groups[index]? = some group) (next : CancelGroup) :
    (world.change index group next).2 = world.waitingFor source := by
  rw [CancelSources.woken_change, waitingFor, current?_eq_map isGroup found]
  congr 1
  refine List.filter_congr fun waiting isParked => decide_eq_decide.mpr ?_
  simp only [Option.map_eq_some_iff, CancelGroup.open?_eq_some_iff]
  constructor
  · rintro ⟨token, ⟨current, -⟩, isToken⟩
    exact ⟨token, current, isToken⟩
  · rintro ⟨token, current, isToken⟩
    have isOpen := waits.isOpen waiting isParked
    rw [← isToken] at isOpen
    exact ⟨token, ⟨current, by simpa [isCancelled_eq, reason?, found]
      using isOpen⟩, isToken⟩

/-- The others wait for tokens of other groups, which stay open. -/
theorem AreWaiting.change (waits : world.AreWaiting)
    (ordered : world.AreOrdered) {index : Nat} {group next : CancelGroup}
    (found : world.groups[index]? = some group)
    (grows : group.reasons.length ≤ next.reasons.length) :
    (world.change index group next).1.AreWaiting := by
  constructor
  · intro waiting isParked
    rw [parked_change] at isParked
    exact hasIssued_change found grows
      (waits.issued waiting (List.mem_filter.mp isParked).1)
  · intro waiting isParked
    rw [parked_change] at isParked
    obtain ⟨wasParked, notNotified⟩ := List.mem_filter.mp isParked
    have isOpen := waits.isOpen waiting wasParked
    have noReason : world.reason? waiting.2 = none := by
      simpa [isCancelled_eq] using isOpen
    rw [isCancelled_eq, reason?_change found]
    split
    next same =>
      -- An open token of the group is its current one, which was notified.
      obtain ⟨other, isOther, current⟩ := current?_of_isOpen ordered
        (waits.issued waiting wasParked) isOpen
      rw [same, found] at isOther
      obtain rfl := Option.some.inj isOther
      rw [reason?, same, found, Option.bind_some] at noReason
      have wasOpen := CancelGroup.open?_eq_some_iff.mpr ⟨current, noReason⟩
      refine absurd ?_ (of_decide_eq_true notNotified)
      rw [wasOpen, ← same]
      rfl
    next =>
      rw [noReason]
      rfl

/-- Issuing a token notifies those who wait for the one before. -/
theorem woken_issue (waits : world.AreWaiting) (source : Nat) :
    (world.issue source).2.2 = world.waitingFor source := by
  rcases world.issue_cases source with
    ⟨nothing, noCurrent, -⟩ | ⟨index, group, isGroup, found, isIssue⟩
  · rw [nothing, waitingFor, noCurrent]
    simp
  · rw [isIssue]
    exact waits.woken_change isGroup found _

theorem woken_cancel (waits : world.AreWaiting) (source : Nat)
    (reason : String) :
    (world.cancel source reason).2.2 = world.waitingFor source := by
  rcases world.cancel_cases source reason with
    ⟨nothing, noCurrent⟩ | ⟨index, group, isGroup, found, isCancel⟩
  · rw [nothing, waitingFor, noCurrent]
    simp
  · rw [isCancel]
    exact waits.woken_change isGroup found _

/-! ## What every step keeps -/

/-- Every source has a group. -/
def HaveGroups (world : CancelSources) : Prop :=
  ∀ index ∈ world.sources, index < world.groups.length

/-- What one world keeps of another: the sources stay in their groups, and the
tokens stay issued. -/
structure Continues (world next : CancelSources) : Prop where
  groupOf? : ∀ {source index}, world.groupOf? source = some index →
    next.groupOf? source = some index
  hasIssued : ∀ {issued}, world.hasIssued issued = true →
    next.hasIssued issued = true

theorem Continues.refl (world : CancelSources) : world.Continues world :=
  ⟨id, id⟩

theorem Continues.trans {next last : CancelSources}
    (first : world.Continues next) (second : next.Continues last) :
    world.Continues last :=
  ⟨second.groupOf? ∘ first.groupOf?, second.hasIssued ∘ first.hasIssued⟩

theorem Continues.change {index : Nat} {group next : CancelGroup}
    (found : world.groups[index]? = some group)
    (grows : group.reasons.length ≤ next.reasons.length) :
    world.Continues (world.change index group next).1 where
  groupOf? isGroup := by
    rw [CancelSources.groupOf?, sources_change]
    exact isGroup
  hasIssued := hasIssued_change found grows

theorem continues_issue (world : CancelSources) (source : Nat) :
    world.Continues (world.issue source).1 := by
  rcases world.issue_cases source with
    ⟨nothing, -⟩ | ⟨index, group, -, found, isIssue⟩
  · rw [nothing]
    exact .refl world
  · rw [isIssue]
    exact .change found (by simp [CancelGroup.issue])

theorem continues_cancel (world : CancelSources) (source : Nat)
    (reason : String) : world.Continues (world.cancel source reason).1 := by
  rcases world.cancel_cases source reason with
    ⟨nothing, -⟩ | ⟨index, group, -, found, isCancel⟩
  · rw [nothing]
    exact .refl world
  · rw [isCancel]
    exact .change found (by simp)

/-- A group that has issued no token cancels none. -/
theorem continues_addSource (world : CancelSources) :
    world.Continues world.addSource where
  groupOf? {source index} isGroup := by
    have inside := (List.getElem?_eq_some_iff.mp isGroup).1
    exact (List.getElem?_append_left inside).trans isGroup
  hasIssued {issued} known := by
    unfold CancelSources.hasIssued at known ⊢
    cases found : world.groups[issued.group]? with
    | none => simp [found] at known
    | some group =>
        have inside := (List.getElem?_eq_some_iff.mp found).1
        rw [show world.addSource.groups = world.groups ++ [.new] from rfl,
          List.getElem?_append_left inside]
        exact known

theorem reason?_addSource (world : CancelSources) (issued : IssuedToken) :
    world.addSource.reason? issued = world.reason? issued := by
  unfold reason?
  rw [show world.addSource.groups = world.groups ++ [.new] from rfl]
  rcases Nat.lt_trichotomy issued.group world.groups.length with
    before | last | behind
  · rw [List.getElem?_append_left before]
  · simp [last, CancelGroup.reason?, CancelGroup.new]
  · rw [List.getElem?_eq_none (by simp; omega),
      List.getElem?_eq_none (Nat.le_of_lt behind)]

theorem groups_clone (world : CancelSources) (source : Nat) :
    (world.clone source).groups = world.groups := by
  unfold clone
  split <;> rfl

theorem parked_clone (world : CancelSources) (source : Nat) :
    (world.clone source).parked = world.parked := by
  unfold clone
  split <;> rfl

theorem continues_clone (world : CancelSources) (source : Nat) :
    world.Continues (world.clone source) where
  groupOf? {other index} isGroup := by
    have inside := (List.getElem?_eq_some_iff.mp isGroup).1
    unfold clone
    split
    · exact isGroup
    · exact (List.getElem?_append_left inside).trans isGroup
  hasIssued {issued} known := by
    simpa only [CancelSources.hasIssued, groups_clone] using known

theorem reason?_clone (world : CancelSources) (source : Nat)
    (issued : IssuedToken) :
    (world.clone source).reason? issued = world.reason? issued := by
  simp only [reason?, groups_clone]

/-- The groups are ordered, every source has one, and the tasks wait for open
tokens. -/
structure IsSound (world : CancelSources) : Prop where
  ordered : world.AreOrdered
  placed : world.HaveGroups
  waits : world.AreWaiting

theorem isSound_initial : initial.IsSound where
  ordered := by
    intro group isGroup
    rw [List.mem_singleton.mp isGroup]
    exact CancelGroup.isOrdered_new
  placed := by
    intro index isPlaced
    rw [List.mem_singleton.mp isPlaced]
    exact Nat.one_pos
  waits := ⟨nofun, nofun⟩

theorem IsSound.change (sound : world.IsSound) {index : Nat}
    {group next : CancelGroup} (found : world.groups[index]? = some group)
    (grows : group.reasons.length ≤ next.reasons.length)
    (isOrdered : next.IsOrdered) :
    (world.change index group next).1.IsSound where
  ordered := sound.ordered.change isOrdered
  placed other isPlaced := by
    rw [sources_change] at isPlaced
    rw [groups_change, List.length_set]
    exact sound.placed other isPlaced
  waits := sound.waits.change sound.ordered found grows

theorem IsSound.issue (sound : world.IsSound) (source : Nat) :
    (world.issue source).1.IsSound := by
  rcases world.issue_cases source with
    ⟨nothing, -⟩ | ⟨index, group, -, found, isIssue⟩
  · rw [nothing]
    exact sound
  · rw [isIssue]
    exact sound.change found (by simp [CancelGroup.issue])
      (sound.ordered group (List.mem_of_getElem? found)).issue

theorem IsSound.cancel (sound : world.IsSound) (source : Nat)
    (reason : String) : (world.cancel source reason).1.IsSound := by
  rcases world.cancel_cases source reason with
    ⟨nothing, -⟩ | ⟨index, group, -, found, isCancel⟩
  · rw [nothing]
    exact sound
  · rw [isCancel]
    exact sound.change found (by simp)
      ((sound.ordered group (List.mem_of_getElem? found)).cancel reason)

theorem IsSound.addSource (sound : world.IsSound) :
    world.addSource.IsSound where
  ordered group isGroup := by
    rcases List.mem_append.mp isGroup with isOld | isNew
    · exact sound.ordered group isOld
    · rw [List.mem_singleton.mp isNew]
      exact CancelGroup.isOrdered_new
  placed index isPlaced := by
    have grown : world.addSource.groups.length = world.groups.length + 1 := by
      simp [CancelSources.addSource]
    rcases List.mem_append.mp isPlaced with isOld | isNew
    · have := sound.placed index isOld
      omega
    · have := List.mem_singleton.mp isNew
      omega
  waits := {
    issued waiting isParked :=
      world.continues_addSource.hasIssued (sound.waits.issued waiting isParked)
    isOpen waiting isParked := by
      rw [isCancelled_eq, reason?_addSource, ← isCancelled_eq]
      exact sound.waits.isOpen waiting isParked }

theorem IsSound.clone (sound : world.IsSound) (source : Nat) :
    (world.clone source).IsSound := by
  unfold CancelSources.clone
  split
  · exact sound
  next group isGroup =>
    refine ⟨sound.ordered, fun index isPlaced => ?_,
      sound.waits.issued, sound.waits.isOpen⟩
    rcases List.mem_append.mp isPlaced with isOld | isNew
    · exact sound.placed index isOld
    · rw [List.mem_singleton.mp isNew]
      exact sound.placed group (List.mem_of_getElem? isGroup)

/-- A task is parked only when its token is open. -/
theorem IsSound.wait (sound : world.IsSound) (task : Nat)
    {issued : IssuedToken} (known : world.hasIssued issued = true) :
    (world.wait task issued).1.IsSound := by
  unfold CancelSources.wait
  split
  · exact sound
  next notCancelled =>
    refine ⟨sound.ordered, sound.placed, ?_, ?_⟩
    · exact List.forall_mem_cons.mpr ⟨known, sound.waits.issued⟩
    · exact List.forall_mem_cons.mpr
        ⟨eq_false_of_ne_true notCancelled, sound.waits.isOpen⟩

/-! ## What a source answers -/

theorem HaveGroups.exists_group (placed : world.HaveGroups) {source : Nat}
    (inside : source < world.sources.length) :
    ∃ index group, world.groupOf? source = some index ∧
      world.groups[index]? = some group := by
  have isGroup := List.getElem?_eq_getElem inside
  have isPlaced := placed _ (List.mem_of_getElem? isGroup)
  exact ⟨_, _, isGroup, List.getElem?_eq_getElem isPlaced⟩

theorem current?_congr {source other : Nat}
    (same : world.groupOf? source = world.groupOf? other) :
    world.current? source = world.current? other := by
  unfold current?
  rw [same]

/-- What is issued is new, current and open. -/
theorem issue_of_placed (placed : world.HaveGroups) {source : Nat}
    (inside : source < world.sources.length) :
    ∃ issued, (world.issue source).2.1 = some issued ∧
      world.hasIssued issued = false ∧
      (world.issue source).1.current? source = some issued ∧
      (world.issue source).1.hasIssued issued = true ∧
      (world.issue source).1.reason? issued = none := by
  obtain ⟨index, group, isGroup, found⟩ := placed.exists_group inside
  have isIssue : world.issue source =
      ((world.change index group group.issue.1).1, some ⟨index, group.issue.2⟩,
        (world.change index group group.issue.1).2) := by
    simp [issue, isGroup, found]
  have changed : (world.change index group group.issue.1).1.groups[index]? =
      some group.issue.1 := by
    rw [groups_change]
    exact List.getElem?_set_self (List.getElem?_eq_some_iff.mp found).1
  rw [isIssue]
  refine ⟨⟨index, group.issue.2⟩, rfl, ?isNew, ?isCurrent, ?isKnown, ?isOpen⟩
  case isNew =>
    simp [hasIssued, found, CancelGroup.hasIssued, CancelGroup.issue]
  case isCurrent =>
    have stillGroup : (world.change index group
        group.issue.1).1.groupOf? source = some index := by
      rw [groupOf?, sources_change]
      exact isGroup
    rw [current?_eq_map stillGroup changed, CancelGroup.current?_issue]
    rfl
  case isKnown =>
    rw [hasIssued, changed]
    exact CancelGroup.hasIssued_current? group.current?_issue
  case isOpen =>
    rw [reason?, changed]
    exact group.reason?_issue

/-- What is refused leaves everything as it is. -/
theorem cancel_of_refused {source : Nat} {reason : String}
    (refused : (world.cancel source reason).2.1 = false) :
    world.cancel source reason = (world, false, []) := by
  rcases world.cancel_cases source reason with
    ⟨nothing, -⟩ | ⟨index, group, -, found, isCancel⟩
  · exact nothing
  rw [isCancel] at refused
  have closed : group.isOpen = false := refused
  have unchanged : world.groups.set index group = world.groups := by
    obtain ⟨inside, rfl⟩ := List.getElem?_eq_some_iff.mp found
    exact List.set_getElem_self inside
  have noneOpen : group.open? = none := by
    rw [CancelGroup.open?, closed]
    rfl
  rw [isCancel, CancelGroup.cancel_of_not_isOpen closed, change, noneOpen,
    unchanged, closed]

theorem cancel_eq_true_iff (world : CancelSources) (source : Nat)
    (reason : String) :
    (world.cancel source reason).2.1 = true ↔
      ∃ issued, world.current? source = some issued ∧
        world.isCancelled issued = false := by
  rcases world.cancel_cases source reason with
    ⟨nothing, noCurrent⟩ | ⟨index, group, isGroup, found, isCancel⟩
  · simp [nothing, noCurrent]
  rw [isCancel, CancelGroup.isOpen_iff, current?_eq_map isGroup found]
  constructor
  · rintro ⟨token, current, isOpen⟩
    exact ⟨⟨index, token⟩, by rw [current]; rfl,
      by simp [isCancelled_eq, reason?, found, isOpen]⟩
  · rintro ⟨issued, current, isOpen⟩
    obtain ⟨token, isToken, rfl⟩ := Option.map_eq_some_iff.mp current
    exact ⟨token, isToken, by
      simpa [isCancelled_eq, reason?, found] using isOpen⟩

/-- A new source has a group of its own. -/
theorem addSource_of_placed (placed : world.HaveGroups) :
    world.addSource.current? world.sources.length = none ∧
      ∀ source, source < world.sources.length →
        world.addSource.groupOf? source ≠
          world.addSource.groupOf? world.sources.length := by
  have isNew : world.addSource.groupOf? world.sources.length =
      some world.groups.length := List.getElem?_concat_length
  have found : world.addSource.groups[world.groups.length]? =
      some CancelGroup.new := List.getElem?_concat_length
  constructor
  · rw [current?_eq_map isNew found]
    rfl
  · intro source inside
    obtain ⟨index, group, isGroup, isOld⟩ := placed.exists_group inside
    rw [isNew, world.continues_addSource.groupOf? isGroup]
    have before := (List.getElem?_eq_some_iff.mp isOld).1
    exact fun same => Nat.ne_of_lt before (Option.some.inj same)

/-- A clone is in the group of its source. -/
theorem groupOf?_clone {source : Nat} {group : Nat}
    (isGroup : world.groupOf? source = some group) :
    (world.clone source).groupOf? world.sources.length = some group := by
  unfold clone
  rw [isGroup]
  exact List.getElem?_concat_length

end CancelSources

end AgentPipeline
