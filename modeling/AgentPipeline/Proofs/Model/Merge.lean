import AgentPipeline.Model.Registry
import AgentPipeline.Proofs.SortedMap.Merge

/-!
# United lists of models

The union of two lists of models is in the order of the identifiers, and for
each of them it holds one model.  A stored model stands while all that the
service offers under its identifier are older; once one of these has taken its
place, the union is what the service alone would have made of them.
Main statements: `areAscending_merge`, `named_merge_eq`, `named_merge`.
-/

namespace AgentPipeline

theorem Timestamp.isBefore_trans {first second third : Timestamp}
    (earlier : first.isBefore second = true)
    (later : second.isBefore third = true) :
    first.isBefore third = true := by
  simp only [isBefore, Bool.or_eq_true, Bool.and_eq_true,
    decide_eq_true_eq] at *
  omega

namespace CustomModel

/-- The identifiers ascend strictly. -/
def AreAscending (models : List CustomModel) : Prop :=
  models.Pairwise fun earlier later => earlier.id < later.id

/-- The first model with an identifier. -/
def named (id : String) (models : List CustomModel) : Option CustomModel :=
  models.find? fun model => model.id == id

theorem named_cons (id : String) (model : CustomModel)
    (models : List CustomModel) :
    named id (model :: models) =
      if model.id = id then some model else named id models := by
  by_cases same : model.id = id
  · simp [named, same]
  · simp [named, same]

theorem id_of_named {id : String} {models : List CustomModel}
    {model : CustomModel} (isNamed : named id models = some model) :
    model.id = id := by
  simpa using List.find?_some isNamed

theorem mem_of_named {id : String} {models : List CustomModel}
    {model : CustomModel} (isNamed : named id models = some model) :
    model ∈ models :=
  List.mem_of_find?_eq_some isNamed

theorem named_eq_none_iff {id : String} {models : List CustomModel} :
    named id models = none ↔ ∀ model ∈ models, model.id ≠ id := by
  simp [named]

theorem named_eq_none_iff_not_mem {id : String} {models : List CustomModel} :
    named id models = none ↔ id ∉ models.map (·.id) := by
  rw [named_eq_none_iff, List.mem_map]
  exact ⟨fun others ⟨model, isModel, same⟩ => others model isModel same,
    fun absent model isModel same => absent ⟨model, isModel, same⟩⟩

/-- Among ascending identifiers each model is found by its own. -/
theorem AreAscending.named_eq_some_iff {models : List CustomModel}
    (ascending : AreAscending models) {id : String} {model : CustomModel} :
    named id models = some model ↔ model ∈ models ∧ model.id = id := by
  constructor
  · intro isNamed
    exact ⟨mem_of_named isNamed, id_of_named isNamed⟩
  · rintro ⟨isModel, rfl⟩
    induction models with
    | nil => cases isModel
    | cons first rest ih =>
        obtain ⟨before, restAscending⟩ := List.pairwise_cons.mp ascending
        rw [named_cons]
        rcases List.mem_cons.mp isModel with rfl | isLater
        · rw [if_pos rfl]
        · have different : first.id ≠ model.id :=
            String.ne_of_lt (before model isLater)
          rw [if_neg different]
          exact ih restAscending isLater

/-! ## Standing against an offer -/

theorem outlasts_eq_true_iff {stored offered : CustomModel} :
    stored.outlasts offered = true ↔
      ∃ storedAt offeredAt, stored.updatedAt = some storedAt ∧
        offered.updatedAt = some offeredAt ∧
          offeredAt.isBefore storedAt = true := by
  unfold outlasts
  split
  next storedAt offeredAt isStored isOffered =>
    simp [isStored, isOffered]
  next absent =>
    constructor
    · rintro ⟨⟩
    · rintro ⟨storedAt, offeredAt, isStored, isOffered, -⟩
      exact absurd isOffered (absent storedAt offeredAt isStored)

theorem outlasts_trans {first second third : CustomModel}
    (newer : first.outlasts second = true)
    (older : second.outlasts third = true) :
    first.outlasts third = true := by
  obtain ⟨firstAt, secondAt, isFirst, isSecond, before⟩ :=
    outlasts_eq_true_iff.mp newer
  obtain ⟨otherAt, thirdAt, isOther, isThird, earlier⟩ :=
    outlasts_eq_true_iff.mp older
  obtain rfl := Option.some.inj (isSecond.symm.trans isOther)
  exact outlasts_eq_true_iff.mpr ⟨firstAt, thirdAt, isFirst, isThird,
    Timestamp.isBefore_trans earlier before⟩

/-- The model that stands for an identifier once another one is offered. -/
def contend (standing : Option CustomModel) (model : CustomModel) :
    Option CustomModel :=
  match standing with
  | some stored => if stored.outlasts model then some stored else some model
  | none => some model

theorem contend_cases (standing : Option CustomModel) (model : CustomModel) :
    contend standing model = standing ∨
      contend standing model = some model := by
  unfold contend
  split
  · split
    · exact .inl rfl
    · exact .inr rfl
  · exact .inr rfl

theorem contend_ne_none (standing : Option CustomModel)
    (model : CustomModel) : contend standing model ≠ none := by
  unfold contend
  split
  · split <;> simp
  · simp

/-- A stored model stands against older ones; otherwise nothing is left of it
behind those that were offered.  What the service offered so far is older than
the stored model, so that the first one that is not takes the place of
either. -/
private theorem foldl_contend_older (stored : CustomModel)
    (standing : Option CustomModel)
    (older : ∀ model, standing = some model → stored.outlasts model = true)
    (offered : List CustomModel) :
    offered.foldl contend (some stored) =
      if ∀ model ∈ offered, stored.outlasts model = true then some stored
      else offered.foldl contend standing := by
  induction offered generalizing standing with
  | nil => simp
  | cons model offered ih =>
      rw [List.foldl_cons, List.foldl_cons]
      by_cases outlasted : stored.outlasts model = true
      · have next : ∀ other, contend standing model = some other →
            stored.outlasts other = true := by
          intro other isOther
          rcases contend_cases standing model with same | same
          · exact older other (same.symm.trans isOther)
          · obtain rfl := Option.some.inj (same.symm.trans isOther)
            exact outlasted
        rw [contend, if_pos outlasted, ih _ next]
        simp only [List.forall_mem_cons, outlasted, true_and]
      · have taken : contend standing model = some model := by
          cases isStanding : standing with
          | none => rfl
          | some other =>
              have notOutlasted : ¬other.outlasts model = true :=
                fun newer => outlasted
                  (outlasts_trans (older other isStanding) newer)
              rw [contend, if_neg notOutlasted]
        rw [contend, if_neg outlasted, taken, if_neg]
        rw [List.forall_mem_cons]
        exact fun all => outlasted all.1

theorem foldl_contend (stored : CustomModel) (offered : List CustomModel) :
    offered.foldl contend (some stored) =
      if ∀ model ∈ offered, stored.outlasts model = true then some stored
      else offered.foldl contend none :=
  foldl_contend_older stored none (by rintro _ ⟨⟩) offered

/-- What is left was there before, or it was offered. -/
theorem mem_of_foldl_contend {standing : Option CustomModel}
    {offered : List CustomModel} {model : CustomModel}
    (stands : offered.foldl contend standing = some model) :
    standing = some model ∨ model ∈ offered := by
  induction offered generalizing standing with
  | nil => exact .inl stands
  | cons first offered ih =>
      rcases ih stands with same | isLater
      · rcases contend_cases standing first with unchanged | taken
        · exact .inl (unchanged.symm.trans same)
        · obtain rfl := Option.some.inj (taken.symm.trans same)
          exact .inr List.mem_cons_self
      · exact .inr (List.mem_cons_of_mem _ isLater)

theorem mem_of_foldl_contend_none {offered : List CustomModel}
    {model : CustomModel}
    (stands : offered.foldl contend none = some model) : model ∈ offered := by
  refine (mem_of_foldl_contend stands).resolve_left ?_
  rintro ⟨⟩

theorem foldl_contend_eq_none_iff {standing : Option CustomModel}
    {offered : List CustomModel} :
    offered.foldl contend standing = none ↔
      standing = none ∧ offered = [] := by
  induction offered generalizing standing with
  | nil => simp
  | cons first offered ih => simp [ih, contend_ne_none]

/-- Of models that are offered one stands in the end. -/
theorem exists_foldl_contend {offered : List CustomModel}
    (given : offered ≠ []) :
    ∃ model ∈ offered, offered.foldl contend none = some model := by
  have stands : offered.foldl contend none ≠ none := fun nothing =>
    given (foldl_contend_eq_none_iff.mp nothing).2
  obtain ⟨model, isLeft⟩ := Option.ne_none_iff_exists'.mp stands
  exact ⟨model, mem_of_foldl_contend_none isLeft, isLeft⟩

/-! ## The union -/

/-- Every model stands under its identifier. -/
def IsKeyed (union : SortedMap String CustomModel) : Prop :=
  ∀ entry ∈ union.entries, entry.1 = entry.2.id

theorem IsKeyed.insert {union : SortedMap String CustomModel}
    (keyed : IsKeyed union) (model : CustomModel) :
    IsKeyed (union.insert model.id model) := by
  intro entry isEntry
  rcases SortedMap.mem_insertEntry isEntry with rfl | isOld
  · rfl
  · exact keyed entry isOld

theorem IsKeyed.offer {union : SortedMap String CustomModel}
    (keyed : IsKeyed union) (model : CustomModel) :
    IsKeyed (offer union model) := by
  unfold CustomModel.offer
  split
  · split
    · exact keyed
    · exact keyed.insert model
  · exact keyed.insert model

theorem isKeyed_ofList (models : List CustomModel) :
    IsKeyed (.ofList (models.map fun model => (model.id, model))) := by
  intro entry isEntry
  obtain ⟨model, -, rfl⟩ :=
    List.mem_map.mp (SortedMap.mem_of_mem_ofList isEntry)
  rfl

theorem isKeyed_foldl_offer {union : SortedMap String CustomModel}
    (keyed : IsKeyed union) (offered : List CustomModel) :
    IsKeyed (offered.foldl CustomModel.offer union) := by
  induction offered generalizing union with
  | nil => exact keyed
  | cons model offered ih => exact ih (keyed.offer model)

theorem IsKeyed.areAscending_values {union : SortedMap String CustomModel}
    (keyed : IsKeyed union) : AreAscending union.values := by
  refine List.pairwise_map.mpr (union.ascending.imp_of_mem ?_)
  intro earlier later isEarlier isLater before
  rw [← keyed earlier isEarlier, ← keyed later isLater]
  exact compareOfLessAndEq_eq_lt.mp before

theorem IsKeyed.named_values {union : SortedMap String CustomModel}
    (keyed : IsKeyed union) (id : String) :
    named id union.values = union.find? id := by
  have found : ∀ entries : List (String × CustomModel),
      (∀ entry ∈ entries, entry.1 = entry.2.id) →
        named id (entries.map Prod.snd) =
          (entries.find? fun entry => compare entry.1 id == .eq).map
            Prod.snd := by
    intro entries
    induction entries with
    | nil => exact fun _ => rfl
    | cons entry entries ih =>
        intro each
        obtain ⟨first, rest⟩ := List.forall_mem_cons.mp each
        rw [List.map_cons, named_cons, ih rest]
        by_cases same : entry.2.id = id
        · simp [first, same]
        · simp [first, same]
  exact found union.entries keyed

theorem find?_offer (union : SortedMap String CustomModel)
    (model : CustomModel) (id : String) :
    (offer union model).find? id =
      if model.id = id then contend (union.find? id) model
      else union.find? id := by
  by_cases same : model.id = id
  · subst same
    rw [if_pos rfl]
    cases found : union.find? model.id with
    | none => simp [offer, contend, found]
    | some stored =>
        by_cases newer : stored.outlasts model = true
        · simp [offer, contend, found, newer]
        · simp [offer, contend, found, newer]
  · rw [if_neg same, offer]
    have other := SortedMap.find?_insert_of_ne same union model
    split
    · split
      · rfl
      · exact other
    · exact other

theorem find?_foldl_offer (union : SortedMap String CustomModel)
    (offered : List CustomModel) (id : String) :
    (offered.foldl offer union).find? id =
      (offered.filter (·.id = id)).foldl contend (union.find? id) := by
  induction offered generalizing union with
  | nil => rfl
  | cons model offered ih =>
      rw [List.foldl_cons, ih, find?_offer]
      by_cases same : model.id = id
      · rw [if_pos same, List.filter_cons_of_pos (by simpa using same),
          List.foldl_cons]
      · rw [if_neg same, List.filter_cons_of_neg (by simpa using same)]

theorem areAscending_merge (stored offered : List CustomModel) :
    AreAscending (merge stored offered) :=
  (isKeyed_foldl_offer (isKeyed_ofList stored) offered).areAscending_values

/-- The map of a list holds the last entry of an identifier. -/
theorem find?_ofList_eq_getLast? (models : List CustomModel) (id : String) :
    (SortedMap.ofList (models.map fun model => (model.id, model))).find? id =
      (models.filter (·.id = id)).getLast? := by
  induction models with
  | nil => rfl
  | cons model models ih =>
      have single : (SortedMap.ofList [(model.id, model)]).find? id =
          if model.id = id then some model else none := by
        by_cases same : model.id = id
        · subst same
          rw [if_pos rfl]
          exact SortedMap.find?_insert_self _ _ _
        · rw [if_neg same]
          exact SortedMap.find?_insert_of_ne same _ _
      have appended := SortedMap.find?_ofList_append [(model.id, model)]
        (models.map fun model => (model.id, model)) id
      rw [List.singleton_append] at appended
      rw [List.map_cons, appended, ih, single]
      by_cases same : model.id = id
      · rw [if_pos same, List.filter_cons_of_pos (by simpa using same),
          List.getLast?_cons]
        cases (models.filter (·.id = id)).getLast? <;> rfl
      · rw [if_neg same, List.filter_cons_of_neg (by simpa using same)]
        cases (models.filter (·.id = id)).getLast? <;> rfl

/-- Under an identifier the last of the stored entries contends with those
that are offered. -/
theorem named_merge_eq (stored offered : List CustomModel) (id : String) :
    named id (merge stored offered) =
      (offered.filter (·.id = id)).foldl contend
        (stored.filter (·.id = id)).getLast? := by
  rw [merge, (isKeyed_foldl_offer (isKeyed_ofList stored)
    offered).named_values, find?_foldl_offer, find?_ofList_eq_getLast?]

/-- Among ascending identifiers the last entry of one is the only one. -/
theorem AreAscending.getLast?_filter {models : List CustomModel}
    (ascending : AreAscending models) (id : String) :
    (models.filter (·.id = id)).getLast? = named id models := by
  cases last : (models.filter (·.id = id)).getLast? with
  | none =>
      have noEntry := List.getLast?_eq_none_iff.mp last
      symm
      simpa [named_eq_none_iff, List.filter_eq_nil_iff] using noEntry
  | some model =>
      obtain ⟨isModel, isId⟩ := List.mem_filter.mp (List.mem_of_getLast? last)
      exact (ascending.named_eq_some_iff.mpr
        ⟨isModel, of_decide_eq_true isId⟩).symm

theorem named_merge {stored : List CustomModel}
    (ascending : AreAscending stored) (offered : List CustomModel)
    (id : String) :
    named id (merge stored offered) =
      (offered.filter (·.id = id)).foldl contend (named id stored) := by
  rw [named_merge_eq, ascending.getLast?_filter]

/-- A stored model is shown if all that are offered for it are older. -/
theorem named_merge_of_stored {stored : List CustomModel}
    (ascending : AreAscending stored) (offered : List CustomModel)
    {id : String} {model : CustomModel}
    (isStored : named id stored = some model) :
    named id (merge stored offered) =
      if ∀ other ∈ offered, other.id = id → model.outlasts other = true
      then some model else named id (merge [] offered) := by
  rw [named_merge ascending, isStored, foldl_contend,
    named_merge List.Pairwise.nil]
  simp only [List.mem_filter, decide_eq_true_eq, and_imp]
  rfl

/-- What the service offers for an identifier is shown of nothing stored. -/
theorem exists_named_merge_nil {offered : List CustomModel} {id : String}
    {other : CustomModel} (isOffered : other ∈ offered)
    (sameId : other.id = id) :
    ∃ model ∈ offered, model.id = id ∧
      named id (merge [] offered) = some model := by
  rw [named_merge List.Pairwise.nil]
  have given : offered.filter (·.id = id) ≠ [] := by
    intro isEmpty
    have member : other ∈ offered.filter (·.id = id) := by
      simpa using ⟨isOffered, sameId⟩
    rw [isEmpty] at member
    cases member
  obtain ⟨model, isModel, stands⟩ := exists_foldl_contend given
  obtain ⟨inList, isId⟩ := List.mem_filter.mp isModel
  exact ⟨model, inList, by simpa using isId, stands⟩

/-- An identifier is absent from the union if it is in neither list. -/
theorem named_merge_eq_none_iff {stored offered : List CustomModel}
    {id : String} (absent : named id stored = none) :
    named id (merge stored offered) = none ↔
      ∀ model ∈ offered, model.id ≠ id := by
  have noEntry : stored.filter (·.id = id) = [] := by
    simpa [named_eq_none_iff, List.filter_eq_nil_iff] using absent
  rw [named_merge_eq, foldl_contend_eq_none_iff, noEntry]
  simp [List.filter_eq_nil_iff]

end CustomModel

end AgentPipeline
