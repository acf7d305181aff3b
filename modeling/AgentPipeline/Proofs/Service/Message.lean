import AgentPipeline.Proofs.Json.Reread
import AgentPipeline.Service.Error

/-!
# The message of an error answer

What is reported of an answer that is no success: the first member of its body
that holds a message, otherwise the body without the blanks around it, or a
message of its own for a blank body.  What is reported is blank only where that
member holds a blank text.
Main statement: `reports_messageOfBody`.
-/

namespace AgentPipeline

namespace ServiceError

/-- The member says nothing: it is absent or `null`. -/
def IsSilent (body : Json) (field : String) : Prop :=
  body.member? field = none ∨ body.member? field = some .null

/-- The body is an object, and of the members that may hold a message the
first one that says something has the given value. -/
def FirstHolds (body : String) (value : Json) : Prop :=
  ∃ members, Json.parse? body = some (.object members) ∧
    ∃ earlier field later, messageFields = earlier ++ field :: later ∧
      (Json.object members).member? field = some value ∧ value ≠ .null ∧
      ∀ other ∈ earlier, IsSilent (.object members) other

/-- A text says itself, and another value its JSON text. -/
def saidBy : Json → String
  | .string text => text
  | value => value.text

/-- The message that is reported of a body. -/
structure Reports (body message : String) : Prop where
  ofMember : ∀ value, FirstHolds body value → message = saidBy value
  ofText : (∀ value, ¬FirstHolds body value) →
    Text.isBlankText body = false →
      Text.Trims body.toList message.toList
  ofBlank : (∀ value, ¬FirstHolds body value) →
    Text.isBlankText body = true → message = emptyBodyMessage
  isBlank_iff : Text.isBlankText message = true ↔
    ∃ text, FirstHolds body (.string text) ∧ Text.isBlankText text = true

/-! ## Members -/

theorem fieldMessage?_eq_some_iff {body : Json} {field message : String} :
    fieldMessage? body field = some message ↔
      ∃ value, body.member? field = some value ∧ value ≠ .null ∧
        message = saidBy value := by
  unfold fieldMessage?
  split
  next text isText => simp [isText, saidBy, eq_comm]
  next isNull => simp [isNull]
  next other notText notNull isOther =>
    have said : saidBy other = other.text := by
      unfold saidBy
      split
      next text => exact absurd rfl (notText text)
      next => rfl
    have isValue : other ≠ .null := fun same => notNull same
    simp [isOther, said, isValue, eq_comm]
  next absent => simp [absent]

theorem fieldMessage?_eq_none_iff {body : Json} {field : String} :
    fieldMessage? body field = none ↔ IsSilent body field := by
  unfold fieldMessage? IsSilent
  split
  next text isText => simp [isText]
  next isNull => simp [isNull]
  next other notText notNull isOther => simpa [isOther] using notNull
  next absent => simp [absent]

/-- The message of the first member that holds one. -/
theorem found_eq_some_iff {body message : String} :
    (Json.parse? body).bind (fun value =>
        messageFields.findSome? (fieldMessage? value)) = some message ↔
      ∃ value, FirstHolds body value ∧ message = saidBy value := by
  constructor
  · intro found
    obtain ⟨parsed, isParsed, found⟩ := Option.bind_eq_some_iff.mp found
    obtain ⟨earlier, field, later, isFields, holds, silent⟩ :=
      List.findSome?_eq_some_iff.mp found
    obtain ⟨value, isMember, notNull, isMessage⟩ :=
      fieldMessage?_eq_some_iff.mp holds
    cases parsed with
    | object members =>
        refine ⟨value, ⟨members, isParsed, earlier, field, later, isFields,
          isMember, notNull, ?_⟩, isMessage⟩
        exact fun other isOther =>
          fieldMessage?_eq_none_iff.mp (silent other isOther)
    | null | bool | number | string | array => cases isMember
  · rintro ⟨value, ⟨members, isParsed, earlier, field, later, isFields,
      isMember, notNull, silent⟩, isMessage⟩
    rw [isParsed, Option.bind_some, List.findSome?_eq_some_iff]
    refine ⟨earlier, field, later, isFields, ?_, ?_⟩
    · exact fieldMessage?_eq_some_iff.mpr
        ⟨value, isMember, notNull, isMessage⟩
    · exact fun other isOther =>
        fieldMessage?_eq_none_iff.mpr (silent other isOther)

theorem messageOfBody_of_firstHolds {body : String} {value : Json}
    (holds : FirstHolds body value) : messageOfBody body = saidBy value := by
  rw [messageOfBody, found_eq_some_iff.mpr ⟨value, holds, rfl⟩]

theorem messageOfBody_of_none {body : String}
    (none : ∀ value, ¬FirstHolds body value) :
    messageOfBody body =
      if Text.isBlankText body then emptyBodyMessage
      else Text.trim body := by
  have notFound : (Json.parse? body).bind (fun value =>
      messageFields.findSome? (fieldMessage? value)) = .none := by
    refine Option.eq_none_iff_forall_ne_some.mpr fun message found => ?_
    obtain ⟨value, holds, _⟩ := found_eq_some_iff.mp found
    exact none value holds
  simp only [messageOfBody, notFound, Text.isEmpty_trim_iff]

/-- Where a member says something, only a blank text is blank. -/
theorem exists_string_of_isBlank {value : Json}
    (blank : Text.isBlankText (saidBy value) = true) :
    ∃ text, value = .string text ∧ Text.isBlankText text = true := by
  unfold saidBy at blank
  split at blank
  next text => exact ⟨text, rfl, blank⟩
  next =>
    rw [Json.isBlankText_text] at blank
    cases blank

theorem reports_messageOfBody (body : String) :
    Reports body (messageOfBody body) where
  ofMember _ := messageOfBody_of_firstHolds
  ofText none notBlank := by
    rw [messageOfBody_of_none none, notBlank]
    exact Text.trims_trim body
  ofBlank none blank := by
    rw [messageOfBody_of_none none, if_pos blank]
  isBlank_iff := by
    constructor
    · intro blank
      by_cases holds : ∃ value, FirstHolds body value
      · obtain ⟨value, holds⟩ := holds
        rw [messageOfBody_of_firstHolds holds] at blank
        obtain ⟨text, rfl, isBlank⟩ := exists_string_of_isBlank blank
        exact ⟨text, holds, isBlank⟩
      · rw [messageOfBody_of_none (not_exists.mp holds)] at blank
        split at blank
        next => cases blank
        next notBlank =>
          rw [Text.isBlankText_trim] at blank
          exact absurd blank notBlank
    · rintro ⟨text, holds, blank⟩
      rw [messageOfBody_of_firstHolds holds]
      exact blank

/-- A blank detail is what is reported, and the error behind it is not. -/
example : messageOfBody
    "\x7b\"detail\": \" \", \"error\": \"no such model\"\x7d" = " " := by
  decide +kernel

end ServiceError

end AgentPipeline
