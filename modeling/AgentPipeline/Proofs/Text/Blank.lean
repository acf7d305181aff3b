import AgentPipeline.Text.Blank

/-!
# Trimming

Trimming takes away the blanks around a text and nothing else, so that of a
text that is not blank something is left.
Main statement: `trims_trim`.
-/

namespace AgentPipeline.Text

theorem isBlank_of_isDigit {character : Char}
    (isDigit : character.isDigit = true) : isBlank character = false := by
  have range : 48 ≤ character.toNat ∧ character.toNat ≤ 57 := by
    simpa [Char.isDigit, UInt32.le_iff_toNat_le] using isDigit
  simp only [isBlank, Bool.or_eq_false_iff, Bool.and_eq_false_iff,
    decide_eq_false_iff_not, beq_eq_false_iff_ne]
  omega

/-- The characters begin with none, or with one that is not a blank. -/
def StartsClear (characters : List Char) : Prop :=
  ∀ first ∈ characters.head?, isBlank first = false

/-- The text between the blanks around a text. -/
structure Trims (text trimmed : List Char) : Prop where
  around : ∃ front back, text = front ++ trimmed ++ back ∧
    front.all isBlank ∧ back.all isBlank
  start : StartsClear trimmed
  ending : StartsClear trimmed.reverse

theorem exists_trimStart (characters : List Char) :
    ∃ front, characters = front ++ trimStart characters ∧
      front.all isBlank :=
  ⟨characters.takeWhile isBlank, List.takeWhile_append_dropWhile.symm,
    List.all_takeWhile⟩

theorem startsClear_trimStart (characters : List Char) :
    StartsClear (trimStart characters) := by
  intro first isFirst
  have notBlank := List.head?_dropWhile_not isBlank characters
  rw [← trimStart, Option.mem_def.mp isFirst] at notBlank
  exact notBlank

theorem StartsClear.of_append {front back : List Char}
    (clear : StartsClear (front ++ back)) : StartsClear front := by
  intro first isFirst
  cases front with
  | nil => cases isFirst
  | cons head rest => exact clear first isFirst

theorem StartsClear.append_right {front : List Char}
    (clear : StartsClear front) (isSome : front ≠ []) (back : List Char) :
    StartsClear (front ++ back) := by
  obtain ⟨first, rest, rfl⟩ := List.exists_cons_of_ne_nil isSome
  exact clear

theorem trimStart_of_startsClear {characters : List Char}
    (clear : StartsClear characters) : trimStart characters = characters := by
  cases characters with
  | nil => rfl
  | cons first rest =>
      exact List.dropWhile_cons_of_neg (by simp [clear first rfl])

theorem trims_trimCharacters (characters : List Char) :
    Trims characters (trimCharacters characters) := by
  obtain ⟨front, isFront, frontBlank⟩ := exists_trimStart characters
  obtain ⟨back, isBack, backBlank⟩ :=
    exists_trimStart (trimStart characters).reverse
  have middle : trimStart characters =
      trimCharacters characters ++ back.reverse := by
    rw [trimCharacters, ← List.reverse_append, ← isBack,
      List.reverse_reverse]
  refine ⟨⟨front, back.reverse, ?_, frontBlank, ?_⟩, ?_, ?_⟩
  · rw [List.append_assoc, ← middle]
    exact isFront
  · rwa [List.all_reverse]
  · have clear := startsClear_trimStart characters
    rw [middle] at clear
    exact clear.of_append
  · rw [trimCharacters, List.reverse_reverse]
    exact startsClear_trimStart _

theorem trims_trim (text : String) :
    Trims text.toList (trim text).toList := by
  rw [trim, String.toList_ofList]
  exact trims_trimCharacters text.toList

namespace Trims

variable {text trimmed : List Char}

theorem all_isBlank (trims : Trims text trimmed) :
    trimmed.all isBlank = text.all isBlank := by
  obtain ⟨front, back, rfl, frontBlank, backBlank⟩ := trims.around
  rw [List.all_append, List.all_append, frontBlank, backBlank]
  simp

/-- What begins with no blank is not blank unless it is empty. -/
theorem eq_nil_iff (trims : Trims text trimmed) :
    trimmed = [] ↔ text.all isBlank := by
  rw [← trims.all_isBlank]
  constructor
  · rintro rfl
    rfl
  · intro blank
    cases trimmed with
    | nil => rfl
    | cons first rest =>
        have notBlank := trims.start first rfl
        rw [List.all_cons, notBlank] at blank
        cases blank

end Trims

theorem isBlankText_trim (text : String) :
    isBlankText (trim text) = isBlankText text :=
  (trims_trim text).all_isBlank

theorem isEmpty_trim_iff (text : String) :
    (trim text).isEmpty = true ↔ isBlankText text = true := by
  rw [String.isEmpty_iff, ← String.toList_eq_nil_iff]
  exact (trims_trim text).eq_nil_iff

end AgentPipeline.Text
