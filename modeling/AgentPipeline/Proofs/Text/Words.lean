import Mathlib.Data.List.Chain
import AgentPipeline.Proofs.Text.Blank

/-!
# Words in one line

The words of a text are what its blanks leave of it, each as long as it can
be.  Joined by single spaces they stand in one line, and a text that stands in
one line is unchanged when its words are joined again.
Main statements: `hasWords_iff`, `isLine_singleSpaced` and
`singleSpaced_eq_toList_iff`.
-/

namespace AgentPipeline.Text

/-! ## Words -/

structure IsWord (word : List Char) : Prop where
  isSome : word ≠ []
  clear : ∀ character ∈ word, isBlank character = false

/-- The text is over, or goes on with a blank. -/
def EndsWord (rest : List Char) : Prop :=
  ∀ first ∈ rest.head?, isBlank first = true

/-- The words of a text in their order: a blank belongs to none of them, and a
word goes on as far as it can. -/
inductive HasWords : List Char → List (List Char) → Prop where
  | nil : HasWords [] []
  | blank {first : Char} {rest : List Char} {found : List (List Char)} :
      isBlank first = true → HasWords rest found →
      HasWords (first :: rest) found
  | word {word rest : List Char} {others : List (List Char)} :
      IsWord word → EndsWord rest → HasWords rest others →
      HasWords (word ++ rest) (word :: others)

theorem endsWord_nil : EndsWord [] := by
  intro first isFirst
  cases isFirst

theorem endsWord_cons {first : Char} {rest : List Char} :
    EndsWord (first :: rest) ↔ isBlank first = true := by
  simp [EndsWord]

namespace IsWord

theorem singleton {character : Char} (clear : isBlank character = false) :
    IsWord [character] where
  isSome := List.cons_ne_nil _ _
  clear := by simpa using clear

theorem cons {first : Char} {word : List Char}
    (clear : isBlank first = false) (isWord : IsWord word) :
    IsWord (first :: word) where
  isSome := List.cons_ne_nil _ _
  clear := List.forall_mem_cons.mpr ⟨clear, isWord.clear⟩

theorem startsClear {word : List Char} (isWord : IsWord word) :
    StartsClear word :=
  fun first isFirst => isWord.clear first (List.mem_of_mem_head? isFirst)

theorem startsClear_append {word : List Char} (isWord : IsWord word)
    (rest : List Char) : StartsClear (word ++ rest) :=
  isWord.startsClear.append_right isWord.isSome rest

end IsWord

theorem words_nil : words [] = [] := rfl

theorem words_cons_of_isBlank {first : Char} {rest : List Char}
    (blank : isBlank first = true) : words (first :: rest) = words rest := by
  rw [words.eq_def]
  exact if_pos blank

theorem words_append_of_isWord {word rest : List Char} (isWord : IsWord word)
    (ends : EndsWord rest) : words (word ++ rest) = word :: words rest := by
  obtain ⟨isSome, clear⟩ := isWord
  induction word with
  | nil => exact absurd rfl isSome
  | cons first later ih =>
      obtain ⟨firstClear, laterClear⟩ := List.forall_mem_cons.mp clear
      cases later with
      | nil =>
          cases rest with
          | nil =>
              rw [List.append_nil, words.eq_def]
              simp [firstClear, words_nil]
          | cons next after =>
              have blank := endsWord_cons.mp ends
              rw [List.singleton_append, words.eq_def]
              simp [firstClear, blank]
      | cons next after =>
          have nextClear := laterClear next List.mem_cons_self
          have laterWords := ih (List.cons_ne_nil _ _) laterClear
          rw [List.cons_append] at laterWords
          rw [List.cons_append, List.cons_append, words.eq_def]
          simp [firstClear, nextClear, laterWords]

namespace HasWords

variable {text : List Char} {found : List (List Char)}

theorem eq_words (has : HasWords text found) : found = words text := by
  induction has with
  | nil => rfl
  | blank blank _ ih => rw [words_cons_of_isBlank blank, ih]
  | word isWord ends _ ih => rw [words_append_of_isWord isWord ends, ih]

theorem isWord_of_mem (has : HasWords text found) :
    ∀ word ∈ found, IsWord word := by
  induction has with
  | nil => simp
  | blank _ _ ih => exact ih
  | word isWord _ _ ih => exact List.forall_mem_cons.mpr ⟨isWord, ih⟩

/-- A character in front of a word makes the word longer. -/
theorem cons_of_clear {first next : Char} {rest : List Char}
    (firstClear : isBlank first = false) (nextClear : isBlank next = false)
    (has : HasWords (next :: rest) found) :
    ∃ longer, HasWords (first :: next :: rest) longer := by
  generalize isText : next :: rest = text at has
  cases has with
  | nil => cases isText
  | blank blank =>
      cases isText
      rw [blank] at nextClear
      cases nextClear
  | @word word rest others isWord ends others =>
      exact ⟨_, .word (isWord.cons firstClear) ends others⟩

end HasWords

theorem exists_hasWords (text : List Char) : ∃ found, HasWords text found := by
  induction text with
  | nil => exact ⟨[], .nil⟩
  | cons first rest ih =>
      obtain ⟨found, has⟩ := ih
      cases blank : isBlank first with
      | true => exact ⟨found, .blank blank has⟩
      | false =>
          have isWord := IsWord.singleton blank
          cases rest with
          | nil => exact ⟨_, .word isWord endsWord_nil has⟩
          | cons next after =>
              cases nextBlank : isBlank next with
              | true =>
                  exact ⟨_, .word isWord (endsWord_cons.mpr nextBlank) has⟩
              | false => exact has.cons_of_clear blank nextBlank

theorem hasWords_iff {text : List Char} {found : List (List Char)} :
    HasWords text found ↔ words text = found := by
  refine ⟨fun has => has.eq_words.symm, ?_⟩
  rintro rfl
  obtain ⟨found, has⟩ := exists_hasWords text
  rwa [← has.eq_words]

theorem hasWords_words (text : List Char) : HasWords text (words text) :=
  hasWords_iff.mpr rfl

/-! ## Lines -/

/-- The only blanks are spaces, and no two of them stand side by side. -/
structure IsSpaced (text : List Char) : Prop where
  space : ∀ character ∈ text, isBlank character = true → character = ' '
  apart : text.IsChain fun left right =>
    isBlank left = true → isBlank right = false

/-- A text in one line, its words one space apart. -/
structure IsLine (line : List Char) : Prop extends IsSpaced line where
  start : StartsClear line
  ending : StartsClear line.reverse

theorem isSpaced_of_clear {text : List Char}
    (clear : ∀ character ∈ text, isBlank character = false) :
    IsSpaced text where
  space character isInside blank := by
    rw [clear character isInside] at blank
    cases blank
  apart := by
    refine (List.pairwise_of_forall_mem_list ?_).isChain
    exact fun _ _ right isRight _ => clear right isRight

namespace IsSpaced

variable {front back : List Char}

theorem of_infix (spaced : IsSpaced back) (isInside : front <:+: back) :
    IsSpaced front where
  space character isCharacter :=
    spaced.space character (isInside.subset isCharacter)
  apart := spaced.apart.infix isInside

theorem append (frontSpaced : IsSpaced front) (backSpaced : IsSpaced back)
    (meet : StartsClear front.reverse ∨ StartsClear back) :
    IsSpaced (front ++ back) where
  space character isInside := by
    rcases List.mem_append.mp isInside with inFront | inBack
    · exact frontSpaced.space character inFront
    · exact backSpaced.space character inBack
  apart := by
    refine List.isChain_append.mpr
      ⟨frontSpaced.apart, backSpaced.apart, ?_⟩
    intro left isLeft right isRight blank
    rcases meet with clear | clear
    · rw [clear left (by simpa using isLeft)] at blank
      cases blank
    · exact clear right isRight

/-- No blank stands behind a blank. -/
theorem startsClear_of_cons {first : Char} {rest : List Char}
    (spaced : IsSpaced (first :: rest)) (blank : isBlank first = true) :
    StartsClear rest :=
  fun next isNext => (List.isChain_cons.mp spaced.apart).1 next isNext blank

end IsSpaced

theorem isLine_nil : IsLine [] where
  toIsSpaced := isSpaced_of_clear (by simp)
  start := by simp [StartsClear]
  ending := by simp [StartsClear]

namespace IsWord

variable {word : List Char} (isWord : IsWord word)
include isWord

theorem startsClear_reverse : StartsClear word.reverse :=
  fun first isFirst => isWord.clear first
    (List.mem_reverse.mp (List.mem_of_mem_head? isFirst))

theorem isLine : IsLine word where
  toIsSpaced := isSpaced_of_clear isWord.clear
  start := isWord.startsClear
  ending := isWord.startsClear_reverse

theorem isLine_append {line : List Char} (isLine : IsLine line)
    (isSome : line ≠ []) : IsLine (word ++ [' '] ++ line) where
  toIsSpaced := by
    have space : IsSpaced [' '] := ⟨by simp, by simp⟩
    have front : IsSpaced (word ++ [' ']) :=
      isWord.isLine.toIsSpaced.append space (.inl isWord.startsClear_reverse)
    exact front.append isLine.toIsSpaced (.inr isLine.start)
  start := by
    rw [List.append_assoc]
    exact isWord.startsClear_append _
  ending := by
    rw [List.reverse_append]
    exact isLine.ending.append_right (by simpa using isSome) _

end IsWord

theorem intercalate_cons_ne_nil {word : List Char} (isWord : IsWord word)
    (others : List (List Char)) : [' '].intercalate (word :: others) ≠ [] := by
  cases others with
  | nil => simpa using isWord.isSome
  | cons next later => simp [List.intercalate_cons_cons]

theorem isLine_intercalate {found : List (List Char)}
    (areWords : ∀ word ∈ found, IsWord word) :
    IsLine ([' '].intercalate found) := by
  induction found with
  | nil => exact isLine_nil
  | cons word others ih =>
      obtain ⟨isWord, areOthers⟩ := List.forall_mem_cons.mp areWords
      cases others with
      | nil =>
          rw [List.intercalate_singleton]
          exact isWord.isLine
      | cons next later =>
          rw [List.intercalate_cons_cons]
          have isNext := areOthers next List.mem_cons_self
          exact isWord.isLine_append (ih areOthers)
            (intercalate_cons_ne_nil isNext later)

theorem singleSpaced_eq (text : String) :
    singleSpaced text = [' '].intercalate (words text.toList) := rfl

theorem isLine_singleSpaced (text : String) : IsLine (singleSpaced text) :=
  isLine_intercalate (hasWords_words text.toList).isWord_of_mem

/-- Where a text ends with a word and its words are one space apart, joining
them again takes away only a space in front. -/
theorem HasWords.intercalate_eq {text : List Char} {found : List (List Char)}
    (has : HasWords text found) (spaced : IsSpaced text)
    (ending : StartsClear text.reverse) :
    [' '].intercalate found = trimStart text := by
  -- What is left behind a word begins with a space and is no line, which is
  -- why a space in front is allowed for.
  induction has with
  | nil => rfl
  | @blank first rest found blank has ih =>
      rw [List.reverse_cons] at ending
      rw [ih (spaced.of_infix (List.suffix_cons first rest).isInfix)
        ending.of_append, trimStart, trimStart,
        List.dropWhile_cons_of_pos blank]
  | @word word rest others isWord ends has ih =>
      rw [trimStart_of_startsClear (isWord.startsClear_append rest)]
      have restSpaced : IsSpaced rest :=
        spaced.of_infix (List.suffix_append word rest).isInfix
      rw [List.reverse_append] at ending
      have joined := ih restSpaced ending.of_append
      cases rest with
      | nil =>
          obtain rfl : others = [] := has.eq_words
          rw [List.intercalate_singleton, List.append_nil]
      | cons next after =>
          have blank := endsWord_cons.mp ends
          obtain rfl : next = ' ' :=
            restSpaced.space next List.mem_cons_self blank
          rw [trimStart, List.dropWhile_cons_of_pos blank, ← trimStart,
            trimStart_of_startsClear (restSpaced.startsClear_of_cons blank)]
            at joined
          have isSome : others ≠ [] := by
            rintro rfl
            obtain rfl : [] = after := joined
            cases ending ' ' rfl
          rw [List.intercalate_cons_of_ne_nil isSome, joined]
          simp

/-- A text is in one line exactly if it is unchanged when its words are joined
again. -/
theorem singleSpaced_eq_toList_iff {text : String} :
    singleSpaced text = text.toList ↔ IsLine text.toList := by
  constructor
  · intro same
    rw [← same]
    exact isLine_singleSpaced text
  · intro isLine
    rw [singleSpaced_eq, (hasWords_words text.toList).intercalate_eq
      isLine.toIsSpaced isLine.ending, trimStart_of_startsClear isLine.start]

end AgentPipeline.Text
