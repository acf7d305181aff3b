import AgentPipeline.Proofs.Http.Reading
import AgentPipeline.Proofs.Text.Decimal

/-!
# Names in a path

A word stands in a path as it is.  Of any other name, with words behind it, a
path keeps a part: blanks and line ends are dropped, and a mark of a query or a
fragment cuts off the rest, the words included.
-/

namespace AgentPipeline.Url

/-! ## Words in a path -/

/-- A character that stands in a path as it is. -/
structure StandsInPath (character : Char) : Prop where
  isPath : isInPath character = true
  isKept : isKept character = true
  isInside : isAround character = false
  noSlash : isSlash character = false
  noEscape : ¬Text.IsEscaped pathEscaped character
  noDot : character.toLower ≠ '.'
  noPercent : character.toLower ≠ '%'

instance : DecidablePred StandsInPath := fun character =>
  decidable_of_iff
    (isInPath character = true ∧ isKept character = true ∧
      isAround character = false ∧ isSlash character = false ∧
      ¬Text.IsEscaped pathEscaped character ∧ character.toLower ≠ '.' ∧
      character.toLower ≠ '%')
    ⟨fun ⟨isPath, isKept, isInside, noSlash, noEscape, noDot, noPercent⟩ =>
      ⟨isPath, isKept, isInside, noSlash, noEscape, noDot, noPercent⟩,
    fun stands => ⟨stands.isPath, stands.isKept, stands.isInside,
      stands.noSlash, stands.noEscape, stands.noDot, stands.noPercent⟩⟩

theorem standsInPath_of_isDigit {character : Char}
    (isDigit : character.isDigit = true) : StandsInPath character := by
  have digits : ∀ value < 0x3A, (Char.ofNat value).isDigit = true →
      StandsInPath (Char.ofNat value) := by
    decide
  have isCharacter : Char.ofNat character.toNat = character :=
    Char.ofNat_toNat character
  have small : character.toNat < 0x3A := by
    simp only [Char.isDigit, Bool.and_eq_true, decide_eq_true_eq,
      UInt32.le_iff_toNat_le] at isDigit
    exact Nat.lt_succ_of_le isDigit.2
  have isAny := digits character.toNat small
  rw [isCharacter] at isAny
  exact isAny isDigit

/-- A segment of characters that stand in a path as they are. -/
structure IsWord (word : List Char) : Prop where
  isSome : word ≠ []
  stands : ∀ character ∈ word, StandsInPath character

instance : DecidablePred IsWord := fun word =>
  decidable_of_iff
    (word ≠ [] ∧ word.all (fun character => decide (StandsInPath character)))
    ⟨fun ⟨isSome, stands⟩ => ⟨isSome, by simpa using stands⟩,
      fun isWord => ⟨isWord.isSome, by simpa using isWord.stands⟩⟩

namespace IsWord

variable {word : List Char} (isWord : IsWord word)
include isWord

theorem noSlash : ∀ character ∈ word, isSlash character = false :=
  fun character isInside => (isWord.stands character isInside).noSlash

theorem noDots : isDots word = false := by
  obtain ⟨first, rest, rfl⟩ := List.exists_cons_of_ne_nil isWord.isSome
  have stands := isWord.stands first (by simp)
  have noDot := stands.noDot
  have noPercent := stands.noPercent
  simp [isDots, isDoubleDot, isSingleDot, Text.lowerAscii,
    ← String.toList_inj, noDot, noPercent]

theorem written_eq : written word = String.ofList word := by
  rw [written, Text.percentEncoded_eq_self]
  exact fun character isInside => (isWord.stands character isInside).noEscape

end IsWord

theorem isWord_decimal (value : Nat) :
    IsWord (Text.decimal value).toList where
  isSome := by
    rw [Text.decimal, String.toList_ofList]
    exact Text.decimalDigits_ne_nil value
  stands := by
    rw [Text.decimal, String.toList_ofList]
    exact fun digit isInside => standsInPath_of_isDigit
      (Text.isDigit_of_mem_decimalDigits value digit isInside)

/-! ## Words behind a name -/

/-- The path of words behind a name. -/
def trail (words : List (List Char)) : List Char :=
  words.flatMap ('/' :: ·)

theorem piecesBetween_append_trail {words : List (List Char)}
    (name : List Char) (areWords : ∀ word ∈ words, IsWord word) :
    Text.piecesBetween isSlash (name ++ trail words) =
      Text.piecesBetween isSlash name ++ words := by
  induction words generalizing name with
  | nil => simp [trail]
  | cons word words ih =>
      rw [List.forall_mem_cons] at areWords
      have isTrail : trail (word :: words) = '/' :: (word ++ trail words) := rfl
      rw [isTrail, piecesBetween_append_slash, ih word areWords.2,
        piecesBetween_of_no_slash areWords.1.noSlash, List.singleton_append]

theorem of_mem_trail {words : List (List Char)} {character : Char}
    (areWords : ∀ word ∈ words, IsWord word)
    (isInside : character ∈ trail words) :
    isInPath character = true ∧ isKept character = true ∧
      isAround character = false := by
  obtain ⟨word, isWord, isInside⟩ := List.mem_flatMap.mp isInside
  rcases List.mem_cons.mp isInside with rfl | isInside
  · decide
  · have stands := (areWords word isWord).stands character isInside
    exact ⟨stands.isPath, stands.isKept, stands.isInside⟩

theorem closing_nil : closing [] = [] := rfl

/-- Nothing is dropped from words; behind a name they keep its end. -/
theorem closing_append_trail {words : List (List Char)} (name : List Char)
    (areWords : ∀ word ∈ words, IsWord word) (isSome : words ≠ []) :
    closing (name ++ trail words) = name.filter isKept ++ trail words := by
  have isTrail : trail words ≠ [] := by
    obtain ⟨word, words, rfl⟩ := List.exists_cons_of_ne_nil isSome
    exact List.cons_ne_nil '/' _
  have isLast := of_mem_trail areWords (List.getLast_mem isTrail)
  have allKept : (trail words).filter isKept = trail words := by
    rw [List.filter_eq_self]
    exact fun character isInside => (of_mem_trail areWords isInside).2.1
  have parted := List.dropLast_concat_getLast isTrail
  calc
    closing (name ++ trail words) =
        closing ((name ++ (trail words).dropLast)
          ++ (trail words).getLast isTrail :: []) := by
      rw [List.append_assoc, parted]
    _ = (name ++ trail words).filter isKept := by
      rw [closing_append_cons _ _ isLast.2.2, closing_nil, List.append_nil,
        List.append_assoc, parted]
    _ = name.filter isKept ++ trail words := by
      rw [List.filter_append, allKept]

/-- Nothing is dropped from a name that holds nothing of the kind and does not
end in a blank, unless words stand behind it. -/
theorem closing_append_trail_of_isKept {words : List (List Char)}
    {name : List Char} (areWords : ∀ word ∈ words, IsWord word)
    (allKept : ∀ character ∈ name, isKept character = true)
    (noBlankEnd : words = [] → ∀ last ∈ name.getLast?, isAround last = false) :
    closing (name ++ trail words) = name ++ trail words := by
  by_cases isSome : words = []
  · subst isSome
    have isInside : name.rdropWhile isAround = name := by
      rw [List.rdropWhile_eq_self_iff]
      intro isName
      rw [noBlankEnd rfl _ (List.getLast?_eq_some_getLast isName)]
      exact Bool.false_ne_true
    rw [trail, List.flatMap_nil, List.append_nil, closing, isInside,
      List.filter_eq_self.mpr allKept]
  · rw [closing_append_trail name areWords isSome,
      List.filter_eq_self.mpr allKept]

/-- What an address keeps of a name and the words behind it: a part of the
name, and the words unless the path ends before them. -/
structure Keeps (name : List Char) (words : List (List Char))
    (part : List Char) (left : List (List Char)) : Prop where
  isLeft : left = words ∨ left = []
  isPart : part.Sublist name
  isPath : ∀ character ∈ part, isInPath character = true
  isKept : ∀ character ∈ part, isKept character = true
  noBlankEnd : part = name → words = [] →
    ∀ last ∈ name.getLast?, isAround last = false

theorem exists_keeps {words : List (List Char)} (name : List Char)
    (areWords : ∀ word ∈ words, IsWord word) :
    ∃ part left,
      (closing (name ++ trail words)).takeWhile isInPath =
        part ++ trail left ∧
      Keeps name words part left := by
  by_cases isSome : words = []
  · subst isSome
    have isPart : (name.rdropWhile isAround).Sublist name :=
      (List.rdropWhile_prefix isAround name).sublist
    have isFront : ((closing name).takeWhile isInPath).Sublist
        (name.rdropWhile isAround) :=
      (List.takeWhile_sublist isInPath).trans List.filter_sublist
    refine ⟨(closing name).takeWhile isInPath, [], ?_, .inl rfl,
      isFront.trans isPart, fun _ => List.mem_takeWhile_imp, ?_, ?_⟩
    · simp [trail]
    · intro character isInside
      exact List.of_mem_filter
        ((List.takeWhile_sublist isInPath).subset isInside)
    · intro isWhole _ last isLast
      rw [isWhole] at isFront
      have noBlank := List.rdropWhile_eq_self_iff.mp (isPart.antisymm isFront)
      have isName := List.mem_of_getLast? isLast
      have isEnd := noBlank (List.ne_nil_of_mem isName)
      rw [(List.getLast_eq_iff_getLast?_eq_some _).mpr isLast] at isEnd
      exact Bool.eq_false_iff.mpr isEnd
  · have isTrail : (trail words).takeWhile isInPath = trail words := by
      rw [List.takeWhile_eq_self_iff]
      exact fun character isInside => (of_mem_trail areWords isInside).1
    have isKept : ∀ character ∈ name.filter isKept, isKept character = true :=
      fun character => List.of_mem_filter
    rw [closing_append_trail name areWords isSome, List.takeWhile_append,
      isTrail]
    split
    next whole =>
      have isPath := (List.takeWhile_prefix isInPath).eq_of_length whole
      rw [List.takeWhile_eq_self_iff] at isPath
      exact ⟨_, words, rfl, .inl rfl, List.filter_sublist, isPath, isKept,
        fun _ isNone => absurd isNone isSome⟩
    next =>
      have isFront :
          ((name.filter Url.isKept).takeWhile isInPath).Sublist _ :=
        List.takeWhile_sublist isInPath
      refine ⟨_, [], (List.append_nil _).symm, .inr rfl,
        isFront.trans List.filter_sublist, fun _ => List.mem_takeWhile_imp,
        fun character isInside => isKept character (isFront.subset isInside),
        fun _ isNone => absurd isNone isSome⟩

/-! ## Names in the segments of a path -/

/-- A segment as a target names it. -/
def shown (segment : List Char) : List Char := (written segment).toList

theorem map_shown_of_isWord {words : List (List Char)}
    (areWords : ∀ word ∈ words, IsWord word) : words.map shown = words := by
  rw [List.map_congr_left (g := id), List.map_id]
  intro word isInside
  rw [shown, (areWords word isInside).written_eq, String.toList_ofList, id]

theorem resolveDots_append_words {words : List (List Char)}
    (above pieces : List (List Char))
    (areWords : ∀ word ∈ words, IsWord word) (isSome : words ≠ []) :
    resolveDots above (pieces ++ words) =
      (pieces.foldl enter above).reverse ++ words := by
  have plain : ∀ word ∈ words, isDots word = false :=
    fun word isInside => (areWords word isInside).noDots
  rw [resolveDots_append above pieces isSome, resolveDots_of_not_isDots _ plain]

theorem drop_length_of_eq {above : List (List Char)} {segment : List Char}
    {shownSegments rest : List (List Char)}
    (same : shownSegments = above.reverse.map shown ++ segment :: rest) :
    segment ∈ shownSegments.drop above.length := by
  rw [same, List.drop_left' (by simp)]
  exact List.mem_cons_self

/-- A segment that a path shows between a directory and words, where it goes on
from the directory with pieces and leaves the words or no trace of them, is one
of the pieces, or the empty segment behind a dot segment. -/
theorem of_map_shown_eq {above pieces words left : List (List Char)}
    {segment : List Char} (areWords : ∀ word ∈ words, IsWord word)
    (isLeft : left = words ∨ left = [])
    (same : (resolveDots above (pieces ++ left)).map shown =
      above.reverse.map shown ++ segment :: words) :
    ∃ source, shown source = segment ∧
      (source = [] ∨ (source ∈ pieces ∧ isDots source = false)) := by
  by_cases isSome : left = []
  · subst isSome
    have isBehind := drop_length_of_eq same
    rw [List.append_nil, ← List.map_drop] at isBehind
    obtain ⟨source, isSource, isShown⟩ := List.mem_map.mp isBehind
    exact ⟨source, isShown, of_mem_drop_resolveDots isSource⟩
  · obtain rfl := isLeft.resolve_right isSome
    rw [resolveDots_append_words above pieces areWords isSome,
      List.map_append, map_shown_of_isWord areWords,
      List.append_cons, List.append_cancel_right_eq] at same
    have isBehind := drop_length_of_eq same
    rw [← List.map_drop] at isBehind
    obtain ⟨source, isSource, isShown⟩ := List.mem_map.mp isBehind
    exact ⟨source, isShown, .inr (of_mem_drop_foldl_enter isSource)⟩

end AgentPipeline.Url
