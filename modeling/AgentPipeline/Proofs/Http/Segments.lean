import AgentPipeline.Http.Url
import AgentPipeline.Proofs.Text.Utf8

/-!
# The segments of a path

A path is read segment by segment: a segment is put behind the ones before it,
and a dot segment goes back or stays.  So a path that goes on behind a slash
goes on from the directory that its front leads to, and what then stands behind
that directory was not there before.  The segments that a target names are
those of its address.
-/

namespace AgentPipeline.Url

/-! ## One segment after the other -/

/-- Whether a segment leads to a directory that is there already. -/
def isDots (segment : List Char) : Bool :=
  isDoubleDot segment || isSingleDot segment

/-- What is behind segments in reverse order after one more. -/
def enter (above : List (List Char)) (segment : List Char) :
    List (List Char) :=
  if isDoubleDot segment then above.tail
  else if isSingleDot segment then above
  else segment :: above

/-- A path that ends in a dot segment ends in an empty one. -/
def directoryEnd (segments : List (List Char)) : List (List Char) :=
  if segments.getLast?.any isDots then [[]] else []

theorem resolveDots_eq (above segments : List (List Char)) :
    resolveDots above segments =
      (segments.foldl enter above).reverse ++ directoryEnd segments := by
  induction segments generalizing above with
  | nil => simp [resolveDots, directoryEnd]
  | cons segment rest ih =>
      rw [List.foldl_cons, resolveDots]
      cases rest with
      | nil =>
          cases isUp : isDoubleDot segment <;>
            cases isHere : isSingleDot segment <;>
            simp [resolveDots, directoryEnd, isDots, enter, isUp, isHere]
      | cons next rest =>
          have sameEnd : directoryEnd (segment :: next :: rest) =
              directoryEnd (next :: rest) := by
            rw [directoryEnd, directoryEnd, List.getLast?_cons_cons]
          rw [sameEnd, ← ih]
          rfl

theorem resolveDots_append {later : List (List Char)}
    (above earlier : List (List Char)) (isLater : later ≠ []) :
    resolveDots above (earlier ++ later) =
      resolveDots (earlier.foldl enter above) later := by
  have sameEnd : directoryEnd (earlier ++ later) = directoryEnd later := by
    rw [directoryEnd, directoryEnd, List.getLast?_append,
      List.getLast?_eq_some_getLast isLater, Option.some_or]
  rw [resolveDots_eq, resolveDots_eq, List.foldl_append, sameEnd]

theorem enter_of_not_isDots {segment : List Char} (above : List (List Char))
    (plain : isDots segment = false) :
    enter above segment = segment :: above := by
  rw [isDots, Bool.or_eq_false_iff] at plain
  simp [enter, plain]

theorem foldl_enter_of_not_isDots {segments : List (List Char)}
    (above : List (List Char))
    (plain : ∀ segment ∈ segments, isDots segment = false) :
    segments.foldl enter above = segments.reverse ++ above := by
  induction segments generalizing above with
  | nil => rfl
  | cons segment rest ih =>
      rw [List.forall_mem_cons] at plain
      rw [List.foldl_cons, enter_of_not_isDots above plain.1,
        ih (segment :: above) plain.2, List.reverse_cons, List.append_assoc,
        List.singleton_append]

theorem directoryEnd_of_not_isDots {segments : List (List Char)}
    (plain : ∀ segment ∈ segments, isDots segment = false) :
    directoryEnd segments = [] := by
  rw [directoryEnd, if_neg]
  rw [Option.any_eq_true]
  rintro ⟨segment, isLast, dots⟩
  rw [plain segment (List.mem_of_getLast? isLast)] at dots
  exact Bool.noConfusion dots

theorem resolveDots_of_not_isDots {segments : List (List Char)}
    (above : List (List Char))
    (plain : ∀ segment ∈ segments, isDots segment = false) :
    resolveDots above segments = above.reverse ++ segments := by
  rw [resolveDots_eq, foldl_enter_of_not_isDots above plain,
    directoryEnd_of_not_isDots plain, List.reverse_append,
    List.reverse_reverse, List.append_nil]

/-- What is behind a number of segments was entered: going back takes
segments away and never brings one back. -/
theorem forall_mem_drop_foldl_enter {holds : List Char → Prop} {count : Nat}
    {segments above : List (List Char)}
    (before : ∀ segment ∈ above.reverse.drop count, holds segment)
    (entered : ∀ segment ∈ segments, isDots segment = false → holds segment) :
    ∀ segment ∈ (segments.foldl enter above).reverse.drop count,
      holds segment := by
  induction segments generalizing above with
  | nil => exact before
  | cons first rest ih =>
      rw [List.forall_mem_cons] at entered
      refine ih ?_ entered.2
      cases dots : isDots first with
      | false =>
          rw [enter_of_not_isDots above dots, List.reverse_cons,
            List.drop_append, List.forall_mem_append]
          refine ⟨before, fun segment isFirst => ?_⟩
          obtain rfl := List.mem_singleton.mp (List.mem_of_mem_drop isFirst)
          exact entered.1 dots
      | true =>
          cases isUp : isDoubleDot first with
          | false =>
              have isHere : isSingleDot first = true := by
                rwa [isDots, isUp, Bool.false_or] at dots
              simpa [enter, isUp, isHere] using before
          | true =>
              rw [enter, if_pos isUp]
              cases above with
              | nil => simp
              | cons last above =>
                  rw [List.reverse_cons, List.drop_append,
                    List.forall_mem_append] at before
                  exact before.1

theorem of_mem_drop_foldl_enter {above segments : List (List Char)}
    {segment : List Char}
    (isBehind : segment ∈
      (segments.foldl enter above).reverse.drop above.length) :
    segment ∈ segments ∧ isDots segment = false := by
  have nothing : above.reverse.drop above.length = [] :=
    List.drop_eq_nil_of_le (Nat.le_of_eq List.length_reverse)
  have entered : ∀ segment ∈
      (segments.foldl enter above).reverse.drop above.length,
      segment ∈ segments ∧ isDots segment = false :=
    forall_mem_drop_foldl_enter (by simp [nothing])
      fun _ isInside plain => ⟨isInside, plain⟩
  exact entered segment isBehind

/-- What is behind a directory that a path goes on from was entered since, or
it is the empty segment behind a dot segment. -/
theorem of_mem_drop_resolveDots {above segments : List (List Char)}
    {segment : List Char}
    (isBehind : segment ∈ (resolveDots above segments).drop above.length) :
    segment = [] ∨ (segment ∈ segments ∧ isDots segment = false) := by
  rw [resolveDots_eq, List.drop_append, List.mem_append] at isBehind
  rcases isBehind with isEntered | isEnd
  · exact .inr (of_mem_drop_foldl_enter isEntered)
  · have isEmpty := List.mem_of_mem_drop isEnd
    rw [directoryEnd] at isEmpty
    split at isEmpty
    next => exact .inl (List.mem_singleton.mp isEmpty)
    next => exact absurd isEmpty List.not_mem_nil

/-! ## Where a path leads -/

/-- A path without the slash in front. -/
def withoutLead (path : List Char) : List Char :=
  if path.head?.any isSlash then path.tail else path

/-- The directory that a path leads to, in reverse order. -/
def directory (path : List Char) : List (List Char) :=
  (Text.piecesBetween isSlash (withoutLead path)).foldl enter []

/-- A segment as an address holds it. -/
def written (segment : List Char) : String :=
  String.ofList (Text.percentEncoded pathEscaped segment)

theorem toNat_lt_of_hexValue? {character : Char}
    (isDigit : (Text.hexValue? character).isSome) :
    character.toNat < 0x67 := by
  rw [Text.hexValue?] at isDigit
  split at isDigit
  next inside => exact Nat.lt_of_le_of_lt inside.2 (by decide)
  next =>
    split at isDigit
    next inside => exact Nat.lt_of_le_of_lt inside.2 (by decide)
    next =>
      split at isDigit
      next inside => exact Nat.lt_of_le_of_lt inside.2 (by decide)
      next => exact Bool.noConfusion isDigit

/-- Escapes that stand in a segment already are left as they are. -/
theorem not_isEscaped_of_belongsToEscapes {character : Char}
    (belongs : Text.BelongsToEscapes character) :
    ¬Text.IsEscaped pathEscaped character := by
  have all : ∀ value < 0x67, Text.BelongsToEscapes (Char.ofNat value) →
      ¬Text.IsEscaped pathEscaped (Char.ofNat value) := by
    decide
  have small : character.toNat < 0x67 := by
    rcases belongs with rfl | isDigit
    · decide
    · exact toNat_lt_of_hexValue? isDigit
  have isAny := all character.toNat small
  rw [Char.ofNat_toNat character] at isAny
  exact isAny belongs

theorem percentDecoded_written (segment : List Char) :
    Text.percentDecoded (written segment).toList =
      Text.percentDecoded segment := by
  rw [written, String.toList_ofList, Text.percentDecoded_percentEncoded
    fun _ => not_isEscaped_of_belongsToEscapes]

theorem withoutLead_append {front : List Char} (more : List Char)
    (isFront : front ≠ []) :
    withoutLead (front ++ more) = withoutLead front ++ more := by
  obtain ⟨first, rest, rfl⟩ := List.exists_cons_of_ne_nil isFront
  rw [withoutLead, withoutLead, List.cons_append, List.head?_cons,
    List.head?_cons, List.tail_cons, List.tail_cons]
  split <;> rfl

theorem piecesBetween_append_slash (front more : List Char) :
    Text.piecesBetween isSlash (front ++ '/' :: more) =
      Text.piecesBetween isSlash front ++ Text.piecesBetween isSlash more := by
  have isSeparator : isSlash '/' = true := rfl
  simp only [Text.piecesBetween_eq_splitOnP,
    List.splitOnP_append_cons front more isSeparator]

theorem piecesBetween_ne_nil (characters : List Char) :
    Text.piecesBetween isSlash characters ≠ [] := by
  rw [Text.piecesBetween_eq_splitOnP]
  exact List.splitOnP_ne_nil isSlash characters

theorem piecesBetween_of_no_slash {name : List Char}
    (noSlash : ∀ character ∈ name, isSlash character = false) :
    Text.piecesBetween isSlash name = [name] := by
  rw [Text.piecesBetween_eq_splitOnP, List.splitOnP_eq_singleton noSlash]

/-- A path that goes on behind a slash goes on from where its front leads. -/
theorem segments_append_slash {front : List Char} (more : List Char)
    (isFront : front ≠ []) :
    segments (front ++ '/' :: more) =
      (resolveDots (directory front)
        (Text.piecesBetween isSlash more)).map written := by
  change (resolveDots [] (Text.piecesBetween isSlash
    (withoutLead (front ++ '/' :: more)))).map written = _
  rw [withoutLead_append _ isFront, piecesBetween_append_slash,
    resolveDots_append [] _ (piecesBetween_ne_nil more), directory]

/-- A path that ends in a name leads to that name. -/
theorem segments_of_name {name : List Char} (front : List Char)
    (noSlash : ∀ character ∈ name, isSlash character = false)
    (plain : isDots name = false) :
    segments (front ++ '/' :: name) =
      (directory (front ++ '/' :: name)).reverse.map written := by
  have parted : ∃ before,
      Text.piecesBetween isSlash (withoutLead (front ++ '/' :: name)) =
        before ++ [name] := by
    by_cases isFront : front = []
    · subst isFront
      exact ⟨[], piecesBetween_of_no_slash noSlash⟩
    · refine ⟨Text.piecesBetween isSlash (withoutLead front), ?_⟩
      rw [withoutLead_append _ isFront, piecesBetween_append_slash,
        piecesBetween_of_no_slash noSlash]
  obtain ⟨before, isParted⟩ := parted
  change (resolveDots [] (Text.piecesBetween isSlash
    (withoutLead (front ++ '/' :: name)))).map written = _
  have noEnd : directoryEnd (before ++ [name]) = [] := by
    simp [directoryEnd, plain]
  rw [directory, resolveDots_eq, isParted, noEnd, List.append_nil]

/-! ## What a target names -/

/-- The segments of the path in a target. -/
def targetSegments (target : String) : List (List Char) :=
  ((target.toList.drop 1).takeWhile (· ≠ '?')).splitOn '/'

/-- A path holds neither a slash nor a question mark in a segment. -/
structure IsPath (path : List String) : Prop where
  isSome : path ≠ []
  noSlash : ∀ segment ∈ path, '/' ∉ segment.toList
  noQuery : ∀ segment ∈ path, '?' ∉ segment.toList

theorem resolveDots_ne_nil {segments : List (List Char)}
    (above : List (List Char)) (isSome : segments ≠ []) :
    resolveDots above segments ≠ [] := by
  obtain ⟨before, last, rfl⟩ : ∃ before last, segments = before ++ [last] :=
    ⟨_, _, (List.dropLast_concat_getLast isSome).symm⟩
  rw [resolveDots_eq]
  cases dots : isDots last with
  | true => simp [directoryEnd, dots]
  | false =>
      rw [List.foldl_append, List.foldl_cons, enter_of_not_isDots _ dots]
      simp

theorem isPath_segments (path : List Char) : IsPath (segments path) := by
  have noSlash : ∀ segment ∈ resolveDots []
      (Text.piecesBetween isSlash (withoutLead path)), '/' ∉ segment := by
    intro segment isInside
    have isBehind : segment ∈ (resolveDots [] (Text.piecesBetween isSlash
        (withoutLead path))).drop ([] : List (List Char)).length := isInside
    rcases of_mem_drop_resolveDots isBehind with rfl | ⟨isPiece, -⟩
    · exact List.not_mem_nil
    · intro slash
      have parted := (Text.of_mem_piecesBetween isPiece).2 '/' slash
      exact Bool.noConfusion parted
  refine ⟨?isSome, ?noSlash, ?noQuery⟩
  case isSome =>
    change (resolveDots [] _).map written ≠ []
    rw [ne_eq, List.map_eq_nil_iff]
    exact resolveDots_ne_nil [] (piecesBetween_ne_nil _)
  case noSlash =>
    intro segment isInside slash
    obtain ⟨source, isSource, rfl⟩ := List.mem_map.mp isInside
    rw [String.toList_ofList] at slash
    rcases Text.of_mem_percentEncoded slash with ⟨isThere, -⟩ | isEscape
    · exact noSlash source isSource isThere
    · exact absurd isEscape (by decide)
  case noQuery =>
    intro segment isInside query
    obtain ⟨source, isSource, rfl⟩ := List.mem_map.mp isInside
    rw [String.toList_ofList] at query
    rcases Text.of_mem_percentEncoded query with ⟨-, plain⟩ | isEscape
    · exact plain (.inr (.inr (by decide)))
    · exact absurd isEscape (by decide)

theorem not_mem_intercalate {character : Char} {parts : List (List Char)}
    (isOther : character ≠ '/') (nowhere : ∀ part ∈ parts, character ∉ part) :
    character ∉ ['/'].intercalate parts := by
  induction parts with
  | nil => simp
  | cons part rest ih =>
      rw [List.forall_mem_cons] at nowhere
      cases rest with
      | nil => simpa using nowhere.1
      | cons next rest =>
          rw [List.intercalate_cons_cons]
          simp [nowhere.1, isOther, ih nowhere.2]

theorem targetSegments_target {url : Url} (isPath : IsPath url.path) :
    targetSegments url.target = url.path.map String.toList := by
  have written : url.target.toList.drop 1 =
      ['/'].intercalate (url.path.map String.toList)
        ++ ((url.query.map ("?" ++ ·)).getD "").toList := by
    simp [target]
  have inside : ∀ character ∈ ['/'].intercalate (url.path.map String.toList),
      decide (character ≠ '?') = true := by
    intro character isInside
    rw [decide_eq_true_iff]
    rintro rfl
    refine not_mem_intercalate (by decide) ?_ isInside
    simpa using isPath.noQuery
  have behind : ((url.query.map ("?" ++ ·)).getD "").toList.takeWhile
      (fun character => decide (character ≠ '?')) = [] := by
    cases url.query <;> simp
  have noSlash : ∀ part ∈ url.path.map String.toList, '/' ∉ part := by
    simpa using isPath.noSlash
  rw [targetSegments, written, List.takeWhile_append_of_pos inside, behind,
    List.append_nil, List.splitOn_intercalate '/' noSlash]
  simpa using isPath.isSome

end AgentPipeline.Url
