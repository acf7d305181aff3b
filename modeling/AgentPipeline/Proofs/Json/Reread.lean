import AgentPipeline.Proofs.Json.Numeral
import AgentPipeline.Proofs.Json.Quoted
import AgentPipeline.Proofs.Text.Blank

/-!
# Reading back printed documents

The text of a value spells one document, which `reread` gives.  Numbers apart,
that document is the value itself; a number is what the reader makes of its
digits.  Main statement: `parse?_text`.
-/

namespace AgentPipeline

namespace Json

mutual

/-- The document that the text of a value spells. -/
def reread : Json → Option Document
  | .null => some .null
  | .bool value => some (.bool value)
  | .number value =>
      (numberParts? value).map fun parts => .number parts.value?
  | .string text => some (.string (spelling text))
  | .array items => (rereadItems items).map .array
  | .object members => (rereadMembers members).map .object

def rereadItems : List Json → Option (List Document)
  | [] => some []
  | item :: rest =>
      (reread item).bind fun document =>
        (rereadItems rest).map (document :: ·)

def rereadMembers :
    List (String × Json) → Option (List (Spelling × Document))
  | [] => some []
  | (key, value) :: rest =>
      (reread value).bind fun document =>
        (rereadMembers rest).map ((spelling key, document) :: ·)

end

mutual

/-- A bound on the calls that read the text of a value. -/
def readingSize : Json → Nat
  | .array items => 1 + readingSizeOfItems items
  | .object members => 1 + readingSizeOfMembers members
  | _ => 1

def readingSizeOfItems : List Json → Nat
  | [] => 0
  | item :: rest => 1 + readingSize item + readingSizeOfItems rest

def readingSizeOfMembers : List (String × Json) → Nat
  | [] => 0
  | (_, value) :: rest => 1 + readingSize value + readingSizeOfMembers rest

end

/-! ## The first character -/

/-- The character begins a value and is not a blank or a bracket that
closes. -/
private def Begins (character : Char) : Prop :=
  Text.isBlank character = false ∧ character ≠ ']' ∧ character ≠ '\x7d'

private theorem Begins.notSpace {character : Char}
    (begins : Begins character) :
    isSpace character = false := by
  refine Bool.eq_false_iff.mpr fun space => ?_
  have notBlank := begins.1
  simp only [isSpace, Bool.or_eq_true, beq_iff_eq] at space
  rcases space with ((rfl | rfl) | rfl) | rfl <;> cases notBlank

private theorem begins_of_isDigit {character : Char}
    (isDigit : character.isDigit = true) : Begins character := by
  refine ⟨Text.isBlank_of_isDigit isDigit, ?_, ?_⟩
  · rintro rfl
    cases isDigit
  · rintro rfl
    cases isDigit

/-- A printed number begins with a digit or a minus sign. -/
private theorem number_head (number : Number) :
    ∃ first rest, number.print = first :: rest ∧
      (first.isDigit = true ∨ first = '-') := by
  obtain ⟨⟨negative, whole, fraction, exponent⟩, proper, printed⟩ :=
    print_eq_numeral number
  rw [printed]
  cases negative with
  | true => exact ⟨'-', _, rfl, .inr rfl⟩
  | false =>
      cases whole with
      | nil => exact absurd rfl proper.whole.1
      | cons first rest =>
          exact ⟨first, _, rfl, .inl (proper.whole.2 first (by simp))⟩

private theorem print_head (value : Json) :
    ∃ first rest, value.print = first :: rest ∧ Begins first := by
  cases value with
  | null => exact ⟨'n', _, rfl, by decide, by decide, by decide⟩
  | bool value =>
      cases value
      · exact ⟨'f', _, rfl, by decide, by decide, by decide⟩
      · exact ⟨'t', _, rfl, by decide, by decide, by decide⟩
  | number value =>
      obtain ⟨first, rest, printed, isDigit | rfl⟩ := number_head value
      · exact ⟨first, rest, printed, begins_of_isDigit isDigit⟩
      · exact ⟨'-', rest, printed, by decide, by decide, by decide⟩
  | string text => exact ⟨'"', _, rfl, by decide, by decide, by decide⟩
  | array items =>
      cases items <;> exact ⟨'[', _, rfl, by decide, by decide, by decide⟩
  | object members =>
      rcases members with _ | ⟨⟨key, value⟩, rest⟩ <;>
        exact ⟨'\x7b', _, rfl, by decide, by decide, by decide⟩

/-- The text of a value is not blank. -/
theorem isBlankText_text (value : Json) : Text.isBlankText value.text = false := by
  obtain ⟨first, rest, printed, begins⟩ := print_head value
  simp [Text.isBlankText, text, printed, begins.1]

private theorem skipSpace_cons {character : Char} {rest : List Char}
    (notSpace : isSpace character = false) :
    skipSpace (character :: rest) = character :: rest := by
  simp [skipSpace, notSpace]

private theorem skipSpace_print (value : Json) (rest : List Char) :
    skipSpace (value.print ++ rest) = value.print ++ rest := by
  obtain ⟨first, tail, printed, begins⟩ := print_head value
  rw [printed, List.cons_append, skipSpace_cons begins.notSpace]

private theorem skipSpace_of_closes {rest : List Char}
    (closes : Closes rest) : skipSpace rest = rest := by
  rcases closes.cases with rfl | ⟨tail, rfl | rfl | rfl⟩ <;> rfl

/-! ## Values -/

/-- A text that begins with a digit or a minus sign is read as a number. -/
private theorem readValue_number {fuel : Nat} {first : Char}
    (isNumber : first.isDigit = true ∨ first = '-') (rest : List Char) :
    readValue (fuel + 1) (first :: rest) =
      (readParts (first :: rest)).map fun (parts, rest) =>
        (.number parts.value?, rest) := by
  have notSpace : isSpace first = false := by
    rcases isNumber with isDigit | rfl
    · exact (begins_of_isDigit isDigit).notSpace
    · rfl
  have apart : ∀ other : Char, other.isDigit = false → other ≠ '-' →
      first ≠ other := by
    rintro other notDigit notMinus rfl
    rcases isNumber with isDigit | isMinus
    · simp [notDigit] at isDigit
    · exact notMinus isMinus
  rw [readValue, skipSpace_cons notSpace]
  split
  next same => exact absurd (List.cons.inj same).1 (apart _ rfl (by decide))
  next same => exact absurd (List.cons.inj same).1 (apart _ rfl (by decide))
  next same => exact absurd (List.cons.inj same).1 (apart _ rfl (by decide))
  next same => exact absurd (List.cons.inj same).1 (apart _ rfl (by decide))
  next same => exact absurd (List.cons.inj same).1 (apart _ rfl (by decide))
  next same => exact absurd (List.cons.inj same).1 (apart _ rfl (by decide))
  · rfl

private theorem readValue_printed_number {fuel : Nat} (number : Number)
    {rest : List Char} (closes : Closes rest) :
    readValue (fuel + 1) (print (.number number) ++ rest) =
      (reread (.number number)).map fun document => (document, rest) := by
  obtain ⟨first, tail, printed, isNumber⟩ := number_head number
  have parts := readParts_print number closes
  simp only [print, reread, Option.map_map]
  rw [printed, List.cons_append, readValue_number isNumber,
    ← List.cons_append, ← printed, parts]
  simp [Function.comp_def]

/-- The items behind an opening bracket. -/
private def ItemsReadBack (fuel : Nat) : Prop :=
  ∀ first items rest, 1 + readingSize first + readingSizeOfItems items ≤ fuel →
    readItems fuel (print first ++ (printItems items ++ rest)) =
      (rereadItems (first :: items)).map fun documents => (documents, rest)

/-- The members behind an opening brace. -/
private def MembersReadBack (fuel : Nat) : Prop :=
  ∀ key first members rest,
    1 + readingSize first + readingSizeOfMembers members ≤ fuel →
    readMembers fuel
        (quote key ++ ':' :: (print first ++ (printMembers members ++ rest))) =
      (rereadMembers ((key, first) :: members)).map fun documents =>
        (documents, rest)

private def ValuesReadBack (fuel : Nat) : Prop :=
  ∀ (value : Json) rest, readingSize value ≤ fuel → Closes rest →
    readValue fuel (value.print ++ rest) =
      value.reread.map fun document => (document, rest)

private theorem valuesReadBack_succ {fuel : Nat}
    (itemsReadBack : ItemsReadBack fuel)
    (membersReadBack : MembersReadBack fuel) : ValuesReadBack (fuel + 1) := by
  intro value rest enough closes
  cases value with
  | null => rfl
  | bool value => cases value <;> rfl
  | number number => exact readValue_printed_number number closes
  | string text =>
      have read := readText_quoted text rest
      simp only [print, quote, List.cons_append, List.append_assoc,
        List.nil_append, readValue, skipSpace_cons (by decide : isSpace '"' = false),
        read, reread]
      rfl
  | array items =>
      cases items with
      | nil => rfl
      | cons first items =>
          have read := itemsReadBack first items rest (by
            simp only [readingSize, readingSizeOfItems] at enough
            omega)
          obtain ⟨head, tail, printed, begins⟩ := print_head first
          simp only [print, List.cons_append, List.append_assoc, readValue,
            skipSpace_cons (by decide : isSpace '[' = false),
            skipSpace_print, reread, Option.map_map]
          split
          next same =>
            rw [printed] at same
            exact absurd (List.cons.inj same).1 begins.2.1
          · rw [read, Option.map_map]
            rfl
  | object members =>
      rcases members with _ | ⟨⟨key, first⟩, members⟩
      · rfl
      · have read := membersReadBack key first members rest (by
          simp only [readingSize, readingSizeOfMembers] at enough
          omega)
        simp only [print, List.cons_append, List.append_assoc, readValue,
          skipSpace_cons (by decide : isSpace '\x7b' = false), reread,
          Option.map_map]
        have quoted : ∀ others, quote key ++ others =
            '"' :: (key.toList.flatMap escape ++ '"' :: others) := by
          intro others
          simp [quote]
        rw [quoted] at read ⊢
        rw [skipSpace_cons (by decide : isSpace '"' = false)]
        change Option.map _ (readMembers fuel ('"' :: _)) = _
        rw [read, Option.map_map]
        rfl

/-! ## Items and members -/

private theorem closes_printItems (items : List Json) (rest : List Char) :
    Closes (printItems items ++ rest) := by
  cases items with
  | nil => exact closes_cons (.inr (.inl rfl))
  | cons item items => exact closes_cons (.inl rfl)

private theorem closes_printMembers (members : List (String × Json))
    (rest : List Char) : Closes (printMembers members ++ rest) := by
  rcases members with _ | ⟨⟨key, value⟩, members⟩
  · exact closes_cons (.inr (.inr rfl))
  · exact closes_cons (.inl rfl)

private theorem itemsReadBack_succ {fuel : Nat}
    (valuesReadBack : ValuesReadBack fuel)
    (itemsReadBack : ItemsReadBack fuel) : ItemsReadBack (fuel + 1) := by
  intro first items rest enough
  have closes := closes_printItems items rest
  have value := valuesReadBack first (printItems items ++ rest) (by omega)
    closes
  rw [readItems, value]
  cases firstRead : first.reread with
  | none => simp [rereadItems, firstRead]
  | some document =>
      simp only [Option.map_some, skipSpace_of_closes closes]
      cases items with
      | nil => simp [printItems, rereadItems, firstRead]
      | cons second items =>
          have later := itemsReadBack second items rest (by
            simp only [readingSizeOfItems] at enough
            omega)
          simp only [printItems, List.cons_append, List.append_assoc, later,
            Option.map_map]
          simp [rereadItems, firstRead, Function.comp_def]

private theorem membersReadBack_succ {fuel : Nat}
    (valuesReadBack : ValuesReadBack fuel)
    (membersReadBack : MembersReadBack fuel) :
    MembersReadBack (fuel + 1) := by
  intro key first members rest enough
  have closes := closes_printMembers members rest
  have value := valuesReadBack first (printMembers members ++ rest)
    (by omega) closes
  have quoted : ∀ others, quote key ++ others =
      '"' :: (key.toList.flatMap escape ++ '"' :: others) := by
    intro others
    simp [quote]
  rw [quoted, readMembers, skipSpace_cons (by decide : isSpace '"' = false)]
  simp only [readText_quoted,
    skipSpace_cons (by decide : isSpace ':' = false), value]
  cases firstRead : first.reread with
  | none => simp [rereadMembers, firstRead]
  | some document =>
      simp only [Option.map_some, skipSpace_of_closes closes]
      rcases members with _ | ⟨⟨second, item⟩, members⟩
      · simp [printMembers, rereadMembers, firstRead]
      · have later := membersReadBack second item members rest (by
          simp only [readingSizeOfMembers] at enough
          omega)
        simp only [printMembers, List.cons_append, List.append_assoc, later,
          Option.map_map]
        simp [rereadMembers, firstRead, Function.comp_def]

/-- With fuel for its size every text is read back. -/
private theorem readBack (fuel : Nat) :
    ValuesReadBack fuel ∧ ItemsReadBack fuel ∧ MembersReadBack fuel := by
  induction fuel with
  | zero =>
      refine ⟨?_, ?_, ?_⟩
      · intro value rest enough
        cases value <;> simp [readingSize] at enough
      · intro first items rest enough
        omega
      · intro key first members rest enough
        omega
  | succ fuel ih =>
      obtain ⟨values, items, members⟩ := ih
      exact ⟨valuesReadBack_succ items members,
        itemsReadBack_succ values items, membersReadBack_succ values members⟩

/-! ## Whole texts -/

mutual

private theorem readingSize_le : ∀ value : Json,
    readingSize value ≤ 2 * value.print.length
  | .null | .bool true | .bool false => by simp [readingSize, print]
  | .number value => by
      obtain ⟨first, rest, printed, _⟩ := number_head value
      simp [readingSize, print, printed]
      omega
  | .string text => by
      simp [readingSize, print, quote]
      omega
  | .array [] => by simp [readingSize, readingSizeOfItems, print]
  | .array (first :: items) => by
      have firstSize := readingSize_le first
      have itemsSize := readingSizeOfItems_le items
      simp only [readingSize, readingSizeOfItems, print, List.length_cons,
        List.length_append]
      omega
  | .object [] => by simp [readingSize, readingSizeOfMembers, print]
  | .object ((key, first) :: members) => by
      have firstSize := readingSize_le first
      have membersSize := readingSizeOfMembers_le members
      simp only [readingSize, readingSizeOfMembers, print, List.length_cons,
        List.length_append]
      omega

private theorem readingSizeOfItems_le : ∀ items : List Json,
    readingSizeOfItems items + 1 ≤ 2 * (printItems items).length
  | [] => by simp [readingSizeOfItems, printItems]
  | item :: items => by
      have itemSize := readingSize_le item
      have itemsSize := readingSizeOfItems_le items
      simp only [readingSizeOfItems, printItems, List.length_cons,
        List.length_append]
      omega

private theorem readingSizeOfMembers_le : ∀ members : List (String × Json),
    readingSizeOfMembers members + 1 ≤ 2 * (printMembers members).length
  | [] => by simp [readingSizeOfMembers, printMembers]
  | (key, value) :: members => by
      have valueSize := readingSize_le value
      have membersSize := readingSizeOfMembers_le members
      simp only [readingSizeOfMembers, printMembers, List.length_cons,
        List.length_append]
      omega

end

/-- Only `null` is read back as `null`. -/
theorem reread_eq_null {value : Json} (read : value.reread = some .null) :
    value = .null := by
  cases value with
  | null => rfl
  | bool value => cases read
  | string text => cases read
  | number value | array items | object members =>
      obtain ⟨_, _, same⟩ := Option.map_eq_some_iff.mp read
      cases same

/-- The text of a value spells the document that `reread` gives. -/
theorem parse?_text (value : Json) :
    Document.parse? value.text = value.reread := by
  have enough : readingSize value ≤ 2 * value.print.length + 2 :=
    Nat.le_trans (readingSize_le value) (Nat.le_add_right _ _)
  have read := (readBack _).1 value [] enough closes_nil
  rw [List.append_nil] at read
  rw [Document.parse?, text, String.toList_ofList, readCharacters?, read]
  cases value.reread with
  | none => rfl
  | some document => rfl

end Json

end AgentPipeline
