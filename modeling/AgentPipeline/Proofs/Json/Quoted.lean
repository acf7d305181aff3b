import AgentPipeline.Json.Printer
import AgentPipeline.Json.Reader

/-!
# Reading back quoted texts

The pieces of a quoted text are its characters, each plain or escaped as it
was written.
-/

namespace AgentPipeline

namespace Json

/-- Whether a character stands for itself in a quoted text. -/
def isVerbatim (character : Char) : Bool := escape character = [character]

def pieceOf (character : Char) : Piece :=
  if isVerbatim character then .plain character else .escaped character

theorem hexValue?_hexDigit :
    ∀ value < 16, Text.hexValue? (Text.hexDigit value) = some value := by
  decide

/-- The escape of a control character gives its number. -/
private theorem readUnicodeEscape_control {character : Char}
    (control : character.toNat < 0x20) (rest : List Char) :
    readUnicodeEscape ('0' :: '0' :: Text.hexDigit (character.toNat / 16)
        :: Text.hexDigit (character.toNat % 16) :: rest) =
      some (.escaped character, rest) := by
  have high := hexValue?_hexDigit (character.toNat / 16) (by omega)
  have low := hexValue?_hexDigit (character.toNat % 16) (by omega)
  have zero : Text.hexValue? '0' = some 0 := by decide
  have code : ((0 * 16 + 0) * 16 + character.toNat / 16) * 16
      + character.toNat % 16 = character.toNat := by omega
  have notHigh : ¬(0xD800 ≤ character.toNat ∧ character.toNat < 0xDC00) := by
    omega
  have notLow : ¬(0xDC00 ≤ character.toNat ∧ character.toNat < 0xE000) := by
    omega
  simp only [readUnicodeEscape, readHex4, zero, high, low, Option.bind_eq_bind,
    Option.bind_some, code, if_neg notHigh, if_neg notLow,
    Char.ofNat_toNat]

theorem readPiece_escape (character : Char) (rest : List Char) :
    readPiece (escape character ++ rest) =
      some (pieceOf character, rest) := by
  unfold pieceOf isVerbatim escape
  split
  · subst character
    rfl
  split
  · subst character
    rfl
  split
  · subst character
    rfl
  split
  · subst character
    rfl
  split
  · subst character
    rfl
  split
  next code =>
    obtain rfl : character = '\x08' := Char.toNat_inj.mp code
    rfl
  split
  next code =>
    obtain rfl : character = '\x0c' := Char.toNat_inj.mp code
    rfl
  split
  next control =>
    have read := readUnicodeEscape_control control rest
    simpa [readPiece] using read
  next quote backslash _ _ _ _ _ control =>
    simp only [List.cons_append, List.nil_append, decide_true, if_true]
    unfold readPiece
    split <;> simp_all

theorem escape_head (character : Char) :
    ∃ first rest, escape character = first :: rest ∧ first ≠ '"' := by
  unfold escape
  split
  · exact ⟨'\\', ['"'], rfl, by decide⟩
  next notQuote =>
    repeat' split
    all_goals first
      | exact ⟨'\\', _, rfl, by decide⟩
      | exact ⟨character, [], rfl, notQuote⟩

theorem readPieces_escapes (characters : List Char) {fuel : Nat}
    (enough : characters.length < fuel) (rest : List Char) :
    readPieces fuel (characters.flatMap escape ++ '"' :: rest) =
      some (characters.map pieceOf, rest) := by
  induction characters generalizing fuel with
  | nil =>
      obtain ⟨fuel, rfl⟩ := Nat.exists_eq_succ_of_ne_zero
        (Nat.ne_of_gt enough)
      rfl
  | cons character characters ih =>
      obtain ⟨fuel, rfl⟩ := Nat.exists_eq_succ_of_ne_zero
        (Nat.ne_of_gt (Nat.zero_lt_of_lt enough))
      obtain ⟨first, others, eq, notQuote⟩ := escape_head character
      have piece := readPiece_escape character
        (characters.flatMap escape ++ '"' :: rest)
      have fewer : characters.length < fuel := by simpa using enough
      have later := ih fewer
      rw [eq] at piece
      simp only [List.flatMap_cons, eq, List.cons_append, List.append_assoc]
        at piece ⊢
      rw [readPieces]
      · simp [piece, later]
      · intro tail same
        exact notQuote (List.cons.inj same).1

theorem charactersOf?_pieces (characters : List Char) :
    charactersOf? (characters.map pieceOf) = some characters := by
  induction characters with
  | nil => rfl
  | cons character characters ih =>
      by_cases verbatim : isVerbatim character = true
      · simp [pieceOf, verbatim, charactersOf?, ih]
      · simp [pieceOf, verbatim, charactersOf?, ih]

theorem allPlain_pieces (characters : List Char) :
    allPlain (characters.map pieceOf) = characters.all isVerbatim := by
  induction characters with
  | nil => rfl
  | cons character characters ih =>
      simp only [allPlain, List.map_cons, List.all_cons] at ih ⊢
      rw [ih]
      by_cases verbatim : isVerbatim character = true
      · simp [pieceOf, verbatim]
      · simp [pieceOf, verbatim]

theorem length_le_flatMap_escape (characters : List Char) :
    characters.length ≤ (characters.flatMap escape).length := by
  induction characters with
  | nil => exact Nat.le_refl 0
  | cons character characters ih =>
      obtain ⟨first, others, eq, _⟩ := escape_head character
      simp only [List.flatMap_cons, eq, List.length_append, List.length_cons]
      omega

/-- How a text is spelled by `quote`. -/
def spelling (text : String) : Spelling :=
  ⟨some text, text.toList.all isVerbatim⟩

theorem readText_quoted (text : String) (rest : List Char) :
    readText (text.toList.flatMap escape ++ '"' :: rest) =
      some (spelling text, rest) := by
  have enough : text.toList.length <
      (text.toList.flatMap escape ++ '"' :: rest).length + 1 := by
    have shorter := length_le_flatMap_escape text.toList
    simp only [List.length_append, List.length_cons]
    omega
  rw [readText, readPieces_escapes text.toList enough rest]
  simp [charactersOf?_pieces, allPlain_pieces, spelling]

end Json

end AgentPipeline
