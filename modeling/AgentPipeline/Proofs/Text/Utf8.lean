import Mathlib.Data.List.Flatten
import AgentPipeline.Text.Utf8

/-!
# Bytes, percent encoding and pieces

The bytes of a text tell it apart from every other, and a proper part of it
has fewer.  What percent encoding writes stands for the bytes that the text
itself stands for: what is escaped comes back as it was, and an escape that
the text already holds is not told apart from one that was added.
-/

namespace AgentPipeline.Text

/-! ## The bytes of a text -/

theorem toList_loop (bytes : ByteArray) (index : Nat) (read : List UInt8) :
    ByteArray.toList.loop bytes index read =
      read.reverse ++ bytes.data.toList.drop index := by
  induction index, read using ByteArray.toList.loop.induct bytes with
  | case1 index read inside ih =>
      have next : bytes.data.toList.drop index =
          bytes.data[index] :: bytes.data.toList.drop (index + 1) :=
        List.drop_eq_getElem_cons inside
      rw [ByteArray.toList.loop, if_pos inside, ih, next]
      simp [ByteArray.get!, inside]
  | case2 index read behind =>
      rw [ByteArray.toList.loop, if_neg behind,
        List.drop_eq_nil_of_le (Nat.le_of_not_lt behind), List.append_nil]

theorem utf8Bytes_eq_flatMap (characters : List Char) :
    utf8Bytes characters = characters.flatMap String.utf8EncodeChar := by
  rw [utf8Bytes, ByteArray.toList, toList_loop]
  simp [String.toUTF8, String.ofList, List.utf8Encode]

@[simp]
theorem utf8Bytes_nil : utf8Bytes [] = [] := by
  rw [utf8Bytes_eq_flatMap, List.flatMap_nil]

theorem utf8Bytes_cons (character : Char) (rest : List Char) :
    utf8Bytes (character :: rest) =
      utf8Bytes [character] ++ utf8Bytes rest := by
  simp only [utf8Bytes_eq_flatMap, List.flatMap_cons, List.flatMap_nil,
    List.append_nil]

theorem utf8Bytes_singleton_ne_nil (character : Char) :
    utf8Bytes [character] ≠ [] := by
  simp [utf8Bytes_eq_flatMap, String.utf8EncodeChar_ne_nil]

theorem utf8Bytes_injective {one other : List Char}
    (same : utf8Bytes one = utf8Bytes other) : one = other := by
  simp only [utf8Bytes_eq_flatMap] at same
  have alike : one.utf8Encode = other.utf8Encode := by
    rw [List.utf8Encode, List.utf8Encode, same]
  exact String.ofList_inj.mp (String.toByteArray_inj.mp alike)

theorem length_utf8Bytes_lt_cons (character : Char) (rest : List Char) :
    (utf8Bytes rest).length < (utf8Bytes (character :: rest)).length := by
  have some := List.length_pos_iff.mpr (utf8Bytes_singleton_ne_nil character)
  rw [utf8Bytes_cons, List.length_append]
  omega

/-- A part of a text that has as many bytes is the whole. -/
theorem eq_of_sublist_of_utf8Bytes_le {part whole : List Char}
    (isPart : part.Sublist whole)
    (large : (utf8Bytes whole).length ≤ (utf8Bytes part).length) :
    part = whole := by
  induction isPart with
  | slnil => rfl
  | @cons part whole character isPart ih =>
      have fewer : (utf8Bytes part).length ≤ (utf8Bytes whole).length := by
        simp only [utf8Bytes_eq_flatMap]
        exact (isPart.flatMap _).length_le
      have more := length_utf8Bytes_lt_cons character whole
      omega
  | @cons_cons part whole character isPart ih =>
      rw [utf8Bytes_cons, utf8Bytes_cons character part, List.length_append,
        List.length_append, Nat.add_le_add_iff_left] at large
      rw [ih large]

/-! ## Reading escapes -/

/-- The byte that two hexadecimal digits in front stand for, and what follows
them. -/
def hexPair? : List Char → Option (UInt8 × List Char)
  | first :: second :: rest => do
      let high ← hexValue? first
      let low ← hexValue? second
      some (UInt8.ofNat (16 * high + low), rest)
  | _ => none

theorem hexPair?_of_hexValue?_eq_none {first : Char} (rest : List Char)
    (noDigit : hexValue? first = none) : hexPair? (first :: rest) = none := by
  cases rest with
  | nil => rfl
  | cons second rest => simp [hexPair?, noDigit]

theorem eq_cons_of_hexPair? {characters after : List Char} {byte : UInt8}
    (isPair : hexPair? characters = some (byte, after)) :
    ∃ first second, characters = first :: second :: after := by
  match characters with
  | [] | [_] => simp [hexPair?] at isPair
  | first :: second :: rest =>
      simp only [hexPair?, Option.bind_eq_bind, Option.bind_eq_some_iff,
        Option.some.injEq, Prod.mk.injEq] at isPair
      obtain ⟨high, -, low, -, -, rfl⟩ := isPair
      exact ⟨first, second, rfl⟩

theorem percentDecoded_percent (rest : List Char) :
    percentDecoded ('%' :: rest) =
      match hexPair? rest with
      | some (byte, after) => byte :: percentDecoded after
      | none => 0x25 :: percentDecoded rest := by
  have lone : utf8Bytes ['%'] = [0x25] := by
    rw [utf8Bytes_eq_flatMap]
    decide
  match rest with
  | [] => simp [percentDecoded, hexPair?, lone]
  | [single] => simp [percentDecoded, hexPair?, lone]
  | first :: second :: rest =>
      rw [percentDecoded, hexPair?]
      cases hexValue? first with
      | none => rfl
      | some high =>
          cases hexValue? second with
          | none => rfl
          | some low => rfl

theorem percentDecoded_cons_of_ne {character : Char} (rest : List Char)
    (plain : character ≠ '%') :
    percentDecoded (character :: rest) =
      utf8Bytes [character] ++ percentDecoded rest := by
  rw [percentDecoded]
  rintro first second others rfl
  exact absurd rfl plain

/-- Nothing stands for more bytes than it has itself. -/
theorem length_percentDecoded_le (characters : List Char) :
    (percentDecoded characters).length ≤ (utf8Bytes characters).length := by
  fun_induction percentDecoded characters with
  | case1 => exact Nat.zero_le _
  | case2 first second rest high isHigh low isLow ih =>
      have percent := length_utf8Bytes_lt_cons '%' (first :: second :: rest)
      have digit := length_utf8Bytes_lt_cons first (second :: rest)
      have other := length_utf8Bytes_lt_cons second rest
      rw [List.length_cons]
      omega
  | case3 first second rest noPair ih =>
      have percent := length_utf8Bytes_lt_cons '%' (first :: second :: rest)
      rw [List.length_cons]
      omega
  | case4 character rest noPair ih =>
      rw [utf8Bytes_cons character rest, List.length_append,
        List.length_append]
      omega

/-! ## Writing escapes -/

theorem hexValue?_upperHexDigit (value : Nat) :
    hexValue? (upperHexDigit value) = some (value % 16) := by
  have small : ∀ value < 16, hexValue? (upperHexDigit value) = some value := by
    decide
  have same : upperHexDigit value = upperHexDigit (value % 16) := by
    simp [upperHexDigit, hexDigit]
  rw [same, small _ (Nat.mod_lt value (by decide))]

theorem percentDecoded_percentByte_append (byte : UInt8) (rest : List Char) :
    percentDecoded (percentByte byte ++ rest) =
      byte :: percentDecoded rest := by
  have isByte := byte.toNat_lt
  have whole : 16 * (byte.toNat / 16 % 16) + byte.toNat % 16 = byte.toNat := by
    omega
  simp only [percentByte, List.cons_append, List.nil_append,
    percentDecoded_percent, hexPair?, hexValue?_upperHexDigit,
    Option.bind_eq_bind, Option.bind_some, whole, UInt8.ofNat_toNat]

theorem percentDecoded_flatMap_percentByte_append (bytes : List UInt8)
    (rest : List Char) :
    percentDecoded (bytes.flatMap percentByte ++ rest) =
      bytes ++ percentDecoded rest := by
  induction bytes with
  | nil => rfl
  | cons byte bytes ih =>
      rw [List.flatMap_cons, List.append_assoc,
        percentDecoded_percentByte_append, ih, List.cons_append]

/-- Whether a character is written as escapes. -/
def IsEscaped (escaped : List Char) (character : Char) : Prop :=
  character.toNat < 0x20 ∨ 0x7E < character.toNat ∨ character ∈ escaped

instance (escaped : List Char) : DecidablePred (IsEscaped escaped) :=
  fun character => inferInstanceAs (Decidable (character.toNat < 0x20 ∨
    0x7E < character.toNat ∨ character ∈ escaped))

theorem percentEncoded_cons_of_isEscaped {escaped : List Char}
    {character : Char} (rest : List Char)
    (isEscaped : IsEscaped escaped character) :
    percentEncoded escaped (character :: rest) =
      (utf8Bytes [character]).flatMap percentByte
        ++ percentEncoded escaped rest := by
  unfold IsEscaped at isEscaped
  rw [percentEncoded, List.flatMap_cons, if_pos isEscaped, percentEncoded]

theorem percentEncoded_cons_of_not_isEscaped {escaped : List Char}
    {character : Char} (rest : List Char)
    (plain : ¬IsEscaped escaped character) :
    percentEncoded escaped (character :: rest) =
      character :: percentEncoded escaped rest := by
  unfold IsEscaped at plain
  rw [percentEncoded, List.flatMap_cons, if_neg plain, percentEncoded,
    List.singleton_append]

/-- What is never written as escapes comes back as it was. -/
theorem percentEncoded_eq_self {escaped characters : List Char}
    (plain : ∀ character ∈ characters, ¬IsEscaped escaped character) :
    percentEncoded escaped characters = characters := by
  induction characters with
  | nil => rfl
  | cons character rest ih =>
      rw [List.forall_mem_cons] at plain
      rw [percentEncoded_cons_of_not_isEscaped rest plain.1, ih plain.2]

/-- The characters that an escape is made of. -/
def BelongsToEscapes (character : Char) : Prop :=
  character = '%' ∨ (hexValue? character).isSome

instance : DecidablePred BelongsToEscapes := fun character =>
  inferInstanceAs (Decidable (character = '%' ∨ (hexValue? character).isSome))

theorem belongsToEscapes_of_mem_percentByte {byte : UInt8} {character : Char}
    (isWritten : character ∈ percentByte byte) :
    BelongsToEscapes character := by
  simp only [percentByte, List.mem_cons, List.not_mem_nil, or_false]
    at isWritten
  rcases isWritten with rfl | rfl | rfl
  · exact .inl rfl
  · exact .inr (by rw [hexValue?_upperHexDigit]; rfl)
  · exact .inr (by rw [hexValue?_upperHexDigit]; rfl)

/-- What is written is a character of the text that is not escaped, or it
belongs to an escape. -/
theorem of_mem_percentEncoded {escaped characters : List Char}
    {character : Char}
    (isWritten : character ∈ percentEncoded escaped characters) :
    (character ∈ characters ∧ ¬IsEscaped escaped character) ∨
      BelongsToEscapes character := by
  rw [percentEncoded, List.mem_flatMap] at isWritten
  obtain ⟨source, isSource, isWritten⟩ := isWritten
  split at isWritten
  next isEscaped =>
    obtain ⟨byte, -, isWritten⟩ := List.mem_flatMap.mp isWritten
    exact .inr (belongsToEscapes_of_mem_percentByte isWritten)
  next plain =>
    obtain rfl := List.mem_singleton.mp isWritten
    exact .inl ⟨isSource, plain⟩

theorem exists_percentEncoded_of_isEscaped {escaped : List Char}
    {character : Char} (rest : List Char)
    (isEscaped : IsEscaped escaped character) :
    ∃ written, percentEncoded escaped (character :: rest) = '%' :: written := by
  obtain ⟨byte, bytes, isBytes⟩ :=
    List.exists_cons_of_ne_nil (utf8Bytes_singleton_ne_nil character)
  rw [percentEncoded_cons_of_isEscaped rest isEscaped, isBytes]
  exact ⟨_, rfl⟩

/-! ## Reading back what was written -/

section

variable {escaped : List Char}
  (leaves : ∀ character, BelongsToEscapes character →
    ¬IsEscaped escaped character)
include leaves

theorem hexValue?_of_isEscaped {character : Char}
    (isEscaped : IsEscaped escaped character) :
    hexValue? character = none := by
  rw [← Option.not_isSome_iff_eq_none]
  intro isDigit
  exact leaves character (.inr isDigit) isEscaped

/-- Two digits are in front of what is written exactly where they are in front
of the text. -/
theorem hexPair?_percentEncoded (characters : List Char) :
    hexPair? (percentEncoded escaped characters) =
      (hexPair? characters).map fun (byte, after) =>
        (byte, percentEncoded escaped after) := by
  have noPercent : hexValue? '%' = none := by decide
  cases characters with
  | nil => rfl
  | cons first rest =>
      by_cases isEscaped : IsEscaped escaped first
      · obtain ⟨written, isWritten⟩ :=
          exists_percentEncoded_of_isEscaped rest isEscaped
        rw [isWritten, hexPair?_of_hexValue?_eq_none _ noPercent,
          hexPair?_of_hexValue?_eq_none _
            (hexValue?_of_isEscaped leaves isEscaped)]
        rfl
      · rw [percentEncoded_cons_of_not_isEscaped rest isEscaped]
        cases rest with
        | nil => rfl
        | cons second rest =>
            by_cases isEscaped : IsEscaped escaped second
            · obtain ⟨written, isWritten⟩ :=
                exists_percentEncoded_of_isEscaped rest isEscaped
              simp [isWritten, hexPair?, noPercent,
                hexValue?_of_isEscaped leaves isEscaped]
            · rw [percentEncoded_cons_of_not_isEscaped rest isEscaped]
              cases isHigh : hexValue? first <;>
                cases isLow : hexValue? second <;>
                simp [hexPair?, isHigh, isLow]

/-- What is written stands for what the text stands for. -/
theorem percentDecoded_percentEncoded (characters : List Char) :
    percentDecoded (percentEncoded escaped characters) =
      percentDecoded characters := by
  match characters with
  | [] => rfl
  | character :: rest =>
      by_cases isPercent : character = '%'
      · subst isPercent
        rw [percentEncoded_cons_of_not_isEscaped rest (leaves '%' (.inl rfl)),
          percentDecoded_percent, percentDecoded_percent,
          hexPair?_percentEncoded leaves]
        cases isPair : hexPair? rest with
        | none =>
            simp only [Option.map_none]
            rw [percentDecoded_percentEncoded rest]
        | some pair =>
            obtain ⟨byte, after⟩ := pair
            obtain ⟨first, second, rfl⟩ := eq_cons_of_hexPair? isPair
            simp only [Option.map_some]
            rw [percentDecoded_percentEncoded after]
      · rw [percentDecoded_cons_of_ne rest isPercent]
        by_cases isEscaped : IsEscaped escaped character
        · rw [percentEncoded_cons_of_isEscaped rest isEscaped,
            percentDecoded_flatMap_percentByte_append,
            percentDecoded_percentEncoded rest]
        · rw [percentEncoded_cons_of_not_isEscaped rest isEscaped,
            percentDecoded_cons_of_ne _ isPercent,
            percentDecoded_percentEncoded rest]
termination_by characters.length

end

/-! ## Pieces between separators -/

theorem piecesBetween_eq_splitOnP (separates : Char → Bool)
    (characters : List Char) :
    piecesBetween separates characters = characters.splitOnP separates := by
  induction characters with
  | nil => rfl
  | cons character rest ih =>
      rw [piecesBetween, List.splitOnP_cons_eq_if_modifyHead, ih]
      cases isParted : rest.splitOnP separates with
      | nil => exact absurd isParted (List.splitOnP_ne_nil separates rest)
      | cons piece others => rfl

/-- A piece is a part of the text without separators. -/
theorem of_mem_piecesBetween {separates : Char → Bool}
    {characters piece : List Char}
    (isPiece : piece ∈ piecesBetween separates characters) :
    piece.Sublist characters ∧
      ∀ character ∈ piece, separates character = false := by
  induction characters generalizing piece with
  | nil =>
      obtain rfl := List.mem_singleton.mp isPiece
      simp
  | cons character rest ih =>
      rw [piecesBetween] at isPiece
      split at isPiece
      next separated =>
        rcases List.mem_cons.mp isPiece with rfl | isLater
        · simp
        · exact ⟨(ih isLater).1.cons _, (ih isLater).2⟩
      next inside =>
        split at isPiece
        next nothing =>
          rw [piecesBetween_eq_splitOnP] at nothing
          exact absurd nothing (List.splitOnP_ne_nil separates rest)
        next first others isParted =>
          rcases List.mem_cons.mp isPiece with rfl | isLater
          · have isFirst := ih (isParted ▸ List.mem_cons_self)
            refine ⟨isFirst.1.cons_cons _, ?_⟩
            rw [List.forall_mem_cons]
            exact ⟨Bool.eq_false_iff.mpr inside, isFirst.2⟩
          · have isOther := ih (isParted ▸ List.mem_cons_of_mem _ isLater)
            exact ⟨isOther.1.cons _, isOther.2⟩

end AgentPipeline.Text
