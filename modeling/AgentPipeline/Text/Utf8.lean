import AgentPipeline.Text.Decimal

/-!
# UTF-8 and percent encoding

Text from bytes that may not be well formed: the longest beginning of a
character that cannot go on counts as one replacement character.  In an
address a byte is written as a percent sign and two hexadecimal digits.
-/

namespace AgentPipeline.Text

/-- A character of which some bytes are still to come. -/
structure OpenCharacter where
  /-- The number of bytes to come. -/
  owed : Nat
  /-- The bounds of the next byte. -/
  low : Nat
  high : Nat
  /-- The bits so far. -/
  bits : Nat
deriving DecidableEq, Inhabited, Repr

def openCharacter? (byte : Nat) : Option OpenCharacter :=
  if byte < 0xC2 then none
  else if byte ≤ 0xDF then some ⟨1, 0x80, 0xBF, byte - 0xC0⟩
  else if byte = 0xE0 then some ⟨2, 0xA0, 0xBF, 0⟩
  else if byte = 0xED then some ⟨2, 0x80, 0x9F, 0xD⟩
  else if byte ≤ 0xEF then some ⟨2, 0x80, 0xBF, byte - 0xE0⟩
  else if byte = 0xF0 then some ⟨3, 0x90, 0xBF, 0⟩
  else if byte ≤ 0xF3 then some ⟨3, 0x80, 0xBF, byte - 0xF0⟩
  else if byte = 0xF4 then some ⟨3, 0x80, 0x8F, 4⟩
  else none

/-- What stands for bytes that are no character. -/
def replacementCharacter : Char := '\uFFFD'

/-- What a byte between characters gives at once, and what it opens. -/
def firstByte (byte : Nat) : List Char × Option OpenCharacter :=
  if byte < 0x80 then ([Char.ofNat byte], none)
  else
    match openCharacter? byte with
    | none => ([replacementCharacter], none)
    | some opened => ([], some opened)

/-- What a byte gives, and what is open after it. -/
def nextByte (opened : Option OpenCharacter) (byte : Nat) :
    List Char × Option OpenCharacter :=
  match opened with
  | none => firstByte byte
  | some ⟨owed, low, high, bits⟩ =>
      if byte < low ∨ high < byte then
        let (characters, next) := firstByte byte
        (replacementCharacter :: characters, next)
      else
        let bits := bits * 64 + (byte - 0x80)
        if owed ≤ 1 then ([Char.ofNat bits], none)
        else ([], some ⟨owed - 1, 0x80, 0xBF, bits⟩)

/-- The characters of bytes that follow a character that may be open. -/
def charactersAfter : Option OpenCharacter → List UInt8 → List Char
  | none, [] => []
  | some _, [] => [replacementCharacter]
  | opened, byte :: rest =>
      let (characters, next) := nextByte opened byte.toNat
      characters ++ charactersAfter next rest

/-- The text of bytes, whether or not they are well formed. -/
def ofBytes (bytes : ByteArray) : String :=
  String.ofList (charactersAfter none bytes.toList)

def utf8Bytes (characters : List Char) : List UInt8 :=
  (String.ofList characters).toUTF8.toList

def percentByte (byte : UInt8) : List Char :=
  ['%', upperHexDigit (byte.toNat / 16), upperHexDigit byte.toNat]

/-- Characters with those that are escaped, with controls and with all that
are not ASCII in percent encoding. -/
def percentEncoded (escaped characters : List Char) : List Char :=
  characters.flatMap fun character =>
    if character.toNat < 0x20 ∨ 0x7E < character.toNat
        ∨ character ∈ escaped then
      (utf8Bytes [character]).flatMap percentByte
    else [character]

/-- The bytes of characters in percent encoding; a percent sign that two
hexadecimal digits do not follow stands for itself. -/
def percentDecoded : List Char → List UInt8
  | [] => []
  | '%' :: first :: second :: rest =>
      match hexValue? first, hexValue? second with
      | some high, some low =>
          UInt8.ofNat (16 * high + low) :: percentDecoded rest
      | _, _ => 0x25 :: percentDecoded (first :: second :: rest)
  | character :: rest => utf8Bytes [character] ++ percentDecoded rest

/-- The pieces of a character list between separators; there is always one. -/
def piecesBetween (separates : Char → Bool) : List Char → List (List Char)
  | [] => [[]]
  | character :: rest =>
      if separates character then [] :: piecesBetween separates rest
      else
        match piecesBetween separates rest with
        | [] => [[character]]
        | piece :: others => (character :: piece) :: others

end AgentPipeline.Text
