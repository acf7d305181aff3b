import AgentPipeline.Json.Document

/-!
# Reading JSON

The grammar of JSON over lists of characters.  Every function takes the
characters that are left and returns what it read with the characters behind
it, or nothing when the text is not well formed.
-/

namespace AgentPipeline

namespace Json

/-- The blanks of JSON: space, tab, line feed and carriage return. -/
def isSpace (character : Char) : Bool :=
  character == ' ' || character == '\t' || character == '\n'
    || character == '\r'

/-- The characters from the first that is not a blank. -/
def skipSpace (characters : List Char) : List Char :=
  characters.dropWhile isSpace

/-- The value of four hexadecimal digits. -/
def readHex4 : List Char → Option (Nat × List Char)
  | a :: b :: c :: d :: rest => do
      let a ← Text.hexValue? a
      let b ← Text.hexValue? b
      let c ← Text.hexValue? c
      let d ← Text.hexValue? d
      some (((a * 16 + b) * 16 + c) * 16 + d, rest)
  | _ => none

/-- The character of a single-letter escape. -/
def shortEscape? : Char → Option Char
  | '"' => some '"'
  | '\\' => some '\\'
  | '/' => some '/'
  | 'b' => some '\x08'
  | 'f' => some '\x0c'
  | 'n' => some '\n'
  | 'r' => some '\r'
  | 't' => some '\t'
  | _ => none

/-- The character that two halves of a surrogate pair stand for. -/
def pairSurrogates (high low : Nat) : Char :=
  Char.ofNat (0x10000 + (high - 0xD800) * 0x400 + (low - 0xDC00))

/-- One piece of a text: a character written as itself or escaped, or half of
a surrogate pair. -/
inductive Piece where
  | plain (character : Char)
  | escaped (character : Char)
  | half

/-- The piece behind `\u`. -/
def readUnicodeEscape (characters : List Char) : Option (Piece × List Char) :=
  match readHex4 characters with
  | none => none
  | some (unit, rest) =>
      if 0xD800 ≤ unit ∧ unit < 0xDC00 then
        match rest with
        | '\\' :: 'u' :: more =>
            match readHex4 more with
            | some (low, behind) =>
                if 0xDC00 ≤ low ∧ low < 0xE000 then
                  some (.escaped (pairSurrogates unit low), behind)
                else some (.half, rest)
            | none => none
        | _ => some (.half, rest)
      else if 0xDC00 ≤ unit ∧ unit < 0xE000 then some (.half, rest)
      else some (.escaped (Char.ofNat unit), rest)

/-- One piece of a text in front of its closing quote. -/
def readPiece : List Char → Option (Piece × List Char)
  | [] => none
  | '\\' :: 'u' :: rest => readUnicodeEscape rest
  | '\\' :: letter :: rest =>
      (shortEscape? letter).map fun character => (.escaped character, rest)
  | '\\' :: [] => none
  | character :: rest =>
      if character.toNat < 0x20 then none else some (.plain character, rest)

/-- The pieces up to the closing quote, with fuel for the characters left. -/
def readPieces : Nat → List Char → Option (List Piece × List Char)
  | 0, _ => none
  | _ + 1, '"' :: rest => some ([], rest)
  | fuel + 1, characters => do
      let (piece, rest) ← readPiece characters
      let (pieces, rest) ← readPieces fuel rest
      some (piece :: pieces, rest)

/-- The characters of pieces without half of a surrogate pair. -/
def charactersOf? : List Piece → Option (List Char)
  | [] => some []
  | .half :: _ => none
  | .plain character :: rest | .escaped character :: rest =>
      (charactersOf? rest).map (character :: ·)

/-- Whether every piece stands for itself. -/
def allPlain (pieces : List Piece) : Bool :=
  pieces.all fun piece => match piece with
    | .plain _ => true
    | _ => false

/-- The text behind an opening quote. -/
def readText (characters : List Char) : Option (Spelling × List Char) :=
  (readPieces (characters.length + 1) characters).map fun (pieces, rest) =>
    (⟨(charactersOf? pieces).map String.ofList, allPlain pieces⟩, rest)

structure NumberParts where
  negative : Bool
  whole : List Char
  fraction : List Char
  /-- The exponent, if one is written. -/
  exponent : Option Int
deriving DecidableEq

/-- The whole part: a single zero, or digits that do not begin with one. -/
def readWhole (characters : List Char) : Option (List Char × List Char) :=
  match Text.spanDigits characters with
  | ([], _) => none
  | ('0' :: _ :: _, _) => none
  | (digits, rest) => some (digits, rest)

/-- The digits behind a point, if there is one. -/
def readFraction : List Char → Option (List Char × List Char)
  | '.' :: characters =>
      match Text.spanDigits characters with
      | ([], _) => none
      | (digits, rest) => some (digits, rest)
  | characters => some ([], characters)

def readSignedDigits (negative : Bool) (characters : List Char) :
    Option (Option Int × List Char) :=
  match Text.spanDigits characters with
  | ([], _) => none
  | (digits, rest) =>
      let magnitude : Int := Text.ofDecimalDigits digits
      some (some (if negative then -magnitude else magnitude), rest)

def readExponent : List Char → Option (Option Int × List Char)
  | letter :: characters =>
      if letter = 'e' ∨ letter = 'E' then
        match characters with
        | '-' :: rest => readSignedDigits true rest
        | '+' :: rest => readSignedDigits false rest
        | rest => readSignedDigits false rest
      else some (none, letter :: characters)
  | [] => some (none, [])

def readParts (characters : List Char) : Option (NumberParts × List Char) := do
  let (negative, characters) := match characters with
    | '-' :: rest => (true, rest)
    | rest => (false, rest)
  let (whole, characters) ← readWhole characters
  let (fraction, characters) ← readFraction characters
  let (exponent, characters) ← readExponent characters
  some (⟨negative, whole, fraction, exponent⟩, characters)

/-- The number of leading digits that fit into 64 bits, as a significand, with
the number of digits taken. -/
def significandOf (start : Nat) : List Char → Nat × Nat
  | [] => (start, 0)
  | digit :: rest =>
      let next := 10 * start + Text.digitValue digit
      if next < UInt64.size then
        let (significand, taken) := significandOf next rest
        (significand, taken + 1)
      else (start, 0)

namespace NumberParts

/-- The floating-point value: the digits that fit into 64 bits, scaled by the
power of ten that belongs to the last of them. -/
def double? (parts : NumberParts) : Option Double :=
  let (wholePart, wholeTaken) := significandOf 0 parts.whole
  let (significand, fractionTaken) := significandOf wholePart parts.fraction
  let shift : Int := (parts.whole.length : Int) - wholeTaken - fractionTaken
  Double.ofParts? parts.negative significand
    (shift + parts.exponent.getD 0)

/-- The value of a number.  Digits alone are an integer when 64 bits hold it,
where zero has no sign; everything else is a floating-point number. -/
def value? (parts : NumberParts) : Option Number :=
  let magnitude := Text.ofDecimalDigits parts.whole
  if parts.fraction = [] ∧ parts.exponent = none then
    if parts.negative then
      if 0 < magnitude ∧ magnitude ≤ UInt64.size / 2 then
        some (.integer (-(magnitude : Int)))
      else parts.double?.map .float
    else if magnitude < UInt64.size then some (.integer magnitude)
    else parts.double?.map .float
  else parts.double?.map .float

end NumberParts

mutual

/-- The document in front, after blanks. -/
def readValue : Nat → List Char → Option (Document × List Char)
  | 0, _ => none
  | fuel + 1, characters =>
      match skipSpace characters with
      | '"' :: rest =>
          (readText rest).map fun (spelling, rest) => (.string spelling, rest)
      | '[' :: rest =>
          match skipSpace rest with
          | ']' :: rest => some (.array [], rest)
          | rest =>
              (readItems fuel rest).map fun (items, rest) =>
                (.array items, rest)
      | '\x7b' :: rest =>
          match skipSpace rest with
          | '\x7d' :: rest => some (.object [], rest)
          | rest =>
              (readMembers fuel rest).map fun (members, rest) =>
                (.object members, rest)
      | 't' :: 'r' :: 'u' :: 'e' :: rest => some (.bool true, rest)
      | 'f' :: 'a' :: 'l' :: 's' :: 'e' :: rest => some (.bool false, rest)
      | 'n' :: 'u' :: 'l' :: 'l' :: rest => some (.null, rest)
      | other =>
          (readParts other).map fun (parts, rest) =>
            (.number parts.value?, rest)

/-- The items of an array up to the closing bracket; there is at least one. -/
def readItems : Nat → List Char → Option (List Document × List Char)
  | 0, _ => none
  | fuel + 1, characters =>
      match readValue fuel characters with
      | none => none
      | some (item, rest) =>
          match skipSpace rest with
          | ']' :: rest => some ([item], rest)
          | ',' :: rest =>
              (readItems fuel rest).map fun (items, rest) =>
                (item :: items, rest)
          | _ => none

/-- The members of an object up to the closing brace; there is at least one. -/
def readMembers :
    Nat → List Char → Option (List (Spelling × Document) × List Char)
  | 0, _ => none
  | fuel + 1, characters =>
      match skipSpace characters with
      | '"' :: rest =>
          match readText rest with
          | none => none
          | some (key, rest) =>
              match skipSpace rest with
              | ':' :: rest =>
                  match readValue fuel rest with
                  | none => none
                  | some (value, rest) =>
                      match skipSpace rest with
                      | '\x7d' :: rest => some ([(key, value)], rest)
                      | ',' :: rest =>
                          (readMembers fuel rest).map fun (members, rest) =>
                            ((key, value) :: members, rest)
                      | _ => none
              | _ => none
      | _ => none

end

/-- The document that a whole text spells. -/
def readCharacters? (characters : List Char) : Option Document :=
  match readValue (2 * characters.length + 2) characters with
  | some (document, rest) =>
      if skipSpace rest = [] then some document else none
  | none => none

end Json

namespace Document

/-- The document that a whole text spells. -/
def parse? (text : String) : Option Document :=
  Json.readCharacters? text.toList

end Document

namespace Json

/-- The number of brackets that may be around a part of a text. -/
def depthLimit : Nat := 127

/-- The value of a whole text in canonical form. -/
def parse? (text : String) : Option Json :=
  (Document.parse? text).bind (Document.value? depthLimit)

end Json

end AgentPipeline
