import AgentPipeline.Toml.Value

/-!
# Reading TOML

The grammar of TOML over lists of characters.  Every function takes the
characters that are left and returns what it read with the characters behind
it, or nothing when the text is not well formed.
-/

namespace AgentPipeline.Toml

/-! ## Blanks and comments -/

def isSpace (character : Char) : Bool :=
  character == ' ' || character == '\t'

def skipSpace (characters : List Char) : List Char :=
  characters.dropWhile isSpace

/-- The characters behind a line break. -/
def skipBreak? : List Char → Option (List Char)
  | '\n' :: rest => some rest
  | '\r' :: '\n' :: rest => some rest
  | _ => none

/-- The characters of comments and texts: all but controls, with the tab. -/
def isPrintable (character : Char) : Bool :=
  character == '\t' ||
    (0x20 ≤ character.toNat && character.toNat ≠ 0x7F)

/-- The characters behind a comment, if there is one. -/
def skipComment : List Char → List Char
  | '#' :: rest => rest.dropWhile isPrintable
  | characters => characters

/-- The characters behind the end of a line. -/
def skipLineEnd? (characters : List Char) : Option (List Char) :=
  match skipComment (skipSpace characters) with
  | [] => some []
  | rest => skipBreak? rest

/-- The characters behind blanks, line breaks and comments, with fuel for the
characters left. -/
def skipLines : Nat → List Char → List Char
  | 0, characters => characters
  | fuel + 1, characters =>
      let rest := skipComment (skipSpace characters)
      match skipBreak? rest with
      | some below => skipLines fuel below
      | none => rest

/-- The characters behind blanks, line breaks and comments. -/
def skipBlank (characters : List Char) : List Char :=
  skipLines (characters.length + 1) characters

/-! ## Texts -/

/-- The character with a scalar value written in hexadecimal digits. -/
def scalar? (digits : List Char) : Option Char := do
  let values ← digits.mapM Text.hexValue?
  let value := values.foldl (fun total digit => total * 16 + digit) 0
  if value < 0xD800 ∨ (0xE000 ≤ value ∧ value < 0x110000) then
    some (Char.ofNat value)
  else none

/-- The character that an escape stands for, behind its backslash. -/
def readEscape : List Char → Option (Char × List Char)
  | 'b' :: rest => some ('\x08', rest)
  | 't' :: rest => some ('\t', rest)
  | 'n' :: rest => some ('\n', rest)
  | 'f' :: rest => some ('\x0c', rest)
  | 'r' :: rest => some ('\r', rest)
  | '"' :: rest => some ('"', rest)
  | '\\' :: rest => some ('\\', rest)
  | 'u' :: rest =>
      if 4 ≤ rest.length then
        (scalar? (rest.take 4)).map fun character => (character, rest.drop 4)
      else none
  | 'U' :: rest =>
      if 8 ≤ rest.length then
        (scalar? (rest.take 8)).map fun character => (character, rest.drop 8)
      else none
  | _ => none

/-- A text with escapes on one line, behind its opening quote. -/
def readBasic : Nat → List Char → Option (List Char × List Char)
  | 0, _ => none
  | _ + 1, [] => none
  | _ + 1, '"' :: rest => some ([], rest)
  | fuel + 1, '\\' :: rest => do
      let (character, rest) ← readEscape rest
      let (characters, rest) ← readBasic fuel rest
      some (character :: characters, rest)
  | fuel + 1, character :: rest =>
      if isPrintable character then do
        let (characters, rest) ← readBasic fuel rest
        some (character :: characters, rest)
      else none

/-- A text without escapes on one line, behind its opening quote. -/
def readLiteral : List Char → Option (List Char × List Char)
  | [] => none
  | '\'' :: rest => some ([], rest)
  | character :: rest =>
      if isPrintable character then
        (readLiteral rest).map fun (characters, rest) =>
          (character :: characters, rest)
      else none

/-- The quotes at the end of a text on several lines: the last three close it,
and up to two in front of them belong to it. -/
def closingQuotes (quote : Char) (characters : List Char) :
    Option (Option (List Char × List Char)) :=
  let quotes := (characters.takeWhile (· == quote)).length
  if quotes < 3 then none
  else
    let own := min 2 (quotes - 3)
    some (some (List.replicate own quote, characters.drop (own + 3)))

/-- The characters behind blanks and line breaks, with fuel for the characters
left. -/
def skipBreaks : Nat → List Char → List Char
  | 0, characters => characters
  | fuel + 1, characters =>
      let rest := skipSpace characters
      match skipBreak? rest with
      | some below => skipBreaks fuel below
      | none => rest

/-- The characters behind a line break that is escaped, with the blanks and
line breaks that follow it. -/
def skipEscapedBreak? (characters : List Char) : Option (List Char) :=
  (skipBreak? (skipSpace characters)).map fun rest =>
    skipBreaks (rest.length + 1) rest

/-- A text on several lines; `quote` is its quote, and only in one with double
quotes the backslash is an escape. -/
def readLong (quote : Char) :
    Nat → List Char → Option (List Char × List Char)
  | 0, _ => none
  | _ + 1, [] => none
  | fuel + 1, character :: rest =>
      match closingQuotes quote (character :: rest) with
      | some closed => closed
      | none =>
          match skipBreak? (character :: rest) with
          | some below =>
              (readLong quote fuel below).map fun (characters, rest) =>
                ('\n' :: characters, rest)
          | none =>
              if quote == '"' && character == '\\' then
                match skipEscapedBreak? rest with
                | some below => readLong quote fuel below
                | none => do
                    let (escaped, rest) ← readEscape rest
                    let (characters, rest) ← readLong quote fuel rest
                    some (escaped :: characters, rest)
              else if isPrintable character then
                (readLong quote fuel rest).map fun (characters, rest) =>
                  (character :: characters, rest)
              else none

/-- The characters without a line break at their start. -/
def dropBreak (characters : List Char) : List Char :=
  (skipBreak? characters).getD characters

def readText : List Char → Option (String × List Char)
  | '"' :: '"' :: '"' :: rest =>
      (readLong '"' (rest.length + 1) (dropBreak rest)).map
        fun (characters, rest) => (String.ofList characters, rest)
  | '\'' :: '\'' :: '\'' :: rest =>
      (readLong '\'' (rest.length + 1) (dropBreak rest)).map
        fun (characters, rest) => (String.ofList characters, rest)
  | '"' :: rest =>
      (readBasic (rest.length + 1) rest).map fun (characters, rest) =>
        (String.ofList characters, rest)
  | '\'' :: rest =>
      (readLiteral rest).map fun (characters, rest) =>
        (String.ofList characters, rest)
  | _ => none

/-! ## Numbers -/

/-- Digits in which single underscores may stand between two digits. -/
def readDigits (isDigit : Char → Bool) :
    List Char → Option (List Char × List Char)
  | [] => none
  | digit :: rest =>
      if isDigit digit then
        match rest with
        | '_' :: next :: more =>
            if isDigit next then
              (readDigits isDigit (next :: more)).map fun (digits, rest) =>
                (digit :: digits, rest)
            else none
        | next :: more =>
            if isDigit next then
              (readDigits isDigit (next :: more)).map fun (digits, rest) =>
                (digit :: digits, rest)
            else some ([digit], next :: more)
        | [] => some ([digit], [])
      else none

/-- The whole part of a number: a zero in front stands alone. -/
def readWhole : List Char → Option (List Char × List Char)
  | '0' :: rest => some (['0'], rest)
  | characters => readDigits Char.isDigit characters

/-- A sign, if there is one; true for a minus. -/
def readSign : List Char → Bool × List Char
  | '+' :: rest => (false, rest)
  | '-' :: rest => (true, rest)
  | characters => (false, characters)

/-- The integer of 64 bits with a sign and a magnitude. -/
def integerOf? (negative : Bool) (magnitude : Nat) : Option Toml :=
  let half := UInt64.size / 2
  if negative then
    if magnitude ≤ half then some (.integer (-(magnitude : Int))) else none
  else if magnitude < half then some (.integer magnitude)
  else none

/-- The number behind the mark of its base. -/
def readBased (base : Nat) (characters : List Char) :
    Option (Toml × List Char) := do
  let isDigit (character : Char) : Bool :=
    (Text.hexValue? character).any (· < base)
  let (digits, rest) ← readDigits isDigit characters
  let values ← digits.mapM Text.hexValue?
  let value ← integerOf? false
    (values.foldl (fun total digit => total * base + digit) 0)
  some (value, rest)

/-- The fraction behind a point, if there is one. -/
def readFraction : List Char → Option (Option (List Char) × List Char)
  | '.' :: rest =>
      (readDigits Char.isDigit rest).map fun (digits, rest) =>
        (some digits, rest)
  | characters => some (none, characters)

def readExponent : List Char → Option (Option Int × List Char)
  | 'e' :: rest | 'E' :: rest =>
      let (negative, rest) := readSign rest
      (readDigits Char.isDigit rest).map fun (digits, rest) =>
        let magnitude := Text.ofDecimalDigits digits
        (some (if negative then -magnitude else magnitude), rest)
  | characters => some (none, characters)

/-- The number with a sign and a magnitude; one that is too large is not
accepted. -/
def floatOf? (negative : Bool) (magnitude : Double) : Option Toml :=
  if negative then some (.float magnitude.negate)
  else if magnitude = .infinity then none
  else some (.float magnitude)

/-- A decimal number: an integer unless it has a fraction or an exponent. -/
def readDecimal (negative : Bool) (characters : List Char) :
    Option (Toml × List Char) := do
  let (whole, rest) ← readWhole characters
  let (fraction, rest) ← readFraction rest
  let (exponent, rest) ← readExponent rest
  match fraction, exponent with
  | none, none =>
      (integerOf? negative (Text.ofDecimalDigits whole)).map (·, rest)
  | _, _ =>
      let digits := whole ++ fraction.getD []
      let shift := (exponent.getD 0) - (fraction.getD []).length
      (floatOf? negative
        (.ofDecimal (Text.ofDecimalDigits digits) shift)).map (·, rest)

def readNumber (characters : List Char) : Option (Toml × List Char) :=
  match characters with
  | '0' :: 'x' :: rest => readBased 16 rest
  | '0' :: 'o' :: rest => readBased 8 rest
  | '0' :: 'b' :: rest => readBased 2 rest
  | _ =>
      match readSign characters with
      | (negative, 'i' :: 'n' :: 'f' :: rest) =>
          some (.float (if negative then Double.infinity.negate
            else .infinity), rest)
      | (negative, 'n' :: 'a' :: 'n' :: rest) =>
          some (.float (if negative then Double.nan.negate else .nan), rest)
      | (negative, rest) => readDecimal negative rest

/-! ## Dates and times -/

/-- A number of exactly `width` digits in a range. -/
def readField (width least most : Nat) (characters : List Char) :
    Option (Nat × List Char) :=
  let digits := characters.take width
  let value := Text.ofDecimalDigits digits
  if digits.length = width ∧ digits.all Char.isDigit ∧ least ≤ value
      ∧ value ≤ most then
    some (value, characters.drop width)
  else none

/-- The characters behind an expected one. -/
def skip? (expected : Char) : List Char → Option (List Char)
  | character :: rest => if character = expected then some rest else none
  | [] => none

def daysIn (year month : Nat) : Nat :=
  if month = 2 then
    if year % 4 = 0 ∧ (year % 100 ≠ 0 ∨ year % 400 = 0) then 29 else 28
  else if month ∈ [4, 6, 9, 11] then 30
  else 31

def skipDate? (characters : List Char) : Option (List Char) := do
  let (year, rest) ← readField 4 0 9999 characters
  let rest ← skip? '-' rest
  let (month, rest) ← readField 2 1 12 rest
  let rest ← skip? '-' rest
  let (_, rest) ← readField 2 1 (daysIn year month) rest
  some rest

/-- The characters behind a time of the day. -/
def skipTime? (characters : List Char) : Option (List Char) := do
  let (_, rest) ← readField 2 0 23 characters
  let rest ← skip? ':' rest
  let (_, rest) ← readField 2 0 59 rest
  let rest ← skip? ':' rest
  let (_, rest) ← readField 2 0 60 rest
  match rest with
  | '.' :: digit :: more =>
      if digit.isDigit then some (more.dropWhile Char.isDigit) else none
  | _ => some rest

/-- The characters behind the offset of a time, if there is one. -/
def skipOffset? (characters : List Char) : Option (List Char) :=
  match characters with
  | 'Z' :: rest | 'z' :: rest => some rest
  | '+' :: rest | '-' :: rest => do
      let (_, rest) ← readField 2 0 23 rest
      let rest ← skip? ':' rest
      let (_, rest) ← readField 2 0 59 rest
      some rest
  | _ => some characters

/-- The characters behind a date or a time or both. -/
def skipMoment? (characters : List Char) : Option (List Char) :=
  match skipDate? characters with
  | none => skipTime? characters
  | some rest =>
      match rest with
      | 'T' :: more | 't' :: more | ' ' :: more =>
          match skipTime? more with
          | some behind => skipOffset? behind
          | none => some rest
      | _ => some rest

/-- Whether a date or a time begins here. -/
def beginsMoment (characters : List Char) : Bool :=
  let digits := (characters.takeWhile Char.isDigit).length
  match characters.drop digits with
  | '-' :: _ => digits = 4
  | ':' :: _ => digits = 2
  | _ => false

/-! ## Keys -/

/-- The characters of keys without quotes. -/
def isBare (character : Char) : Bool :=
  character.isAlphanum || character == '-' || character == '_'

def readKeyPart : List Char → Option (String × List Char)
  | '"' :: rest =>
      (readBasic (rest.length + 1) rest).map fun (characters, rest) =>
        (String.ofList characters, rest)
  | '\'' :: rest =>
      (readLiteral rest).map fun (characters, rest) =>
        (String.ofList characters, rest)
  | characters =>
      let part := characters.takeWhile isBare
      if part.isEmpty then none
      else some (String.ofList part, characters.drop part.length)

/-- The parts of a key, of which there may be as many as there is fuel. -/
def readKeyParts : Nat → List Char → Option (List String × List Char)
  | 0, _ => none
  | fuel + 1, characters => do
      let (part, rest) ← readKeyPart (skipSpace characters)
      match skipSpace rest with
      | '.' :: more =>
          let (parts, rest) ← readKeyParts fuel more
          some (part :: parts, rest)
      | rest => some ([part], rest)

/-- The greatest number of parts of a key, and of brackets inside each
other. -/
def depthLimit : Nat := 79

def readKey (characters : List Char) :
    Option ((List String × String) × List Char) := do
  let (parts, rest) ← readKeyParts depthLimit characters
  let key ← parts.getLast?
  some ((parts.dropLast, key), rest)

/-! ## Values -/

/-- The items of an array, behind its opening bracket or behind a comma. -/
def readItems (readItem : List Char → Option (Toml × List Char)) :
    Nat → List Char → Option (List Toml × List Char)
  | 0, _ => none
  | fuel + 1, characters =>
      match skipBlank characters with
      | ']' :: rest => some ([], rest)
      | start => do
          let (item, rest) ← readItem start
          match skipBlank rest with
          | ']' :: rest => some ([item], rest)
          | ',' :: rest =>
              let (items, rest) ← readItems readItem fuel rest
              some (item :: items, rest)
          | _ => none

/-- A value under a key. -/
def readPair (readItem : List Char → Option (Toml × List Char))
    (characters : List Char) :
    Option ((List String × String × Toml) × List Char) := do
  let ((path, key), rest) ← readKey characters
  let rest ← skip? '=' rest
  let (value, rest) ← readItem (skipSpace rest)
  some ((path, key, value), rest)

/-- The entries of a table written as a value, entered into the table. -/
def readPairs (readItem : List Char → Option (Toml × List Char)) :
    Nat → Toml → List Char → Option (Toml × List Char)
  | 0, _, _ => none
  | fuel + 1, before, characters => do
      let ((path, key, value), rest) ← readPair readItem characters
      let filled ← enter path key value before
      match skipSpace rest with
      | '}' :: rest => some (filled, rest)
      | ',' :: rest => readPairs readItem fuel filled rest
      | _ => none

/-- The table that is written as a value with these entries. -/
def asInlined : Toml → Toml
  | .table _ entries => .table .inlined entries
  | other => other

/-- A value inside a number of brackets that may still be opened. -/
def readValue : Nat → List Char → Option (Toml × List Char)
  | limit, '[' :: rest =>
      match limit with
      | 0 => none
      | limit + 1 =>
          (readItems (readValue limit) (rest.length + 1) rest).map
            fun (items, rest) => (.array items, rest)
  | limit, '{' :: rest =>
      match limit with
      | 0 => none
      | limit + 1 =>
          match skipSpace rest with
          | '}' :: rest => some (.table .inlined [], rest)
          | start =>
              (readPairs (readValue limit) (rest.length + 1)
                (.table .inlined []) start).map
                  fun (filled, rest) => (asInlined filled, rest)
  | _, '"' :: rest =>
      (readText ('"' :: rest)).map fun (content, rest) =>
        (.text content, rest)
  | _, '\'' :: rest =>
      (readText ('\'' :: rest)).map fun (content, rest) =>
        (.text content, rest)
  | _, 't' :: 'r' :: 'u' :: 'e' :: rest => some (.flag true, rest)
  | _, 'f' :: 'a' :: 'l' :: 's' :: 'e' :: rest => some (.flag false, rest)
  | _, characters =>
      if beginsMoment characters then
        (skipMoment? characters).map fun rest => (.moment, rest)
      else readNumber characters

/-! ## Documents -/

/-- The document so far, with the path of the table that was opened last. -/
structure Draft where
  document : Toml
  current : List String

/-- Reads a header, behind its first bracket. -/
def readHeader (draft : Draft) (characters : List Char) :
    Option (Draft × List Char) :=
  match characters with
  | '[' :: rest => do
      let ((path, key), rest) ← readKey rest
      let rest ← skip? ']' rest
      let rest ← skip? ']' rest
      let document ← draft.document.openNext path key
      some (⟨document, path ++ [key]⟩, rest)
  | _ => do
      let ((path, key), rest) ← readKey characters
      let rest ← skip? ']' rest
      let document ← draft.document.openTable path key
      some (⟨document, path ++ [key]⟩, rest)

/-- Reads a header or a value under a key. -/
def readExpression (draft : Draft) : List Char → Option (Draft × List Char)
  | '[' :: rest => readHeader draft rest
  | characters => do
      let ((path, key, value), rest) ←
        readPair (readValue depthLimit) characters
      let document ←
        draft.document.enterBelow draft.current path key value
      some (⟨document, draft.current⟩, rest)

/-- Reads the lines of a document, with fuel for the characters left. -/
def readDocument : Nat → Draft → List Char → Option Toml
  | 0, _, _ => none
  | fuel + 1, draft, characters =>
      match skipBlank characters with
      | [] => some draft.document
      | start => do
          let (draft, rest) ← readExpression draft start
          let below ← skipLineEnd? rest
          readDocument fuel draft below

/-- The mark that may stand in front of a text. -/
def byteOrderMark : Char := '\uFEFF'

/-- The document that a text spells. -/
def parse? (text : String) : Option Toml :=
  let characters := match text.toList with
    | first :: rest => if first = byteOrderMark then rest else first :: rest
    | [] => []
  readDocument (characters.length + 1) ⟨emptyDocument, []⟩ characters

end AgentPipeline.Toml
