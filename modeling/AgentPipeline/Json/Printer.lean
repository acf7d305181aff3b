import AgentPipeline.Json.Value

/-!
# Printed JSON

The compact text of a value has no blanks; the indented text puts every item
and member on a line of its own.  Numbers are printed with the fewest digits
that read back, and a text escapes only what has to be escaped.
-/

namespace AgentPipeline

/-- The choices a format makes in printing a floating-point number. -/
structure DoubleFormat where
  /-- The least decimal exponent printed positionally. -/
  positionalFrom : Int
  /-- The greatest decimal exponent printed positionally. -/
  positionalTo : Int

/-- From `0.00001` to below ten to the power of 16 a number is printed
positionally, always with a fraction; otherwise with an exponent that always
has a sign. -/
def Json.doubleFormat : DoubleFormat := ⟨-5, 15⟩

namespace Double

/-- Digits with the decimal point behind the given number of them; missing
digits are zeros, and both sides of the point have at least one. -/
def positional (digits : List Char) (point : Int) : List Char :=
  if point ≤ 0 then
    ['0', '.'] ++ List.replicate (-point).toNat '0' ++ digits
  else if digits.length ≤ point.toNat then
    digits ++ List.replicate (point.toNat - digits.length) '0' ++ ['.', '0']
  else digits.take point.toNat ++ ['.'] ++ digits.drop point.toNat

/-- One digit, the others behind a point, and the exponent with its sign. -/
def scientific (digits : List Char) (exponent : Int) : List Char :=
  let fraction := if digits.length ≤ 1 then [] else '.' :: digits.drop 1
  let sign := if exponent < 0 then '-' else '+'
  digits.take 1 ++ fraction ++ ['e', sign]
    ++ Text.decimalDigits exponent.natAbs

/-- The text of a finite number in the given format. -/
def print (format : DoubleFormat) (number : Double) : List Char :=
  let decimal := number.shortest
  let digits := Text.decimalDigits decimal.digits
  let exponent := decimal.exponent + digits.length - 1
  let magnitude :=
    if format.positionalFrom ≤ exponent ∧ exponent ≤ format.positionalTo then
      positional digits (exponent + 1)
    else scientific digits exponent
  if number.isNegative then '-' :: magnitude else magnitude

end Double

namespace Number

/-- The text of a JSON number. -/
def print : Number → List Char
  | .integer (.ofNat value) => Text.decimalDigits value
  | .integer (.negSucc value) => '-' :: Text.decimalDigits (value + 1)
  | .float value => value.print Json.doubleFormat

end Number

namespace Json

/-- A character of a text: the quote, the backslash and the control characters
are escaped, all others stand for themselves. -/
def escape (character : Char) : List Char :=
  if character = '"' then ['\\', '"']
  else if character = '\\' then ['\\', '\\']
  else if character = '\n' then ['\\', 'n']
  else if character = '\r' then ['\\', 'r']
  else if character = '\t' then ['\\', 't']
  else if character.toNat = 8 then ['\\', 'b']
  else if character.toNat = 12 then ['\\', 'f']
  else if character.toNat < 0x20 then
    ['\\', 'u', '0', '0', Text.hexDigit (character.toNat / 16),
      Text.hexDigit (character.toNat % 16)]
  else [character]

def quote (text : String) : List Char :=
  '"' :: text.toList.flatMap escape ++ ['"']

mutual

/-- The compact text of a value. -/
def print : Json → List Char
  | .null => "null".toList
  | .bool true => "true".toList
  | .bool false => "false".toList
  | .number value => value.print
  | .string text => quote text
  | .array [] => ['[', ']']
  | .array (first :: rest) => '[' :: print first ++ printItems rest
  | .object [] => ['\x7b', '\x7d']
  | .object ((key, value) :: rest) =>
      '\x7b' :: quote key ++ ':' :: print value ++ printMembers rest

/-- The items after the first, and the closing bracket. -/
def printItems : List Json → List Char
  | [] => [']']
  | item :: rest => ',' :: print item ++ printItems rest

/-- The members after the first, and the closing brace. -/
def printMembers : List (String × Json) → List Char
  | [] => ['\x7d']
  | (key, value) :: rest =>
      ',' :: quote key ++ ':' :: print value ++ printMembers rest

end

def text (value : Json) : String :=
  String.ofList value.print

/-- A line break and two spaces per level. -/
def newLine (level : Nat) : List Char :=
  '\n' :: List.replicate (2 * level) ' '

mutual

/-- The indented text of a value inside the given number of brackets. -/
def printIndented (level : Nat) : Json → List Char
  | .array (first :: rest) =>
      '[' :: newLine (level + 1) ++ printIndented (level + 1) first
        ++ printIndentedItems level rest
  | .object ((key, value) :: rest) =>
      '\x7b' :: newLine (level + 1) ++ quote key ++ ':' :: ' ' ::
        printIndented (level + 1) value ++ printIndentedMembers level rest
  | other => print other

def printIndentedItems (level : Nat) : List Json → List Char
  | [] => newLine level ++ [']']
  | item :: rest =>
      ',' :: newLine (level + 1) ++ printIndented (level + 1) item
        ++ printIndentedItems level rest

def printIndentedMembers (level : Nat) : List (String × Json) → List Char
  | [] => newLine level ++ ['\x7d']
  | (key, value) :: rest =>
      ',' :: newLine (level + 1) ++ quote key ++ ':' :: ' ' ::
        printIndented (level + 1) value ++ printIndentedMembers level rest

end

def indentedText (value : Json) : String :=
  String.ofList (value.printIndented 0)

end Json

end AgentPipeline
