/-!
# Decimal digits

Natural numbers as decimal text, and the reading of digit runs.
-/

namespace AgentPipeline.Text

def digitValue (character : Char) : Nat :=
  character.toNat - '0'.toNat

/-- The ASCII digit of a number below ten. -/
def digitOf (value : Nat) : Char :=
  Char.ofNat ('0'.toNat + value % 10)

/-- The decimal digits of a number, most significant first; zero has one. -/
def decimalDigits (value : Nat) : List Char :=
  if value < 10 then [digitOf value]
  else decimalDigits (value / 10) ++ [digitOf value]
termination_by value

/-- The number with the given decimal digits. -/
def ofDecimalDigits (digits : List Char) : Nat :=
  digits.foldl (fun value digit => 10 * value + digitValue digit) 0

/-- The decimal text of a natural number. -/
def decimal (value : Nat) : String :=
  String.ofList (decimalDigits value)

/-- The decimal text of an integer, with a sign only when it is negative. -/
def signedDecimal : Int → String
  | .ofNat value => decimal value
  | .negSucc value => "-" ++ decimal (value + 1)

/-- The decimal digits with zeros in front up to the width. -/
def zeroPadded (width value : Nat) : List Char :=
  let digits := decimalDigits value
  List.replicate (width - digits.length) '0' ++ digits

/-- The longest run of digits in front, and what follows it. -/
def spanDigits (characters : List Char) : List Char × List Char :=
  (characters.takeWhile Char.isDigit, characters.dropWhile Char.isDigit)

/-- The value of a hexadecimal digit of either case. -/
def hexValue? (character : Char) : Option Nat :=
  if '0' ≤ character ∧ character ≤ '9' then some (character.toNat - '0'.toNat)
  else if 'a' ≤ character ∧ character ≤ 'f' then
    some (character.toNat - 'a'.toNat + 10)
  else if 'A' ≤ character ∧ character ≤ 'F' then
    some (character.toNat - 'A'.toNat + 10)
  else none

/-- The lower-case hexadecimal digit of a number below sixteen. -/
def hexDigit (value : Nat) : Char :=
  if value % 16 < 10 then Char.ofNat ('0'.toNat + value % 16)
  else Char.ofNat ('a'.toNat + value % 16 - 10)

/-- The upper-case hexadecimal digit of a number below sixteen. -/
def upperHexDigit (value : Nat) : Char :=
  (hexDigit value).toUpper

end AgentPipeline.Text
