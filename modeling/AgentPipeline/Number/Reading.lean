import AgentPipeline.Number.Double
import AgentPipeline.Text.Blank

/-!
# Reading numbers

Numbers as users type them: integers with an optional sign, and floating-point
numbers with an optional sign, fraction and exponent.
-/

namespace AgentPipeline

namespace Text

/-- The number that is all of a digit run; an empty run is none. -/
def digitRun? (characters : List Char) : Option Nat :=
  if characters ≠ [] ∧ characters.all Char.isDigit then
    some (ofDecimalDigits characters)
  else none

/-- A natural number below a bound, with an optional plus sign. -/
def natural? (bound : Nat) (text : String) : Option Nat := do
  let value ← match text.toList with
    | '+' :: digits => digitRun? digits
    | digits => digitRun? digits
  if value < bound then some value else none

/-- An integer with an optional sign. -/
def integer? (text : String) : Option Int :=
  match text.toList with
  | '+' :: digits => (digitRun? digits).map Int.ofNat
  | '-' :: digits => (digitRun? digits).map fun value => -Int.ofNat value
  | digits => (digitRun? digits).map Int.ofNat

/-- An integer that fits 32 bits without a sign. -/
def word32? (text : String) : Option UInt32 := do
  let value ← integer? text
  if 0 ≤ value ∧ value < UInt32.size then some (UInt32.ofNat value.toNat)
  else none

end Text

namespace Double

/-- The exponent behind a mantissa, zero when nothing is there. -/
def exponent? : List Char → Option Int
  | [] => some 0
  | mark :: rest =>
      if mark = 'e' ∨ mark = 'E' then Text.integer? (String.ofList rest)
      else none

/-- A floating-point number without a sign: digits with an optional point
before, among or behind them, and an optional exponent. -/
def unsigned? (characters : List Char) : Option Double :=
  let (whole, rest) := Text.spanDigits characters
  let (fraction, rest) := match rest with
    | '.' :: more => Text.spanDigits more
    | other => ([], other)
  let digits := whole ++ fraction
  if digits = [] then none
  else
    (exponent? rest).map fun exponent =>
      ofDecimal (Text.ofDecimalDigits digits) (exponent - fraction.length)

/-- A number without a sign that may have a name in either case. -/
def magnitude? (characters : List Char) : Option Double :=
  match Text.lowerAscii (String.ofList characters) with
  | "nan" => some nan
  | "inf" | "infinity" => some infinity
  | _ => unsigned? characters

/-- The number that a text stands for. -/
def ofText? (text : String) : Option Double :=
  match text.toList with
  | '+' :: rest => magnitude? rest
  | '-' :: rest => (magnitude? rest).map negate
  | characters => magnitude? characters

end Double

end AgentPipeline
