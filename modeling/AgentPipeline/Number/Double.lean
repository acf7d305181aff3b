import AgentPipeline.Text.Decimal

/-!
# Binary floating-point numbers

A number of the format binary64 is given by its 64 bits, so that two numbers
are equal exactly when they have the same bits.  This module decodes the
bits, finds the shortest decimal that reads back as the number, and builds
numbers from decimal parts.
-/

namespace AgentPipeline

/-- A binary64 number, given by its bits. -/
structure Double where
  bits : UInt64
deriving DecidableEq, Inhabited, Repr

/-- A natural number of decimal digits times a power of ten. -/
structure Decimal where
  digits : Nat
  exponent : Int
deriving DecidableEq, Repr

namespace Double

def ofFloat (value : Float) : Double :=
  ⟨value.toBits⟩

def toFloat (number : Double) : Float :=
  Float.ofBits number.bits

/-- The sign bit. -/
def isNegative (number : Double) : Bool :=
  UInt64.size / 2 ≤ number.bits.toNat

/-- The number of values of the 52 fraction bits. -/
def fractionCount : Nat := Nat.pow 2 52

/-- The number of values of the eleven exponent bits. -/
def exponentCount : Nat := Nat.pow 2 11

/-- The eleven exponent bits. -/
def exponentField (number : Double) : Nat :=
  number.bits.toNat / fractionCount % exponentCount

/-- The 52 bits after the exponent. -/
def fractionField (number : Double) : Nat :=
  number.bits.toNat % fractionCount

/-- Neither infinite nor not a number. -/
def isFinite (number : Double) : Bool :=
  number.exponentField ≠ exponentCount - 1

/-- The number with the other sign. -/
def negate (number : Double) : Double :=
  ⟨number.bits ^^^ 0x8000000000000000⟩

/-- The magnitude of a finite number is `significand * 2 ^ scale`. -/
def significand (number : Double) : Nat :=
  if number.exponentField = 0 then number.fractionField
  else number.fractionField + fractionCount

/-- The binary exponent that belongs to `significand`. -/
def scale (number : Double) : Int :=
  if number.exponentField = 0 then -1074
  else (number.exponentField : Int) - 1075

/-- Whether the next smaller magnitude is only half a step away. -/
def closeBelow (number : Double) : Bool :=
  number.fractionField = 0 && 1 < number.exponentField

/-- The magnitudes that round to a number, in quarters of its step. -/
structure Rounding where
  center : Nat
  lower : Nat
  upper : Nat
  /-- Whether the two ends round to the number as well. -/
  closed : Bool
  /-- The binary exponent of a quarter step. -/
  unit : Int

/-- The interval of magnitudes that round to the number. -/
def rounding (number : Double) : Rounding :=
  let center := 4 * number.significand
  { center
    lower := center - (if number.closeBelow then 1 else 2)
    upper := center + 2
    closed := number.significand % 2 = 0
    unit := number.scale - 2 }

namespace Rounding

/-- The factor of the interval when both sides are scaled to integers for the
grid of multiples of `10 ^ grid`. -/
def numerator (rounding : Rounding) (grid : Int) : Nat :=
  Nat.pow 2 rounding.unit.toNat * Nat.pow 10 (-grid).toNat

/-- The factor of the grid under the same scaling. -/
def denominator (rounding : Rounding) (grid : Int) : Nat :=
  Nat.pow 2 (-rounding.unit).toNat * Nat.pow 10 grid.toNat

/-- Whether `digits * 10 ^ grid` rounds to the number. -/
def contains (rounding : Rounding) (grid : Int) (digits : Nat) : Bool :=
  let point := digits * rounding.denominator grid
  let lower := rounding.lower * rounding.numerator grid
  let upper := rounding.upper * rounding.numerator grid
  if rounding.closed then lower ≤ point && point ≤ upper
  else lower < point && point < upper

/-- The grid point below the number, as a multiple of `10 ^ grid`. -/
def floor (rounding : Rounding) (grid : Int) : Nat :=
  rounding.center * rounding.numerator grid / rounding.denominator grid

/-- Whether the grid point above is nearer than the one below; of two equally
near points the one with the even last digit counts as nearer. -/
def prefersAbove (rounding : Rounding) (grid : Int) (below : Nat) : Bool :=
  let middle := (2 * below + 1) * rounding.denominator grid
  let center := 2 * rounding.center * rounding.numerator grid
  middle < center || (middle = center && below % 2 = 1)

/-- The point of the grid that reads back as the number, if there is one: of
two such points the nearer. -/
def point? (rounding : Rounding) (grid : Int) : Option Nat :=
  let below := rounding.floor grid
  match rounding.contains grid below, rounding.contains grid (below + 1) with
  | true, true =>
      some (if rounding.prefersAbove grid below then below + 1 else below)
  | true, false => some below
  | false, true => some (below + 1)
  | false, false => none

/-- The first grid with a point that reads back, from coarse to fine. -/
def search (rounding : Rounding) : Nat → Int → Decimal
  | 0, grid => ⟨rounding.floor grid, grid⟩
  | fuel + 1, grid =>
      match rounding.point? grid with
      | some digits => ⟨digits, grid⟩
      | none => rounding.search fuel (grid - 1)

/-- A grid at least as coarse as the magnitude of the number. -/
def coarsestGrid (rounding : Rounding) : Int :=
  ((Nat.log2 rounding.center : Int) + 1 + rounding.unit) * 30103 / 100000 + 1

end Rounding

/-- The digits without zeros at the end, for a number other than zero. -/
def dropZeros : Nat → Nat → Int → Decimal
  | 0, digits, exponent => ⟨digits, exponent⟩
  | fuel + 1, digits, exponent =>
      if digits ≠ 0 ∧ digits % 10 = 0 then
        dropZeros fuel (digits / 10) (exponent + 1)
      else ⟨digits, exponent⟩

/-- The shortest decimal that reads back as the magnitude of a finite number:
fewest digits first, then nearest. -/
def shortest (number : Double) : Decimal :=
  if number.significand = 0 then ⟨0, 0⟩
  else
    let found := number.rounding.search 24 number.rounding.coarsestGrid
    dropZeros 20 found.digits found.exponent

/-- The nearest number to a natural number. -/
def ofNat (value : Nat) : Double :=
  ofFloat (Float.ofNat value)

/-- The nearest number to an integer. -/
def ofInt : Int → Double
  | .ofNat value => ofNat value
  | .negSucc value => (ofNat (value + 1)).negate

/-- The nearest number to `digits * 10 ^ exponent`; beyond the largest finite
number it is infinite. -/
def ofDecimal (digits : Nat) (exponent : Int) : Double :=
  if digits = 0 then ofNat 0
  else
    let magnitude := (Text.decimalDigits digits).length + exponent
    if magnitude > 400 then ofFloat (Float.ofScientific 1 false 400)
    else if magnitude < -400 then ofNat 0
    else if exponent < 0 then
      ofFloat (Float.ofScientific digits true exponent.natAbs)
    else ofFloat (Float.ofScientific digits false exponent.natAbs)

/-- Ten to the given power, at most 308. -/
def powerOfTen (exponent : Nat) : Double :=
  ofFloat (Float.ofScientific 1 false exponent)

/-- Scales down by powers of ten in steps of at most 308, rounding after every
step. -/
def scaleDown : Nat → Float → Nat → Float
  | 0, value, _ => value
  | fuel + 1, value, exponent =>
      if exponent ≤ 308 then value / (powerOfTen exponent).toFloat
      else if value == 0 then value
      else scaleDown fuel (value / (powerOfTen 308).toFloat) (exponent - 308)

/-- Scaling by a power of ten with one rounding per factor: a significand is
rounded, then multiplied or divided by a rounded power of ten.  `none` when the
result is beyond the largest finite number. -/
def ofParts? (negative : Bool) (significand : Nat) (exponent : Int) :
    Option Double :=
  let start := Float.ofNat significand
  let magnitude : Option Float :=
    if exponent < 0 then some (scaleDown 8 start exponent.natAbs)
    else if significand = 0 then some start
    else if exponent > 308 then none
    else
      let scaled := start * (powerOfTen exponent.toNat).toFloat
      if (ofFloat scaled).isFinite then some scaled else none
  magnitude.map fun value =>
    if negative then (ofFloat value).negate else ofFloat value

/-- Not a number. -/
def nan : Double := ⟨0x7FF8000000000000⟩

def infinity : Double := ⟨0x7FF0000000000000⟩

end Double

end AgentPipeline
