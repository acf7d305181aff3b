import AgentPipeline.Text.Decimal

/-!
# Identifiers

A UUID is a number of 128 bits.  It is printed in lower case with hyphens; on
reading it may also be without hyphens, in braces or behind `urn:uuid:`, in
any case.
-/

namespace AgentPipeline

/-- A universally unique identifier. -/
structure Uuid where
  value : BitVec 128
deriving DecidableEq, Inhabited, Repr

namespace Uuid

/-- The lower-case hexadecimal digits, most significant first. -/
def digits (identifier : Uuid) : List Char :=
  (List.range 32).map fun position =>
    Text.hexDigit (identifier.value.toNat / Nat.pow 16 (31 - position) % 16)

/-- The digits in groups of 8, 4, 4, 4 and 12 with hyphens between them. -/
def print (identifier : Uuid) : String :=
  let digits := identifier.digits
  String.ofList (digits.take 8 ++ '-' :: (digits.drop 8).take 4
    ++ '-' :: (digits.drop 12).take 4 ++ '-' :: (digits.drop 16).take 4
    ++ '-' :: digits.drop 20)

/-- The identifier with 32 hexadecimal digits. -/
def ofDigits? (digits : List Char) : Option Uuid :=
  if digits.length = 32 then
    (digits.mapM Text.hexValue?).map fun values =>
      ⟨BitVec.ofNat 128 (values.foldl (fun total next => 16 * total + next) 0)⟩
  else none

/-- The identifier with hyphens behind 8, 12, 16 and 20 digits. -/
def ofHyphenated? (characters : List Char) : Option Uuid :=
  let isHyphen (position : Nat) : Bool := characters[position]? == some '-'
  if characters.length = 36 ∧ isHyphen 8 ∧ isHyphen 13 ∧ isHyphen 18
      ∧ isHyphen 23 then
    ofDigits? (characters.take 8 ++ (characters.drop 9).take 4
      ++ (characters.drop 14).take 4 ++ (characters.drop 19).take 4
      ++ characters.drop 24)
  else none

/-- The identifier that a text names. -/
def parse? (text : String) : Option Uuid :=
  let characters := text.toList
  if characters.length = 32 then ofDigits? characters
  else if characters.length = 36 then ofHyphenated? characters
  else if characters.length = 38 ∧ characters.head? = some '\x7b'
      ∧ characters.getLast? = some '\x7d' then
    ofHyphenated? ((characters.drop 1).take 36)
  else if characters.length = 45
      ∧ characters.take 9 = "urn:uuid:".toList then
    ofHyphenated? (characters.drop 9)
  else none

/-- The random identifier with the given 122 bits: version 4, variant 1. -/
def ofRandomBits (bits : Nat) : Uuid :=
  let low := BitVec.ofNat 62 bits
  let middle := BitVec.ofNat 12 (bits >>> 62)
  let high := BitVec.ofNat 48 (bits >>> 74)
  ⟨high ++ 4#4 ++ middle ++ 2#2 ++ low⟩

end Uuid

end AgentPipeline
