import AgentPipeline.Proofs.Json.Quoted
import AgentPipeline.Uuid
import Mathlib.Algebra.Group.Nat.Defs

/-!
# Reading back identifiers

An identifier is read back from its 32 hexadecimal digits and the hyphens
between them.  Random identifiers are equal only if their bits are.
-/

namespace AgentPipeline

namespace Uuid

/-- The values of the digits, most significant first. -/
def digitValues (identifier : Uuid) : List Nat :=
  (List.range 32).map fun position =>
    identifier.value.toNat / Nat.pow 16 (31 - position) % 16

theorem mapM_hexValue?_digits (identifier : Uuid) :
    identifier.digits.mapM Text.hexValue? = some identifier.digitValues := by
  have read : ∀ values : List Nat, (∀ value ∈ values, value < 16) →
      (values.map Text.hexDigit).mapM Text.hexValue? = some values := by
    intro values
    induction values with
    | nil =>
        intro _
        rfl
    | cons value values ih =>
        intro small
        rw [List.forall_mem_cons] at small
        simp [Json.hexValue?_hexDigit value small.1, ih small.2]
  have digits : identifier.digits =
      identifier.digitValues.map Text.hexDigit := by
    simp [Uuid.digits, digitValues]
  rw [digits]
  apply read
  intro value isDigit
  obtain ⟨position, _, rfl⟩ := List.mem_map.mp isDigit
  exact Nat.mod_lt _ (by decide)

/-- The digits in front make up the part of a number that they span. -/
theorem foldl_digits (number count : Nat) (small : number < Nat.pow 16 count)
    {front : Nat} (within : front ≤ count) :
    ((List.range front).map fun position =>
      number / Nat.pow 16 (count - 1 - position) % 16).foldl
        (fun total next => 16 * total + next) 0 =
      number / Nat.pow 16 (count - front) := by
  induction front with
  | zero => exact (Nat.div_eq_of_lt small).symm
  | succ front ih =>
      have next : count - front = count - (front + 1) + 1 := by omega
      have place : count - 1 - front = count - (front + 1) := by omega
      have shift : Nat.pow 16 (count - (front + 1) + 1) =
          Nat.pow 16 (count - (front + 1)) * 16 := rfl
      rw [List.range_succ, List.map_append, List.foldl_append,
        ih (by omega), next, shift, ← Nat.div_div_eq_div_mul]
      simp only [List.map_cons, List.map_nil, List.foldl_cons,
        List.foldl_nil, place]
      exact Nat.div_add_mod _ 16

theorem ofDigits?_digits (identifier : Uuid) :
    ofDigits? identifier.digits = some identifier := by
  have length : identifier.digits.length = 32 := by simp [digits]
  have small : identifier.value.toNat < Nat.pow 16 32 := identifier.value.isLt
  have total := foldl_digits identifier.value.toNat 32 small (Nat.le_refl 32)
  have whole : identifier.digitValues.foldl
      (fun total next => 16 * total + next) 0 = identifier.value.toNat :=
    total.trans (Nat.div_one _)
  rw [ofDigits?, if_pos length, mapM_hexValue?_digits, Option.map_some, whole,
    BitVec.ofNat_toNat, BitVec.setWidth_eq]

theorem parse?_print (identifier : Uuid) :
    parse? identifier.print = some identifier := by
  rw [← ofDigits?_digits identifier]
  simp only [print, parse?, String.toList_ofList]
  -- There are 32 digits whatever the value, so the hyphens can be looked up.
  rfl

/-! ## Random identifiers -/

theorem toNat_append_eq_add {front back : Nat} (left : BitVec front)
    (right : BitVec back) :
    (left ++ right).toNat = left.toNat * 2 ^ back + right.toNat := by
  rw [BitVec.toNat_append, ← Nat.shiftLeft_add_eq_or_of_lt right.isLt,
    Nat.shiftLeft_eq]

/-- Identifiers are equal only where the random bits in them are. -/
theorem mod_eq_of_ofRandomBits_eq {first second : Nat}
    (same : ofRandomBits first = ofRandomBits second) :
    first % 2 ^ 122 = second % 2 ^ 122 := by
  have numbers := congrArg (fun identifier => identifier.value.toNat) same
  simp only [ofRandomBits, toNat_append_eq_add, BitVec.toNat_ofNat,
    Nat.shiftRight_eq_div_pow] at numbers
  omega

end Uuid

end AgentPipeline
