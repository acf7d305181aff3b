import Mathlib.Algebra.Group.Nat.Defs
import AgentPipeline.Text.Decimal

/-!
# Reading back decimal digits

The digits of a number spell it, with or without zeros in front, and a run of
digits ends where the digits end.
-/

namespace AgentPipeline.Text

private theorem digitValue_of_lt :
    ∀ value < 10, digitValue (Char.ofNat ('0'.toNat + value)) = value := by
  decide

private theorem isDigit_of_lt :
    ∀ value < 10, (Char.ofNat ('0'.toNat + value)).isDigit = true := by
  decide

theorem digitValue_digitOf (value : Nat) :
    digitValue (digitOf value) = value % 10 :=
  digitValue_of_lt (value % 10) (Nat.mod_lt value (by decide))

theorem isDigit_digitOf (value : Nat) : (digitOf value).isDigit = true :=
  isDigit_of_lt (value % 10) (Nat.mod_lt value (by decide))

/-! ## The value of digits -/

theorem ofDecimalDigits_append_singleton (digits : List Char) (digit : Char) :
    ofDecimalDigits (digits ++ [digit]) =
      10 * ofDecimalDigits digits + digitValue digit := by
  simp [ofDecimalDigits]

@[simp]
theorem ofDecimalDigits_decimalDigits (value : Nat) :
    ofDecimalDigits (decimalDigits value) = value := by
  induction value using decimalDigits.induct with
  | case1 value small =>
      rw [decimalDigits, if_pos small]
      simp [ofDecimalDigits, digitValue_digitOf, Nat.mod_eq_of_lt small]
  | case2 value large ih =>
      rw [decimalDigits, if_neg large, ofDecimalDigits_append_singleton, ih,
        digitValue_digitOf]
      omega

/-- Zeros in front do not count. -/
theorem ofDecimalDigits_zeros_append (count : Nat) (digits : List Char) :
    ofDecimalDigits (List.replicate count '0' ++ digits) =
      ofDecimalDigits digits := by
  induction count with
  | zero => rfl
  | succ count ih =>
      rw [List.replicate_succ, List.cons_append, ← ih]
      rfl

@[simp]
theorem ofDecimalDigits_zeroPadded (width value : Nat) :
    ofDecimalDigits (zeroPadded width value) = value := by
  simp [zeroPadded, ofDecimalDigits_zeros_append]

/-! ## The shape of digits -/

theorem decimalDigits_ne_nil (value : Nat) : decimalDigits value ≠ [] := by
  rw [decimalDigits]
  split <;> simp

theorem isDigit_of_mem_decimalDigits (value : Nat) :
    ∀ digit ∈ decimalDigits value, digit.isDigit = true := by
  induction value using decimalDigits.induct with
  | case1 value small =>
      rw [decimalDigits, if_pos small]
      simp [isDigit_digitOf]
  | case2 value large ih =>
      rw [decimalDigits, if_neg large]
      intro digit member
      rcases List.mem_append.mp member with front | last
      · exact ih digit front
      · rw [List.mem_singleton.mp last]
        exact isDigit_digitOf value

/-- Only zero begins with the digit zero. -/
theorem decimalDigits_head (value : Nat) :
    decimalDigits value = ['0'] ∨
      ∃ first rest, decimalDigits value = first :: rest ∧ first ≠ '0' := by
  induction value using decimalDigits.induct with
  | case1 value small =>
      rw [decimalDigits, if_pos small]
      by_cases zero : digitOf value = '0'
      · exact .inl (by rw [zero])
      · exact .inr ⟨_, [], rfl, zero⟩
  | case2 value large ih =>
      rw [decimalDigits, if_neg large]
      rcases ih with zero | ⟨first, rest, eq, other⟩
      · have quotient : value / 10 = 0 := by
          have spelled := ofDecimalDigits_decimalDigits (value / 10)
          rw [zero] at spelled
          exact spelled.symm
        omega
      · exact .inr ⟨first, rest ++ [digitOf value], by simp [eq], other⟩

theorem length_decimalDigits_le {value width : Nat} (positive : 0 < width)
    (bounded : value < 10 ^ width) :
    (decimalDigits value).length ≤ width := by
  induction value using decimalDigits.induct generalizing width with
  | case1 value small =>
      rw [decimalDigits, if_pos small]
      exact positive
  | case2 value large ih =>
      obtain ⟨width, rfl⟩ := Nat.exists_eq_succ_of_ne_zero
        (Nat.ne_of_gt positive)
      rw [Nat.pow_succ] at bounded
      have stillPositive : 0 < width := by
        rcases width with _ | width
        · simp at bounded
          omega
        · omega
      have shorter := ih stillPositive (by omega)
      rw [decimalDigits, if_neg large]
      simpa using shorter

theorem length_zeroPadded {value width : Nat} (positive : 0 < width)
    (bounded : value < 10 ^ width) :
    (zeroPadded width value).length = width := by
  have fits := length_decimalDigits_le positive bounded
  simp only [zeroPadded, List.length_append, List.length_replicate]
  omega

theorem zeroPadded_ne_nil (width value : Nat) : zeroPadded width value ≠ [] := by
  simp [zeroPadded, decimalDigits_ne_nil]

theorem isDigit_of_mem_zeroPadded (width value : Nat) :
    ∀ digit ∈ zeroPadded width value, digit.isDigit = true := by
  intro digit member
  simp only [zeroPadded, List.mem_append, List.mem_replicate] at member
  rcases member with ⟨_, rfl⟩ | member
  · decide
  · exact isDigit_of_mem_decimalDigits value digit member

/-! ## Runs of digits -/

private theorem digitValue_lt {character : Char}
    (isDigit : character.isDigit = true) : digitValue character < 10 := by
  have range : 48 ≤ character.toNat ∧ character.toNat ≤ 57 := by
    simpa [Char.isDigit, UInt32.le_iff_toNat_le] using isDigit
  have zero : '0'.toNat = 48 := rfl
  rw [digitValue, zero]
  omega

/-- So many digits spell a number below that power of ten. -/
theorem ofDecimalDigits_lt {digits : List Char}
    (isDigits : ∀ digit ∈ digits, digit.isDigit = true) :
    ofDecimalDigits digits < 10 ^ digits.length := by
  have below : ∀ (digits : List Char) (start : Nat),
      (∀ digit ∈ digits, digit.isDigit = true) →
      digits.foldl (fun value digit => 10 * value + digitValue digit) start <
        (start + 1) * 10 ^ digits.length := by
    intro digits
    induction digits with
    | nil => simp
    | cons digit digits ih =>
        intro start isDigits
        rw [List.forall_mem_cons] at isDigits
        have small := digitValue_lt isDigits.1
        have later := ih (10 * start + digitValue digit) isDigits.2
        have room : (10 * start + digitValue digit + 1) * 10 ^ digits.length ≤
            (10 * (start + 1)) * 10 ^ digits.length :=
          Nat.mul_le_mul_right _ (by omega)
        rw [List.foldl_cons, List.length_cons, Nat.pow_succ]
        calc _ < _ := later
          _ ≤ _ := room
          _ = (start + 1) * (10 ^ digits.length * 10) := by
            rw [Nat.mul_comm 10 (start + 1), Nat.mul_assoc,
              Nat.mul_comm 10 (10 ^ digits.length)]
  simpa [ofDecimalDigits] using below digits 0 isDigits

/-- The text does not go on with a digit. -/
def EndsDigits (rest : List Char) : Prop :=
  ∀ character ∈ rest.head?, character.isDigit = false

theorem endsDigits_nil : EndsDigits [] := by simp [EndsDigits]

theorem endsDigits_cons {character : Char} {rest : List Char}
    (other : character.isDigit = false) : EndsDigits (character :: rest) := by
  simpa [EndsDigits] using other

theorem takeWhile_isDigit_append {digits rest : List Char}
    (isDigits : ∀ digit ∈ digits, digit.isDigit = true) (ends : EndsDigits rest) :
    (digits ++ rest).takeWhile Char.isDigit = digits := by
  rw [List.takeWhile_append_of_pos isDigits]
  cases rest with
  | nil => simp
  | cons character rest =>
      have other : character.isDigit = false := ends character rfl
      simp [other]

theorem dropWhile_isDigit_append {digits rest : List Char}
    (isDigits : ∀ digit ∈ digits, digit.isDigit = true) (ends : EndsDigits rest) :
    (digits ++ rest).dropWhile Char.isDigit = rest := by
  rw [List.dropWhile_append_of_pos isDigits]
  cases rest with
  | nil => rfl
  | cons character rest =>
      have other : character.isDigit = false := ends character rfl
      simp [other]

theorem spanDigits_append {digits rest : List Char}
    (isDigits : ∀ digit ∈ digits, digit.isDigit = true) (ends : EndsDigits rest) :
    spanDigits (digits ++ rest) = (digits, rest) := by
  rw [spanDigits, takeWhile_isDigit_append isDigits ends,
    dropWhile_isDigit_append isDigits ends]

end AgentPipeline.Text
