import AgentPipeline.Json.Printer
import AgentPipeline.Json.Reader
import AgentPipeline.Proofs.Text.Decimal

/-!
# Reading back numbers

A printed number is a numeral of the JSON grammar, so that the reader comes to
its end, whatever value it gives the numeral.
-/

namespace AgentPipeline

namespace Json

/-- Behind a value of a printed document nothing follows, or a comma or a
closing bracket does. -/
def Closes (rest : List Char) : Prop :=
  ∀ character ∈ rest.head?,
    character = ',' ∨ character = ']' ∨ character = '\x7d'

theorem closes_nil : Closes [] := by simp [Closes]

theorem closes_cons {character : Char} {rest : List Char}
    (closing : character = ',' ∨ character = ']' ∨ character = '\x7d') :
    Closes (character :: rest) := by
  simpa [Closes] using closing

theorem Closes.cases {rest : List Char} (closes : Closes rest) :
    rest = [] ∨ ∃ tail, rest = ',' :: tail ∨ rest = ']' :: tail ∨
      rest = '\x7d' :: tail := by
  cases rest with
  | nil => exact .inl rfl
  | cons character tail =>
      refine .inr ⟨tail, ?_⟩
      rcases closes character rfl with rfl | rfl | rfl
      · exact .inl rfl
      · exact .inr (.inl rfl)
      · exact .inr (.inr rfl)

theorem Closes.endsDigits {rest : List Char} (closes : Closes rest) :
    Text.EndsDigits rest := by
  rcases closes.cases with rfl | ⟨tail, rfl | rfl | rfl⟩
  · exact Text.endsDigits_nil
  all_goals exact Text.endsDigits_cons (by decide)

/-! ## Numerals -/

/-- A number as written: digits, a fraction unless it is empty, and perhaps an
exponent with its sign. -/
structure Numeral where
  negative : Bool
  whole : List Char
  fraction : List Char
  exponent : Option (Bool × List Char)

namespace Numeral

def exponentText : Option (Bool × List Char) → List Char
  | none => []
  | some (negative, digits) =>
      'e' :: (if negative then '-' else '+') :: digits

def fractionText (fraction : List Char) : List Char :=
  if fraction = [] then [] else '.' :: fraction

def text (numeral : Numeral) : List Char :=
  (if numeral.negative then ['-'] else []) ++ numeral.whole
    ++ fractionText numeral.fraction ++ exponentText numeral.exponent

/-- The parts hold nothing but digits, where there have to be some. -/
structure IsProper (numeral : Numeral) : Prop where
  whole : numeral.whole ≠ [] ∧
    ∀ digit ∈ numeral.whole, digit.isDigit = true
  fraction : ∀ digit ∈ numeral.fraction, digit.isDigit = true
  exponent : ∀ negative digits, numeral.exponent = some (negative, digits) →
    digits ≠ [] ∧ ∀ digit ∈ digits, digit.isDigit = true

def exponentValue : Option (Bool × List Char) → Option Int
  | none => none
  | some (negative, digits) =>
      some (if negative then -(Text.ofDecimalDigits digits : Int)
        else Text.ofDecimalDigits digits)

/-- Whether the numeral begins with a zero that it must not begin with. -/
def hasLeadingZero : List Char → Bool
  | '0' :: _ :: _ => true
  | _ => false

/-- What the reader makes of the numeral. -/
def parts? (numeral : Numeral) : Option NumberParts :=
  if hasLeadingZero numeral.whole then none
  else some ⟨numeral.negative, numeral.whole, numeral.fraction,
    exponentValue numeral.exponent⟩

theorem readWhole_append {whole rest : List Char} (some' : whole ≠ [])
    (isDigits : ∀ digit ∈ whole, digit.isDigit = true)
    (ends : Text.EndsDigits rest) :
    readWhole (whole ++ rest) =
      if hasLeadingZero whole then none else some (whole, rest) := by
  rw [readWhole, Text.spanDigits_append isDigits ends]
  split
  next same => exact absurd (Prod.ext_iff.mp same).1 some'
  next same =>
    obtain ⟨rfl, -⟩ := Prod.ext_iff.mp same
    rfl
  next digits tail notNil notZero same =>
    obtain ⟨rfl, rfl⟩ := Prod.ext_iff.mp same
    have noZero : hasLeadingZero whole = false := by
      unfold hasLeadingZero
      split
      next second others => exact (notZero second others rfl).elim
      · rfl
    simp [noZero]

theorem readFraction_append {fraction rest : List Char}
    (isDigits : ∀ digit ∈ fraction, digit.isDigit = true)
    (ends : Text.EndsDigits rest) (noPoint : ∀ tail, rest ≠ '.' :: tail) :
    readFraction (fractionText fraction ++ rest) = some (fraction, rest) := by
  by_cases empty : fraction = []
  · subst fraction
    simp only [fractionText, if_true, List.nil_append]
    unfold readFraction
    split
    next tail => exact absurd rfl (noPoint tail)
    · rfl
  · simp only [fractionText, if_neg empty, List.cons_append, readFraction,
      Text.spanDigits_append isDigits ends]

theorem readExponent_append {exponent : Option (Bool × List Char)}
    (proper : ∀ negative digits, exponent = some (negative, digits) →
      digits ≠ [] ∧ ∀ digit ∈ digits, digit.isDigit = true)
    {rest : List Char} (closes : Closes rest) :
    readExponent (exponentText exponent ++ rest) =
      some (exponentValue exponent, rest) := by
  cases exponent with
  | none =>
      rcases closes.cases with rfl | ⟨tail, rfl | rfl | rfl⟩ <;> rfl
  | some exponent =>
      obtain ⟨negative, digits⟩ := exponent
      obtain ⟨notNil, isDigits⟩ := proper negative digits rfl
      have spans := Text.spanDigits_append isDigits closes.endsDigits
      have signed : ∀ sign, readSignedDigits sign (digits ++ rest) =
          some (exponentValue (some (sign, digits)), rest) := by
        intro sign
        simp only [readSignedDigits, spans]
        cases sign <;> simp [exponentValue]
      cases negative
      · exact signed false
      · exact signed true

/-- What follows the digits of a numeral is no digit. -/
private theorem endsDigits_tail (fraction : List Char)
    (exponent : Option (Bool × List Char)) {rest : List Char}
    (closes : Closes rest) :
    Text.EndsDigits
      (fractionText fraction ++ (exponentText exponent ++ rest)) := by
  unfold fractionText
  split
  · rcases exponent with _ | ⟨negative, digits⟩
    · exact closes.endsDigits
    · exact Text.endsDigits_cons (by decide)
  · exact Text.endsDigits_cons (by decide)

/-- Without a minus sign in front the parts begin with the digits. -/
private theorem readParts_unsigned {characters : List Char}
    (notMinus : ∀ tail, characters ≠ '-' :: tail) :
    readParts characters = (readWhole characters).bind fun whole =>
      (readFraction whole.2).bind fun fraction =>
        (readExponent fraction.2).bind fun exponent =>
          some (⟨false, whole.1, fraction.1, exponent.1⟩, exponent.2) := by
  unfold readParts
  split
  next negative _ same =>
    split at same
    next tail => exact absurd rfl (notMinus tail)
    · obtain ⟨rfl, rfl⟩ := Prod.ext_iff.mp same
      rfl

/-- The reader comes to the end of a numeral. -/
theorem readParts_text {numeral : Numeral} (proper : numeral.IsProper)
    {rest : List Char} (closes : Closes rest) :
    readParts (numeral.text ++ rest) =
      numeral.parts?.map fun parts => (parts, rest) := by
  obtain ⟨negative, whole, fraction, exponent⟩ := numeral
  obtain ⟨⟨notNil, wholeDigits⟩, fractionDigits, exponentDigits⟩ := proper
  have ends := endsDigits_tail fraction exponent closes
  have wholeRead := readWhole_append notNil wholeDigits ends
  have exponentEnds : Text.EndsDigits (exponentText exponent ++ rest) := by
    simpa [fractionText] using endsDigits_tail [] exponent closes
  have noPoint : ∀ tail, exponentText exponent ++ rest ≠ '.' :: tail := by
    intro tail same
    rcases exponent with _ | ⟨sign, digits⟩
    · have head := closes '.' (by simp_all [exponentText])
      simp at head
    · simp [exponentText] at same
  have fractionRead := readFraction_append fractionDigits exponentEnds noPoint
  have exponentRead := readExponent_append exponentDigits closes
  have notMinus : ∀ tail, whole ++ (fractionText fraction ++
      (exponentText exponent ++ rest)) ≠ '-' :: tail := by
    intro tail same
    cases whole with
    | nil => exact notNil rfl
    | cons first others =>
        have digit := wholeDigits first (by simp)
        rw [(List.cons.inj same).1] at digit
        simp at digit
  cases negative
  · simp only [text, Bool.false_eq_true, if_false, List.nil_append,
      List.append_assoc]
    rw [readParts_unsigned notMinus, wholeRead, parts?]
    by_cases leading : hasLeadingZero whole = true
    · simp [leading]
    · simp [leading, fractionRead, exponentRead]
  · simp only [text, if_true, List.cons_append, List.nil_append,
      List.append_assoc, readParts, wholeRead, parts?]
    by_cases leading : hasLeadingZero whole = true
    · simp [leading]
    · simp [leading, fractionRead, exponentRead]

end Numeral

/-! ## Printed numbers -/

/-- The characters are those of a proper numeral without a sign. -/
private def IsMagnitude (characters : List Char) : Prop :=
  ∃ numeral : Numeral, numeral.IsProper ∧ numeral.negative = false ∧
    characters = numeral.text

private theorem isMagnitude_digits {digits : List Char} (notNil : digits ≠ [])
    (isDigits : ∀ digit ∈ digits, digit.isDigit = true) :
    IsMagnitude digits := by
  refine ⟨⟨false, digits, [], none⟩, ⟨⟨notNil, isDigits⟩, ?_, ?_⟩, rfl, ?_⟩
  · simp
  · simp
  · simp [Numeral.text, Numeral.fractionText, Numeral.exponentText]

private theorem isMagnitude_positional {digits : List Char}
    (notNil : digits ≠ []) (isDigits : ∀ digit ∈ digits, digit.isDigit = true)
    (point : Int) : IsMagnitude (Double.positional digits point) := by
  have zeros : ∀ count, ∀ digit ∈ List.replicate count '0',
      digit.isDigit = true := by
    intro count digit member
    rw [(List.mem_replicate.mp member).2]
    rfl
  have ofParts : ∀ whole fraction : List Char, whole ≠ [] →
      (∀ digit ∈ whole, digit.isDigit = true) → fraction ≠ [] →
      (∀ digit ∈ fraction, digit.isDigit = true) →
      IsMagnitude (whole ++ '.' :: fraction) := by
    intro whole fraction wholeNotNil wholeDigits fractionNotNil fractionDigits
    refine ⟨⟨false, whole, fraction, none⟩,
      ⟨⟨wholeNotNil, wholeDigits⟩, fractionDigits, ?_⟩, rfl, ?_⟩
    · simp
    · simp [Numeral.text, Numeral.fractionText, Numeral.exponentText,
        fractionNotNil]
  unfold Double.positional
  split
  · have magnitude := ofParts ['0']
      (List.replicate (-point).toNat '0' ++ digits) (by simp) (by simp)
      (by simp [notNil]) (by
        intro digit member
        rcases List.mem_append.mp member with zero | other
        · exact zeros _ digit zero
        · exact isDigits digit other)
    simpa using magnitude
  next positive =>
    split
    · have magnitude := ofParts
        (digits ++ List.replicate (point.toNat - digits.length) '0') ['0']
        (by simp [notNil]) (by
          intro digit member
          rcases List.mem_append.mp member with other | zero
          · exact isDigits digit other
          · exact zeros _ digit zero) (by simp) (by simp)
      simpa using magnitude
    next longer =>
      have magnitude := ofParts (digits.take point.toNat)
        (digits.drop point.toNat)
        (by
          have before : 0 < point.toNat := by omega
          simp [notNil, Nat.ne_of_gt before])
        (fun digit member => isDigits digit (List.mem_of_mem_take member))
        (by simpa using longer)
        (fun digit member => isDigits digit (List.mem_of_mem_drop member))
      simpa using magnitude

private theorem isMagnitude_scientific {digits : List Char}
    (notNil : digits ≠ []) (isDigits : ∀ digit ∈ digits, digit.isDigit = true)
    (exponent : Int) : IsMagnitude (Double.scientific digits exponent) := by
  have exponentDigits :=
    Text.isDigit_of_mem_decimalDigits exponent.natAbs
  refine ⟨⟨false, digits.take 1, digits.drop 1,
      some (decide (exponent < 0), Text.decimalDigits exponent.natAbs)⟩,
    ⟨⟨by simp [notNil], fun digit member =>
        isDigits digit (List.mem_of_mem_take member)⟩,
      fun digit member => isDigits digit (List.mem_of_mem_drop member), ?_⟩,
    rfl, ?_⟩
  · intro negative others same
    obtain ⟨rfl, rfl⟩ := Prod.ext_iff.mp (Option.some.inj same)
    exact ⟨Text.decimalDigits_ne_nil _, exponentDigits⟩
  · have single : digits.drop 1 = [] ↔ digits.length ≤ 1 := by
      rw [List.drop_eq_nil_iff]
    simp only [Double.scientific, Numeral.text, Numeral.fractionText,
      Numeral.exponentText, single]
    simp

private theorem isMagnitude_decimalDigits (value : Nat) :
    IsMagnitude (Text.decimalDigits value) :=
  isMagnitude_digits (Text.decimalDigits_ne_nil value)
    (Text.isDigit_of_mem_decimalDigits value)

/-- A minus sign in front of a numeral makes a numeral. -/
private theorem numeral_of_isMagnitude {characters : List Char}
    (magnitude : IsMagnitude characters) (negative : Bool) :
    ∃ numeral : Numeral, numeral.IsProper ∧
      (if negative then '-' :: characters else characters) =
        numeral.text := by
  obtain ⟨⟨_, whole, fraction, exponent⟩, proper, rfl, rfl⟩ := magnitude
  refine ⟨⟨negative, whole, fraction, exponent⟩,
    ⟨proper.whole, proper.fraction, proper.exponent⟩, ?_⟩
  cases negative <;> simp [Numeral.text]

theorem print_eq_numeral (number : Number) :
    ∃ numeral : Numeral, numeral.IsProper ∧ number.print = numeral.text := by
  cases number with
  | integer value =>
      cases value with
      | ofNat value =>
          exact numeral_of_isMagnitude (isMagnitude_decimalDigits value) false
      | negSucc value =>
          exact numeral_of_isMagnitude
            (isMagnitude_decimalDigits (value + 1)) true
  | float value =>
      have notNil := Text.decimalDigits_ne_nil value.shortest.digits
      have isDigits :=
        Text.isDigit_of_mem_decimalDigits value.shortest.digits
      simp only [Number.print, Double.print]
      apply numeral_of_isMagnitude
      split
      · exact isMagnitude_positional notNil isDigits _
      · exact isMagnitude_scientific notNil isDigits _

/-- What the reader makes of a printed number. -/
def numberParts? (number : Number) : Option NumberParts :=
  (readParts number.print).map Prod.fst

theorem readParts_print (number : Number) {rest : List Char}
    (closes : Closes rest) :
    readParts (number.print ++ rest) =
      (numberParts? number).map fun parts => (parts, rest) := by
  obtain ⟨numeral, proper, printed⟩ := print_eq_numeral number
  have alone := numeral.readParts_text proper closes_nil
  rw [numberParts?, printed, Numeral.readParts_text proper closes]
  rw [List.append_nil] at alone
  cases parts : numeral.parts? <;> simp [alone, parts]

/-- The digits of a number, with or without a sign, are its whole part. -/
private theorem readParts_decimalDigits (negative : Bool) (value : Nat) :
    (readParts ((if negative then ['-'] else []) ++
      Text.decimalDigits value)).map Prod.fst =
        some ⟨negative, Text.decimalDigits value, [], none⟩ := by
  have isDigits := Text.isDigit_of_mem_decimalDigits value
  have notNil := Text.decimalDigits_ne_nil value
  have noZero : Numeral.hasLeadingZero (Text.decimalDigits value) = false := by
    rcases Text.decimalDigits_head value with eq | ⟨first, rest, eq, other⟩
    · rw [eq]
      rfl
    · rw [eq]
      unfold Numeral.hasLeadingZero
      split
      next same => exact absurd (List.cons.inj same).1 other
      · rfl
  have proper :
      Numeral.IsProper ⟨negative, Text.decimalDigits value, [], none⟩ :=
    ⟨⟨notNil, isDigits⟩, by simp, by simp⟩
  have read := Numeral.readParts_text proper closes_nil
  simp only [Numeral.text, Numeral.fractionText, Numeral.exponentText,
    Numeral.parts?, noZero, Numeral.exponentValue] at read
  simpa using congrArg (Option.map Prod.fst) read

theorem numberParts?_nat (value : Nat) :
    numberParts? (.integer value) =
      some ⟨false, Text.decimalDigits value, [], none⟩ :=
  readParts_decimalDigits false value

theorem numberParts?_negSucc (value : Nat) :
    numberParts? (.integer (.negSucc value)) =
      some ⟨true, Text.decimalDigits (value + 1), [], none⟩ :=
  readParts_decimalDigits true (value + 1)

end Json

/-- A natural number of 64 bits has its value. -/
theorem Json.NumberParts.value?_nat {value : Nat}
    (bounded : value < UInt64.size) :
    NumberParts.value? ⟨false, Text.decimalDigits value, [], none⟩ =
      some (.integer value) := by
  simp [NumberParts.value?, bounded]

/-- A negative number of 64 bits has its value. -/
theorem Json.NumberParts.value?_negSucc {value : Nat}
    (bounded : value < UInt64.size / 2) :
    NumberParts.value? ⟨true, Text.decimalDigits (value + 1), [], none⟩ =
      some (.integer (.negSucc value)) := by
  have inside : value + 1 ≤ UInt64.size / 2 := bounded
  simp only [NumberParts.value?, Text.ofDecimalDigits_decimalDigits,
    and_self, if_true, Nat.zero_lt_succ, inside]
  rfl

end AgentPipeline
