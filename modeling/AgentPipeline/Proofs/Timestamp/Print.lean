import AgentPipeline.Proofs.Text.Blank
import AgentPipeline.Proofs.Text.Decimal
import AgentPipeline.Proofs.Timestamp.Calendar

/-!
# Reading back timestamps

A moment that has a text is read back from it, within a leap second as well.
Main statements: `parse?_print_of_isMoment`, `parse?_print`.
-/

namespace AgentPipeline

namespace Timestamp

/-- A moment with a text: its year can be named, and it is not within a leap
second. -/
structure IsNameable (moment : Timestamp) : Prop where
  year : yearInRange moment.date.year = true
  nanoseconds : moment.nanoseconds < billion

/-- A moment of the calendar: its year can be named, and only the last second
of a minute has a leap second behind it. -/
structure IsMoment (moment : Timestamp) : Prop where
  year : yearInRange moment.date.year = true
  leap : moment.nanoseconds < billion ∨
    moment.seconds % 60 = 59 ∧ moment.nanoseconds < 2 * billion

theorem IsNameable.isMoment {moment : Timestamp}
    (nameable : moment.IsNameable) : moment.IsMoment :=
  ⟨nameable.year, .inl nameable.nanoseconds⟩

/-! ## The parts -/

private theorem trimStart_digits {digits rest : List Char}
    (notNil : digits ≠ [])
    (isDigits : ∀ digit ∈ digits, digit.isDigit = true) :
    Text.trimStart (digits ++ rest) = digits ++ rest := by
  cases digits with
  | nil => exact absurd rfl notNil
  | cons first others =>
      have notBlank := Text.isBlank_of_isDigit (isDigits first (by simp))
      simp [Text.trimStart, notBlank]

/-- A number with as many digits as may be read. -/
theorem readDigits_zeroPadded {width value : Nat} (positive : 0 < width)
    (bounded : value < 10 ^ width) (rest : List Char) :
    readDigits width (Text.zeroPadded width value ++ rest) =
      some (value, rest) := by
  have notNil := Text.zeroPadded_ne_nil width value
  have isDigits := Text.isDigit_of_mem_zeroPadded width value
  have length := Text.length_zeroPadded positive bounded
  have taken : ((Text.zeroPadded width value ++ rest).take width).takeWhile
      Char.isDigit = Text.zeroPadded width value := by
    rw [List.take_left' length]
    have all := Text.takeWhile_isDigit_append isDigits Text.endsDigits_nil
    rwa [List.append_nil] at all
  rw [readDigits, trimStart_digits notNil isDigits, taken]
  cases digits : Text.zeroPadded width value with
  | nil => exact absurd digits notNil
  | cons first others =>
      dsimp only
      rw [← digits, Text.ofDecimalDigits_zeroPadded, List.drop_left]

theorem readMark_cons {mark : Char} (notBlank : Text.isBlank mark = false)
    (rest : List Char) : readMark mark (mark :: rest) = some rest := by
  simp [readMark, Text.trimStart, notBlank]

/-- A year that is given as four digits. -/
private theorem readYear_short {year : Nat} (bounded : year < 10000)
    (rest : List Char) :
    readYear (Text.zeroPadded 4 year ++ rest) =
      some ((year : Int), rest) := by
  have notNil := Text.zeroPadded_ne_nil 4 year
  have isDigits := Text.isDigit_of_mem_zeroPadded 4 year
  have apart : ∀ other tail, other.isDigit = false →
      Text.zeroPadded 4 year ++ rest ≠ other :: tail := by
    intro other tail notDigit same
    cases digits : Text.zeroPadded 4 year with
    | nil => exact notNil digits
    | cons first others =>
        rw [digits] at same
        have isDigit := isDigits first (by simp [digits])
        rw [(List.cons.inj same).1, notDigit] at isDigit
        cases isDigit
  rw [readYear, trimStart_digits notNil isDigits]
  split
  next same => exact absurd same (apart _ _ rfl)
  next same => exact absurd same (apart _ _ rfl)
  · rw [readDigits_zeroPadded (by decide) (by simpa using bounded)]
    rfl

theorem readYear_yearText (year : Int) (rest : List Char) :
    readYear (CalendarDate.yearText year ++ '-' :: rest) =
      some (year, '-' :: rest) := by
  unfold CalendarDate.yearText
  split
  next short =>
    have bounded : year.toNat < 10000 := by omega
    have back : (year.toNat : Int) = year := by omega
    rw [readYear_short bounded, back]
  next long =>
    have spans := Text.spanDigits_append
      (Text.isDigit_of_mem_zeroPadded 4 year.natAbs)
      (Text.endsDigits_cons (by decide) : Text.EndsDigits ('-' :: rest))
    have signed : ∀ sign : Int, sign * (year.natAbs : Int) = year →
        readYear.signed sign (Text.zeroPadded 4 year.natAbs ++ '-' :: rest) =
          some (year, '-' :: rest) := by
      intro sign value
      unfold readYear.signed
      rw [spans]
      cases digits : Text.zeroPadded 4 year.natAbs with
      | nil => exact absurd digits (Text.zeroPadded_ne_nil 4 year.natAbs)
      | cons first others =>
          dsimp only
          rw [← digits, Text.ofDecimalDigits_zeroPadded, value]
    by_cases negative : year < 0
    · simp only [negative, if_true, List.cons_append]
      exact signed (-1) (by omega)
    · simp only [negative, if_false, List.cons_append]
      exact signed 1 (by omega)

/-- The digits of a fraction give nanoseconds. -/
private theorem readFraction_digits {width value : Nat}
    (positive : 0 < width) (short : width ≤ 9)
    (bounded : value < 10 ^ width) {rest : List Char}
    (ends : Text.EndsDigits rest) :
    readFraction ('.' :: Text.zeroPadded width value ++ rest) =
      some (value * 10 ^ (9 - width), rest) := by
  have spans := Text.spanDigits_append
    (Text.isDigit_of_mem_zeroPadded width value) ends
  have length := Text.length_zeroPadded positive bounded
  have kept : (Text.zeroPadded width value).take 9 =
      Text.zeroPadded width value := List.take_of_length_le (by omega)
  simp only [List.cons_append, readFraction, spans]
  cases digits : Text.zeroPadded width value with
  | nil => exact absurd digits (Text.zeroPadded_ne_nil width value)
  | cons first others =>
      dsimp only
      rw [← digits, kept, Text.ofDecimalDigits_zeroPadded, length]
      rfl

theorem readFraction_fractionText (moment : Timestamp) :
    readFraction (moment.fractionText ++ ['Z']) =
      some (moment.nanoseconds % billion, ['Z']) := by
  have ends : Text.EndsDigits ['Z'] := Text.endsDigits_cons (by decide)
  have bounded : moment.nanoseconds % billion < 1000000000 :=
    Nat.mod_lt _ (by decide)
  unfold fractionText
  generalize moment.nanoseconds % billion = fraction at bounded ⊢
  dsimp only
  split
  next zero =>
    subst zero
    rfl
  split
  next thousands =>
    rw [readFraction_digits (by decide) (by decide) (by omega) ends]
    have back : fraction / 1000000 * 10 ^ (9 - 3) = fraction := by omega
    rw [back]
  split
  next thousands =>
    rw [readFraction_digits (by decide) (by decide) (by omega) ends]
    have back : fraction / 1000 * 10 ^ (9 - 6) = fraction := by omega
    rw [back]
  · rw [readFraction_digits (by decide) (by decide) (by omega) ends]
    simp

/-! ## The whole -/

/-- Behind the last second of a minute there may be one more. -/
private theorem second_cases {moment : Timestamp} (isMoment : moment.IsMoment) :
    (moment.second < 60 ∧ (moment.second : Int) = moment.seconds % 60 ∧
        moment.nanoseconds < billion) ∨
      (moment.second = 60 ∧ moment.seconds % 60 = 59 ∧
        billion ≤ moment.nanoseconds ∧ moment.nanoseconds < 2 * billion) := by
  unfold second billion
  have leap := isMoment.leap
  unfold billion at leap
  omega

/-- Two digits are enough for the parts of a date and a time. -/
private theorem parts_lt (moment : Timestamp) :
    (moment.date.month < 100 ∧ moment.date.day < 100) ∧
      moment.hour < 24 ∧ moment.minute < 60 := by
  have valid := CalendarDate.isValid_ofDays (moment.seconds / 86400)
  change moment.date.isValid = true at valid
  simp only [CalendarDate.isValid, Bool.and_eq_true, decide_eq_true_eq]
    at valid
  have longest : CalendarDate.daysInMonth moment.date.year
      moment.date.month ≤ 31 := by
    unfold CalendarDate.daysInMonth
    repeat' split
    all_goals omega
  refine ⟨by omega, ?_, ?_⟩
  · unfold hour
    omega
  · unfold minute
    omega

/-- The date and the time of day make up the moment. -/
private theorem seconds_eq (moment : Timestamp) {second : Nat}
    (isSecond : (second : Int) = moment.seconds % 60) :
    moment.date.toDays * 86400 + (3600 * (moment.hour : Int)
      + 60 * (moment.minute : Int) + (second : Nat)) - 0 =
        moment.seconds := by
  have days := CalendarDate.toDays_ofDays (moment.seconds / 86400)
  change moment.date.toDays = _ at days
  rw [days, isSecond, hour, minute]
  omega

/-- A moment of the calendar is read back from its text. -/
theorem parse?_print_of_isMoment {moment : Timestamp}
    (isMoment : moment.IsMoment) : parse? moment.print = some moment := by
  obtain ⟨⟨monthBound, dayBound⟩, hourBound, minuteBound⟩ := parts_lt moment
  have seconds := second_cases isMoment
  have secondBound : moment.second ≤ 60 := by omega
  have valid : moment.date.isValid = true :=
    CalendarDate.isValid_ofDays (moment.seconds / 86400)
  have text : moment.print.toList =
      CalendarDate.yearText moment.date.year ++ '-' ::
        (Text.zeroPadded 2 moment.date.month ++ '-' ::
          (Text.zeroPadded 2 moment.date.day ++ 'T' ::
            (Text.zeroPadded 2 moment.hour ++ ':' ::
              (Text.zeroPadded 2 moment.minute ++ ':' ::
                (Text.zeroPadded 2 moment.second ++
                  (moment.fractionText ++ ['Z'])))))) := by
    simp [print, dateText, timeText]
  have dash : ∀ rest, readMark '-' ('-' :: rest) = some rest :=
    readMark_cons (by decide)
  have colon : ∀ rest, readMark ':' (':' :: rest) = some rest :=
    readMark_cons (by decide)
  have twoDigits : ∀ value < 100, ∀ rest,
      readDigits 2 (Text.zeroPadded 2 value ++ rest) = some (value, rest) :=
    fun value bounded rest =>
      readDigits_zeroPadded (by decide) (by simpa using bounded) rest
  have offset : readOffset (Text.trimStart ['Z']) = some (0, []) := by
    decide
  have fraction := readFraction_fractionText moment
  unfold parse?
  dsimp only [Option.bind_eq_bind]
  rw [text, readYear_yearText, Option.bind_some, dash, Option.bind_some,
    twoDigits _ monthBound, Option.bind_some, dash, Option.bind_some,
    twoDigits _ dayBound, Option.bind_some]
  simp only [Option.bind_some, colon, twoDigits moment.hour (by omega),
    twoDigits moment.minute (by omega), twoDigits moment.second (by omega),
    fraction, offset]
  -- What was read names a moment, which is the one that was written: a sixtieth
  -- second stands for a second of fraction behind the one before.
  rw [if_pos ⟨trivial, isMoment.year, valid, hourBound, minuteBound,
    secondBound⟩]
  have whole : moment.nanoseconds % billion +
      (if moment.second = 60 then billion else 0) = moment.nanoseconds := by
    unfold billion at seconds ⊢
    split <;> omega
  have counted : ((min moment.second 59 : Nat) : Int) =
      moment.seconds % 60 := by
    omega
  rw [whole, seconds_eq moment counted]
  exact if_pos isMoment.year

/-- A nameable moment is read back from its text. -/
theorem parse?_print {moment : Timestamp} (nameable : moment.IsNameable) :
    parse? moment.print = some moment :=
  parse?_print_of_isMoment nameable.isMoment

end Timestamp

end AgentPipeline
