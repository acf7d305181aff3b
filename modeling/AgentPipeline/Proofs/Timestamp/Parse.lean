import AgentPipeline.Proofs.Timestamp.Print

/-!
# Reading timestamps

What a text is read as is a moment of the calendar, whatever offset and
fraction the text has.  Main statement: `isMoment_of_parse?`.
-/

namespace AgentPipeline

namespace Timestamp

/-- A fraction is less than a second. -/
theorem readFraction_lt {characters rest : List Char} {fraction : Nat}
    (read : readFraction characters = some (fraction, rest)) :
    fraction < billion := by
  unfold readFraction at read
  split at read
  · split at read
    · cases read
    next digits _ _ spanned =>
      have isDigits : ∀ digit ∈ digits.take 9, digit.isDigit = true := by
        intro digit isTaken
        have isDigits := congrArg Prod.fst spanned
        dsimp only [Text.spanDigits] at isDigits
        rw [← isDigits] at isTaken
        exact List.all_eq_true.mp List.all_takeWhile digit
          (List.mem_of_mem_take isTaken)
      have small := Text.ofDecimalDigits_lt isDigits
      have short : (digits.take 9).length ≤ 9 := List.length_take_le _ _
      have scaled : 10 ^ (digits.take 9).length *
          10 ^ (9 - (digits.take 9).length) = billion := by
        rw [← Nat.pow_add, Nat.add_sub_cancel' short]
        rfl
      obtain ⟨rfl, -⟩ := Prod.ext_iff.mp (Option.some.inj read)
      rw [← scaled]
      exact Nat.mul_lt_mul_of_pos_right small (Nat.pow_pos (by decide))
  · cases read
    exact Nat.zero_lt_of_lt (Nat.lt_succ_self _)

/-- An offset is given in minutes. -/
theorem readOffset_minutes {characters rest : List Char} {offset : Int}
    (read : readOffset characters = some (offset, rest)) :
    offset % 60 = 0 := by
  have hoursAndMinutes : ∀ {sign : Int} {characters : List Char},
      readOffset.hoursAndMinutes sign characters = some (offset, rest) →
        offset % 60 = 0 := by
    intro sign characters read
    simp only [readOffset.hoursAndMinutes, Option.bind_eq_bind,
      Option.bind_eq_some_iff, Option.ite_none_right_eq_some,
      Option.some.injEq, Prod.mk.injEq] at read
    obtain ⟨⟨hours, _⟩, -, ⟨minutes, _⟩, -, -, rfl, -⟩ := read
    have inMinutes : ((3600 * hours + 60 * minutes : Nat) : Int) =
        60 * (60 * hours + minutes : Nat) := by omega
    rw [inMinutes, Int.mul_left_comm]
    exact Int.mul_emod_right 60 _
  unfold readOffset at read
  split at read
  · obtain ⟨rfl, -⟩ := Prod.ext_iff.mp (Option.some.inj read)
    rfl
  · obtain ⟨rfl, -⟩ := Prod.ext_iff.mp (Option.some.inj read)
    rfl
  · split at read
    · obtain ⟨rfl, -⟩ := Prod.ext_iff.mp (Option.some.inj read)
      rfl
    split at read
    · exact hoursAndMinutes read
    split at read
    · exact hoursAndMinutes read
    · cases read
  · cases read

private theorem isMoment_of_parts {days offset : Int}
    {hour minute second fraction : Nat} (small : fraction < billion)
    (inMinutes : offset % 60 = 0)
    (year : yearInRange (⟨days * 86400 + (3600 * (hour : Int)
      + 60 * (minute : Int) + (min second 59 : Nat)) - offset,
        fraction + if second = 60 then billion else 0⟩ :
          Timestamp).date.year = true) :
    (⟨days * 86400 + (3600 * (hour : Int) + 60 * (minute : Int)
      + (min second 59 : Nat)) - offset,
        fraction + if second = 60 then billion else 0⟩ :
          Timestamp).IsMoment := by
  refine ⟨year, ?_⟩
  by_cases isLeap : second = 60
  · subst isLeap
    exact .inr ⟨by dsimp only; omega, by dsimp only; simp; omega⟩
  · exact .inl (by simpa [isLeap] using small)

theorem isMoment_of_parse? {text : String} {moment : Timestamp}
    (read : parse? text = some moment) : moment.IsMoment := by
  unfold parse? at read
  obtain ⟨⟨year, _⟩, -, read⟩ := Option.bind_eq_some_iff.mp read
  obtain ⟨_, -, read⟩ := Option.bind_eq_some_iff.mp read
  obtain ⟨⟨month, _⟩, -, read⟩ := Option.bind_eq_some_iff.mp read
  obtain ⟨_, -, read⟩ := Option.bind_eq_some_iff.mp read
  obtain ⟨⟨day, _⟩, -, read⟩ := Option.bind_eq_some_iff.mp read
  dsimp only at read
  split at read
  case h_4 => cases read
  -- Three letters may stand between the date and the time.
  all_goals
    obtain ⟨_, -, read⟩ := Option.bind_eq_some_iff.mp read
    obtain ⟨⟨hour, _⟩, -, read⟩ := Option.bind_eq_some_iff.mp read
    obtain ⟨_, -, read⟩ := Option.bind_eq_some_iff.mp read
    obtain ⟨⟨minute, _⟩, -, read⟩ := Option.bind_eq_some_iff.mp read
    obtain ⟨_, -, read⟩ := Option.bind_eq_some_iff.mp read
    obtain ⟨⟨second, _⟩, -, read⟩ := Option.bind_eq_some_iff.mp read
    obtain ⟨_, fractionRead, read⟩ := Option.bind_eq_some_iff.mp read
    obtain ⟨_, offsetRead, read⟩ := Option.bind_eq_some_iff.mp read
    obtain ⟨-, read⟩ := Option.ite_none_right_eq_some.mp read
    obtain ⟨inRange, same⟩ := Option.ite_none_right_eq_some.mp read
    cases same
    exact isMoment_of_parts (readFraction_lt fractionRead)
      (readOffset_minutes offsetRead) inRange

end Timestamp

end AgentPipeline
