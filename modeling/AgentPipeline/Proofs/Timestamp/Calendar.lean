import AgentPipeline.Timestamp
import Mathlib.Algebra.Ring.Int.Defs

/-!
# The calendar

Days are counted in years from March and cycles of 400 years.  Every number of
days has a day of the calendar, which gives the number back.
-/

namespace AgentPipeline

namespace CalendarDate

/-- The year of the cycle that a day of the cycle belongs to. -/
private def yearOfCycle (dayOfCycle : Int) : Int :=
  (dayOfCycle - dayOfCycle / 1460 + dayOfCycle / 36524
    - dayOfCycle / 146096) / 365

/-- The day of its year from March that a day of the cycle is. -/
private def dayOfYear (dayOfCycle : Int) : Int :=
  let year := yearOfCycle dayOfCycle
  dayOfCycle - (365 * year + year / 4 - year / 100)

/-- Within a century every fourth year is longer by a day, except for the last
year. -/
private theorem year_of_century {century day skipped year : Int}
    (centuryRange : 0 ≤ century ∧ century ≤ 3)
    (dayRange : 0 ≤ day ∧ day ≤ 36523)
    (skippedEq : skipped = (24 * century + day) / 1460)
    (yearEq : year = (day - skipped) / 365) :
    (0 ≤ year ∧ year ≤ 99) ∧
      (0 ≤ day - 365 * year - year / 4 ∧
        day - 365 * year - year / 4 ≤ 365) ∧
      (day - 365 * year - year / 4 = 365 → (year + 1) % 4 = 0 ∧ year ≠ 99) := by
  obtain ⟨quad, quadEq⟩ : ∃ quad, quad = day / 1461 := ⟨_, rfl⟩
  obtain ⟨rest, restEq⟩ : ∃ rest, rest = day % 1461 := ⟨_, rfl⟩
  have split : day = 1461 * quad + rest := by omega
  have restRange : 0 ≤ rest ∧ rest ≤ 1460 := by omega
  have quadRange : 0 ≤ quad ∧ quad ≤ 24 := by omega
  -- the leap days before this one, which may be counted a little early
  have leapDays : (skipped = quad ∧ rest < 1460) ∨
      (skipped = quad + 1 ∧ 1363 ≤ rest) := by omega
  have yearSplit : year = 4 * quad + (quad + rest - skipped) / 365 := by
    omega
  obtain ⟨offset, offsetEq⟩ :
      ∃ offset, offset = (quad + rest - skipped) / 365 := ⟨_, rfl⟩
  have offsetRange : 0 ≤ offset ∧ offset ≤ 3 := by omega
  have fours : year / 4 = quad := by omega
  omega

/-- The year before the end of a cycle, the day of it, and when that is a leap
day. -/
private theorem yearOfCycle_spec {day : Int}
    (range : 0 ≤ day ∧ day ≤ 146096) :
    (0 ≤ yearOfCycle day ∧ yearOfCycle day ≤ 399) ∧
      (0 ≤ dayOfYear day ∧ dayOfYear day ≤ 365) ∧
      (dayOfYear day = 365 → (yearOfCycle day + 1) % 4 = 0 ∧
        ((yearOfCycle day + 1) % 100 ≠ 0 ∨
          (yearOfCycle day + 1) % 400 = 0)) := by
  unfold dayOfYear yearOfCycle
  dsimp only
  by_cases last : day = 146096
  · subst day
    decide
  · obtain ⟨century, centuryEq⟩ : ∃ century, century = day / 36524 :=
      ⟨_, rfl⟩
    obtain ⟨rest, restEq⟩ : ∃ rest, rest = day % 36524 := ⟨_, rfl⟩
    have centuryRange : 0 ≤ century ∧ century ≤ 3 := by omega
    have restRange : 0 ≤ rest ∧ rest ≤ 36523 := by omega
    obtain ⟨skipped, skippedEq⟩ :
        ∃ skipped, skipped = (24 * century + rest) / 1460 := ⟨_, rfl⟩
    obtain ⟨year, yearEq⟩ : ∃ year, year = (rest - skipped) / 365 :=
      ⟨_, rfl⟩
    obtain ⟨yearRange, dayRange, leap⟩ :=
      year_of_century centuryRange restRange skippedEq yearEq
    have split : day = 36524 * century + rest := by omega
    have skippedSplit : day / 1460 = 25 * century + skipped := by omega
    have yearSplit :
        (day - day / 1460 + day / 36524 - day / 146096) / 365 =
          100 * century + year := by
      omega
    rw [yearSplit]
    have fours : (100 * century + year) / 4 = 25 * century + year / 4 := by
      omega
    have hundreds : (100 * century + year) / 100 = century := by omega
    rw [fours, hundreds]
    have dayEq : day - (365 * (100 * century + year)
        + (25 * century + year / 4) - century) =
          rest - 365 * year - year / 4 := by
      omega
    rw [dayEq]
    omega

/-- The month from March and the day of it. -/
private theorem month_spec {day month : Int}
    (range : 0 ≤ day ∧ day ≤ 365) (monthEq : month = (5 * day + 2) / 153) :
    (0 ≤ month ∧ month ≤ 11) ∧ 1 ≤ day - (153 * month + 2) / 5 + 1 := by
  omega

theorem toDays_ofDays (days : Int) : (ofDays days).toDays = days := by
  obtain ⟨cycle, cycleEq⟩ : ∃ cycle, cycle = (days + 719468) / 146097 :=
    ⟨_, rfl⟩
  obtain ⟨day, dayEq⟩ : ∃ day, day = (days + 719468) % 146097 := ⟨_, rfl⟩
  have range : 0 ≤ day ∧ day ≤ 146096 := by omega
  obtain ⟨yearRange, dayRange, -⟩ := yearOfCycle_spec range
  obtain ⟨month, monthEq⟩ :
      ∃ month, month = (5 * dayOfYear day + 2) / 153 := ⟨_, rfl⟩
  obtain ⟨monthRange, positive⟩ := month_spec dayRange monthEq
  have dayOfYearEq : dayOfYear day = day - (365 * yearOfCycle day
      + yearOfCycle day / 4 - yearOfCycle day / 100) := rfl
  unfold ofDays toDays
  simp only [← cycleEq, ← dayEq]
  rw [show (day - day / 1460 + day / 36524 - day / 146096) / 365 =
    yearOfCycle day from rfl, ← dayOfYearEq, ← monthEq]
  generalize yearOfCycle day = year at *
  generalize dayOfYear day = dayOfYear at *
  have cycleBack : (year + cycle * 400) / 400 = cycle := by omega
  have yearBack : (year + cycle * 400) % 400 = year := by omega
  by_cases early : month < 10
  · simp only [early, if_true]
    have notJanuary : ¬(month + 3).toNat ≤ 2 := by omega
    have notJanuary' : ¬month + 3 ≤ 2 := by omega
    have monthBack : (((month + 3).toNat : Int) + 9) % 12 = month := by omega
    simp only [notJanuary, notJanuary', if_false, monthBack, cycleBack,
      yearBack]
    omega
  · simp only [early, if_false]
    have january : (month - 9).toNat ≤ 2 := by omega
    have january' : month - 9 ≤ 2 := by omega
    have monthBack : (((month - 9).toNat : Int) + 9) % 12 = month := by omega
    simp only [january, january', if_true, monthBack, Int.add_sub_cancel,
      cycleBack, yearBack]
    omega

theorem isValid_ofDays (days : Int) : (ofDays days).isValid = true := by
  obtain ⟨cycle, cycleEq⟩ : ∃ cycle, cycle = (days + 719468) / 146097 :=
    ⟨_, rfl⟩
  obtain ⟨day, dayEq⟩ : ∃ day, day = (days + 719468) % 146097 := ⟨_, rfl⟩
  have range : 0 ≤ day ∧ day ≤ 146096 := by omega
  obtain ⟨yearRange, dayRange, leap⟩ := yearOfCycle_spec range
  obtain ⟨month, monthEq⟩ :
      ∃ month, month = (5 * dayOfYear day + 2) / 153 := ⟨_, rfl⟩
  obtain ⟨monthRange, positive⟩ := month_spec dayRange monthEq
  have dayOfYearEq : dayOfYear day = day - (365 * yearOfCycle day
      + yearOfCycle day / 4 - yearOfCycle day / 100) := rfl
  unfold ofDays isValid daysInMonth isLeapYear
  simp only [← cycleEq, ← dayEq]
  rw [show (day - day / 1460 + day / 36524 - day / 146096) / 365 =
    yearOfCycle day from rfl, ← dayOfYearEq, ← monthEq]
  generalize yearOfCycle day = year at *
  generalize dayOfYear day = dayOfYear at *
  obtain ⟨count, rfl⟩ : ∃ count : Nat, month = count :=
    ⟨month.toNat, by omega⟩
  have bounded : count ≤ 11 := by omega
  simp only [Bool.and_eq_true, decide_eq_true_eq]
  rcases count with _ | _ | _ | _ | _ | _ | _ | _ | _ | _ | _ | _ | count
  all_goals simp
  all_goals omega

end CalendarDate

end AgentPipeline
