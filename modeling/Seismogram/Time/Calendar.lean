/-
# The proleptic Gregorian calendar as a count of days

Days are numbered from 1970-01-01, which is day 0.  A year begins at the day
`daysBefore year`, and `yearOf` finds the year of a day by taking off whole cycles of 400,
100 and 4 years and then single years; the last century of a cycle and the last year of
four are one day longer, so their number is capped.  The two are inverse in the sense of
`daysBefore_yearOf_le` and `lt_daysBefore_yearOf_succ`.
-/

namespace Seismogram.Time

/-- The days from 0001-01-01 to 1970-01-01. -/
def daysToEpoch : Int := 719162

/-- The number of the first day of a year. -/
def daysBefore (year : Int) : Int :=
  365 * (year - 1) + (year - 1) / 4 - (year - 1) / 100 + (year - 1) / 400 - daysToEpoch

/-- The year of a day. -/
def yearOf (day : Int) : Int :=
  let inCycle := (day + daysToEpoch) % 146097
  let century := min 3 (inCycle / 36524)
  let inCentury := inCycle - 36524 * century
  let inFour := inCentury % 1461
  400 * ((day + daysToEpoch) / 146097) + 100 * century + 4 * (inCentury / 1461)
    + min 3 (inFour / 365) + 1

/-- A year with a 29th of February. -/
def isLeapYear (year : Int) : Bool :=
  year % 4 == 0 && (year % 100 != 0 || year % 400 == 0)

/-- The days of the months of a year. -/
def monthLengths (year : Int) : List Nat :=
  [31, if isLeapYear year then 29 else 28, 31, 30, 31, 30, 31, 31, 30, 31, 30, 31]

/-- A date by month. -/
structure Date where
  /-- The year; 0 is the year before 1. -/
  year : Int
  /-- The month, from 1. -/
  month : Nat
  /-- The day of the month, from 1. -/
  day : Nat
deriving DecidableEq, Repr

/-- Month and day, both from 1, of the day that follows `past` days of the month `month`. -/
def monthAndDay (month past : Nat) : List Nat → Nat × Nat
  | length :: later =>
    if past < length then (month, past + 1) else monthAndDay (month + 1) (past - length) later
  | [] => (month, past + 1)

/-- The day of the year, from 1. -/
def dayOfYear (day : Int) : Nat := (day - daysBefore (yearOf day)).toNat + 1

/-- The date of a day. -/
def dateOf (day : Int) : Date :=
  let year := yearOf day
  let (month, dayOfMonth) := monthAndDay 1 (dayOfYear day - 1) (monthLengths year)
  ⟨year, month, dayOfMonth⟩

/-! ## Years and their days -/

/-- The first day of a year that is given by whole cycles, centuries, fours and single years. -/
theorem daysBefore_parts (a b c d : Int) (hb : 0 ≤ b ∧ b ≤ 3) (hc : 0 ≤ c ∧ c ≤ 24)
    (hd : 0 ≤ d ∧ d ≤ 3) :
    daysBefore (400 * a + 100 * b + 4 * c + d + 1)
      = 146097 * a + 36524 * b + 1461 * c + 365 * d - daysToEpoch := by
  have four : (400 * a + 100 * b + 4 * c + d + 1 - 1) / 4 = 100 * a + 25 * b + c := by omega
  have century : (400 * a + 100 * b + 4 * c + d + 1 - 1) / 100 = 4 * a + b := by omega
  have cycle : (400 * a + 100 * b + 4 * c + d + 1 - 1) / 400 = a := by omega
  rw [daysBefore, four, century, cycle]
  omega

/-- The parts of the year of a day, and the days of the year that have passed. -/
theorem yearOf_parts (day : Int) : ∃ a b c d past : Int,
    yearOf day = 400 * a + 100 * b + 4 * c + d + 1 ∧
    day + daysToEpoch = 146097 * a + 36524 * b + 1461 * c + 365 * d + past ∧
    (0 ≤ b ∧ b ≤ 3) ∧ (0 ≤ c ∧ c ≤ 24) ∧ (0 ≤ d ∧ d ≤ 3) ∧ 0 ≤ past ∧
    (d < 3 → past < 365) ∧ 365 * d + past < 1461 ∧
    (b < 3 → 1461 * c + 365 * d + past < 36524) ∧
    36524 * b + 1461 * c + 365 * d + past < 146097 := by
  refine ⟨(day + daysToEpoch) / 146097, min 3 ((day + daysToEpoch) % 146097 / 36524), _, _,
    ((day + daysToEpoch) % 146097
      - 36524 * min 3 ((day + daysToEpoch) % 146097 / 36524)) % 1461
      - 365 * min 3 (((day + daysToEpoch) % 146097
        - 36524 * min 3 ((day + daysToEpoch) % 146097 / 36524)) % 1461 / 365), rfl, ?_⟩
  refine ⟨?_, ?_, ?_, ?_, ?_, ?_, ?_, ?_, ?_⟩ <;> omega

theorem daysBefore_yearOf_le (day : Int) : daysBefore (yearOf day) ≤ day := by
  obtain ⟨a, b, c, d, past, year, split, hb, hc, hd, nonneg, -⟩ := yearOf_parts day
  rw [year, daysBefore_parts a b c d hb hc hd]
  omega

theorem lt_daysBefore_yearOf_succ (day : Int) : day < daysBefore (yearOf day + 1) := by
  obtain ⟨a, b, c, d, past, year, split, hb, hc, hd, nonneg, inYear, inFour, inCentury, inCycle⟩ :=
    yearOf_parts day
  rw [year]
  by_cases d3 : d < 3
  · have := daysBefore_parts a b c (d + 1) hb hc (by omega)
    rw [show 400 * a + 100 * b + 4 * c + d + 1 + 1 = 400 * a + 100 * b + 4 * c + (d + 1) + 1 by omega,
      this]
    omega
  by_cases c24 : c < 24
  · have := daysBefore_parts a b (c + 1) 0 hb (by omega) (by omega)
    rw [show 400 * a + 100 * b + 4 * c + d + 1 + 1 = 400 * a + 100 * b + 4 * (c + 1) + 0 + 1 by omega,
      this]
    omega
  by_cases b3 : b < 3
  · have := daysBefore_parts a (b + 1) 0 0 (by omega) (by omega) (by omega)
    rw [show 400 * a + 100 * b + 4 * c + d + 1 + 1 = 400 * a + 100 * (b + 1) + 4 * 0 + 0 + 1 by omega,
      this]
    omega
  · have := daysBefore_parts (a + 1) 0 0 0 (by omega) (by omega) (by omega)
    rw [show 400 * a + 100 * b + 4 * c + d + 1 + 1 = 400 * (a + 1) + 100 * 0 + 4 * 0 + 0 + 1 by omega,
      this]
    omega

example : daysBefore 1970 = 0 := by decide
example : dateOf 0 = ⟨1970, 1, 1⟩ := by decide
example : dateOf 11016 = ⟨2000, 2, 29⟩ := by decide
example : dateOf (-719528) = ⟨0, 1, 1⟩ := by decide

end Seismogram.Time
