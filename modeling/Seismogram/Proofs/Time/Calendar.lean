/-
# Years as ranges of days

The first days of the years rise by 365 or 366 (`daysBefore_succ`), so that every day lies in
exactly one year, which is the one that is found for it (`yearOf_eq_iff`).
-/
import Mathlib.Tactic.Common
import Seismogram.Time.Instant

namespace Seismogram.Time

/-- The number of days of a year. -/
def daysInYear (year : Int) : Int := if isLeapYear year then 366 else 365

lemma isLeapYear_iff (year : Int) :
    isLeapYear year = true ↔ year % 4 = 0 ∧ (year % 100 ≠ 0 ∨ year % 400 = 0) := by
  simp [isLeapYear]

/-- A year begins where the year before it ends. -/
lemma daysBefore_succ (year : Int) : daysBefore (year + 1) = daysBefore year + daysInYear year := by
  rw [daysInYear]
  split
  · rename_i hleap
    obtain ⟨hfour, hcentury⟩ := (isLeapYear_iff year).1 hleap
    simp only [daysBefore]
    omega
  · rename_i hcommon
    rw [isLeapYear_iff, not_and_or, not_or, not_not] at hcommon
    simp only [daysBefore]
    omega

lemma daysInYear_mem (year : Int) : 365 ≤ daysInYear year ∧ daysInYear year ≤ 366 := by
  rw [daysInYear]
  split <;> omega

lemma daysBefore_lt_succ (year : Int) : daysBefore year < daysBefore (year + 1) := by
  have hlength := daysInYear_mem year
  rw [daysBefore_succ]
  omega

lemma daysBefore_mono {a b : Int} (hab : a ≤ b) : daysBefore a ≤ daysBefore b := by
  simp only [daysBefore]
  omega

/-- The year of a day is the one that has begun and not ended on it. -/
lemma yearOf_eq_iff {day year : Int} :
    yearOf day = year ↔ daysBefore year ≤ day ∧ day < daysBefore (year + 1) := by
  have hbegun := daysBefore_yearOf_le day
  have hends := lt_daysBefore_yearOf_succ day
  constructor
  · rintro rfl
    exact ⟨hbegun, hends⟩
  · rintro ⟨hbegun', hends'⟩
    rcases Int.lt_trichotomy (yearOf day) year with hlt | heq | hgt
    · have hle := daysBefore_mono (show yearOf day + 1 ≤ year by omega)
      omega
    · exact heq
    · have hle := daysBefore_mono (show year + 1 ≤ yearOf day by omega)
      omega

/-- The days of the calendar are those of its years. -/
lemma yearOf_mem {day : Int} (hday : firstDay ≤ day ∧ day ≤ lastDay) :
    firstYear ≤ yearOf day ∧ yearOf day ≤ lastYear := by
  obtain ⟨hfirst, hlast⟩ := hday
  rw [firstDay] at hfirst
  rw [lastDay] at hlast
  constructor
  · by_contra hlt
    have hle := daysBefore_mono (show yearOf day + 1 ≤ firstYear by omega)
    have hends := lt_daysBefore_yearOf_succ day
    omega
  · by_contra hgt
    have hle := daysBefore_mono (show lastYear + 1 ≤ yearOf day by omega)
    have hbegun := daysBefore_yearOf_le day
    omega

lemma day_mem_of_year_mem {year day : Int} (hyear : firstYear ≤ year ∧ year ≤ lastYear)
    (hbegun : daysBefore year ≤ day) (hends : day < daysBefore (year + 1)) :
    firstDay ≤ day ∧ day ≤ lastDay := by
  have hfirst := daysBefore_mono hyear.1
  have hlast := daysBefore_mono (show year + 1 ≤ lastYear + 1 by omega)
  rw [firstDay, lastDay]
  omega

/-- Days of the year are counted from one. -/
lemma dayOfYear_eq (day : Int) : (dayOfYear day : Int) = day - daysBefore (yearOf day) + 1 := by
  have hbegun := daysBefore_yearOf_le day
  rw [dayOfYear]
  omega

lemma dayOfYear_le (day : Int) : (dayOfYear day : Int) ≤ daysInYear (yearOf day) := by
  have hends := lt_daysBefore_yearOf_succ day
  rw [daysBefore_succ] at hends
  rw [dayOfYear_eq]
  omega

end Seismogram.Time
