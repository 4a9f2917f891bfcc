/-
# Composing as one sum

The first midnight of a year and the durations of the other five fields add up to one number
(`ReferenceFields.sinceEpoch`), whatever their size and sign: no sum on the way is too long.
Composing finds the instant of that number, if the calendar has the year and the instant
(`compose_sum`), so that fields with the same sum are the same time.
-/
import Mathlib.Tactic.Common
import Seismogram.Proofs.Time.Reference

namespace Seismogram.Time

open Instant

/-- The nanoseconds from the start of 1970 to the first midnight of a year. -/
def newYear (year : Int) : Int := daysBefore year * 86400 * 1000000000

namespace ReferenceFields

variable {f g : ReferenceFields}

/-- The nanoseconds from the start of 1970 that six fields add up to. -/
def sinceEpoch (f : ReferenceFields) : Int :=
  newYear f.year.toInt
    + ((f.day.toInt - 1) * 86400 + f.hour.toInt * 3600 + f.minute.toInt * 60 + f.second.toInt)
      * 1000000000
    + f.millisecond.toInt * 1000000

/-- The calendar has the year of the fields. -/
def InCalendar (f : ReferenceFields) : Prop :=
  -262143 ≤ f.year.toInt ∧ f.year.toInt ≤ 262142

end ReferenceFields

variable {t : Instant} {f g : ReferenceFields}

/-- Years are 366 days long if they are divisible by 4 and not by 100, or by 400, and 365 days
otherwise. -/
lemma newYear_succ (year : Int) :
    newYear (year + 1) = newYear year + daysInYear year * 86400 * 1000000000 := by
  rw [newYear, daysBefore_succ, newYear]
  omega

/-- The instant that fields are composed to is the one with their sum. -/
lemma compose_eq_ok_iff_sinceEpoch :
    compose f = .ok t ↔ f.InCalendar ∧ t.inLeapSecond = false ∧ t.sinceEpoch = f.sinceEpoch := by
  have hsum : daysBefore f.year.toInt * 86400 * 1000000000 + f.milliseconds * 1000000 =
      f.sinceEpoch := by
    rw [ReferenceFields.milliseconds, ReferenceFields.sinceEpoch, newYear]
    omega
  constructor
  · intro ht
    have hyear := year_mem_of_compose ht
    rw [compose_eq_ok_iff hyear, hsum] at ht
    exact ⟨hyear, ht⟩
  · rintro ⟨hyear, ht⟩
    rw [compose_eq_ok_iff hyear, hsum]
    exact ht

/-- There is such an instant if the sum is in the calendar. -/
lemma exists_compose_iff : (∃ t, compose f = .ok t) ↔
    f.InCalendar ∧ newYear (-262143) ≤ f.sinceEpoch ∧ f.sinceEpoch < newYear 262143 := by
  have hrange := exists_sinceEpoch_iff (n := f.sinceEpoch)
  rw [show firstDay = daysBefore (-262143) from rfl,
    show lastDay + 1 = daysBefore 262143 from by decide] at hrange
  rw [newYear, newYear, ← hrange]
  simp only [compose_eq_ok_iff_sinceEpoch]
  exact exists_and_left

/-- Composing complains of nothing but the fields. -/
lemma compose_eq_error (hnone : ¬∃ t, compose f = .ok t) :
    compose f = .error (.invalidReferenceTime (.fields f.toList)) := by
  unfold compose at hnone ⊢
  split
  · rename_i i hsome
    rw [hsome] at hnone
    exact absurd ⟨i, rfl⟩ hnone
  · rfl

/-- Six fields are composed to the instant of their sum, if the calendar has their year and that
instant. -/
theorem compose_sum (f : ReferenceFields) :
    newYear 1970 = 0 ∧
    (∀ year, newYear (year + 1) = newYear year + daysInYear year * 86400 * 1000000000) ∧
    f.duration? = some (f.sinceEpoch - newYear f.year.toInt) ∧
    ((∃ t, compose f = .ok t) ↔ f.InCalendar ∧
      newYear (-262143) ≤ f.sinceEpoch ∧ f.sinceEpoch < newYear 262143) ∧
    (∀ t, compose f = .ok t ↔
      f.InCalendar ∧ t.inLeapSecond = false ∧ t.sinceEpoch = f.sinceEpoch) ∧
    ((¬∃ t, compose f = .ok t) →
      compose f = .error (.invalidReferenceTime (.fields f.toList))) ∧
    ∀ g : ReferenceFields, f.InCalendar → g.InCalendar → g.sinceEpoch = f.sinceEpoch →
      ∀ t, compose g = .ok t ↔ compose f = .ok t := by
  refine ⟨by decide, newYear_succ, ?_, exists_compose_iff, fun t => compose_eq_ok_iff_sinceEpoch,
    compose_eq_error, ?_⟩
  · rw [duration?_eq, Option.some.injEq, ReferenceFields.milliseconds, ReferenceFields.sinceEpoch,
      nanosPerMillisecond]
    omega
  · intro g hf hg hsum t
    rw [compose_eq_ok_iff_sinceEpoch, compose_eq_ok_iff_sinceEpoch, hsum, iff_true_intro hf,
      iff_true_intro hg]

/-- Fields that carry into the next larger units, and the normal fields of the same sum. -/
theorem compose_sum_carried :
    ∃ t, compose ⟨2001, 1, 0, 0, 75, 1500⟩ = .ok t ∧ compose ⟨2001, 1, 0, 1, 16, 500⟩ = .ok t := by
  obtain ⟨-, -, -, hexists, -, -, hsame⟩ := compose_sum ⟨2001, 1, 0, 0, 75, 1500⟩
  have hyear : ReferenceFields.InCalendar ⟨2001, 1, 0, 0, 75, 1500⟩ := ⟨by decide, by decide⟩
  obtain ⟨t, ht⟩ := hexists.2 ⟨hyear, by decide⟩
  exact ⟨t, ht,
    (hsame ⟨2001, 1, 0, 1, 16, 500⟩ hyear ⟨by decide, by decide⟩ (by decide) t).2 ht⟩

end Seismogram.Time
