/-
# Reference times taken apart and put together

Six fields in their calendar ranges (`ReferenceFields.Normal`) are what an instant of whole
milliseconds is taken apart into.  Putting them together gives the instant back
(`compose_decompose`), and taking apart what normal fields are put together to gives the fields
back (`decompose_compose`).
-/
import Mathlib.Tactic.Common
import Seismogram.Proofs.Time.Rounding

namespace Seismogram.Time

open Instant

variable {t u : Instant}

/-! ### Fields in their ranges -/

namespace ReferenceFields

variable {f : ReferenceFields}

/-- Six fields that are each in their calendar range. -/
structure Normal (f : ReferenceFields) : Prop where
  year : firstYear ≤ f.year.toInt ∧ f.year.toInt ≤ lastYear
  day : 1 ≤ f.day.toInt ∧ f.day.toInt ≤ daysInYear f.year.toInt
  hour : 0 ≤ f.hour.toInt ∧ f.hour.toInt < 24
  minute : 0 ≤ f.minute.toInt ∧ f.minute.toInt < 60
  second : 0 ≤ f.second.toInt ∧ f.second.toInt < 60
  millisecond : 0 ≤ f.millisecond.toInt ∧ f.millisecond.toInt < 1000

end ReferenceFields

/-- The beginning of a year of the calendar. -/
lemma exists_startOfYear? {year : Int} (hyear : firstYear ≤ year ∧ year ≤ lastYear) :
    ∃ start, startOfYear? year = some start ∧ start.inLeapSecond = false ∧
      start.sinceEpoch = daysBefore year * 86400 * 1000000000 := by
  have hday := day_mem_of_year_mem hyear (Int.le_refl _) (daysBefore_lt_succ year)
  obtain ⟨start, hstart, hordinary, hcount⟩ := exists_ofParts? hday
    (show 0 < secondsPerDay by decide) (show 0 < nanosPerSecond by decide)
  refine ⟨start, hstart, hordinary, ?_⟩
  rw [hcount]
  omega

lemma lengthen?_eq_some {d nanos : Int} (hnanos : -longestDuration ≤ nanos ∧ nanos ≤ longestDuration)
    (hsum : -longestDuration ≤ d + nanos ∧ d + nanos ≤ longestDuration) :
    lengthen? d nanos = some (d + nanos) := by
  simp only [lengthen?, duration?, if_pos hnanos, Option.bind_eq_bind, Option.bind_some,
    if_pos hsum]

/-- The durations of fields of 32 bits, and their sums, are far from too long. -/
lemma duration?_eq (f : ReferenceFields) :
    f.duration? = some (f.milliseconds * nanosPerMillisecond) := by
  have hbound (n : Int32) : -2147483648 ≤ n.toInt ∧ n.toInt ≤ 2147483647 :=
    ⟨n.le_toInt, Int.le_of_lt_add_one n.toInt_lt⟩
  have hday := hbound f.day
  have hhour := hbound f.hour
  have hminute := hbound f.minute
  have hsecond := hbound f.second
  have hmillisecond := hbound f.millisecond
  have hlongest : longestDuration = 9223372036854775807000000 := rfl
  have hdays : duration? ((f.day.toInt - 1) * secondsPerDay * nanosPerSecond) =
      some ((f.day.toInt - 1) * secondsPerDay * nanosPerSecond) := by
    rw [duration?, if_pos]
    rw [hlongest, secondsPerDay, nanosPerSecond]
    omega
  simp only [ReferenceFields.duration?, hdays, Option.bind_eq_bind, Option.bind_some]
  rw [ReferenceFields.milliseconds]
  simp only [secondsPerDay, nanosPerSecond, nanosPerMillisecond]
  rw [lengthen?_eq_some (by omega) (by omega), Option.bind_some,
    lengthen?_eq_some (by omega) (by omega), Option.bind_some,
    lengthen?_eq_some (by omega) (by omega), Option.bind_some,
    lengthen?_eq_some (by omega) (by omega), Option.some.injEq]
  omega

lemma compose_eq_ok_iff_bind {f : ReferenceFields} :
    compose f = .ok t ↔ (startOfYear? f.year.toInt).bind
      (·.add? (f.milliseconds * nanosPerMillisecond)) = some t := by
  have hduration : (fun start : Instant => f.duration?.bind start.add?) =
      (·.add? (f.milliseconds * nanosPerMillisecond)) := by
    rw [duration?_eq]
    rfl
  unfold compose
  rw [hduration]
  split
  · rename_i hsome
    rw [hsome, Except.ok.injEq, Option.some.injEq]
  · rename_i hnone
    simp [hnone]

/-- Fields of a year of the calendar are counted from its beginning. -/
lemma compose_eq_ok_iff {f : ReferenceFields}
    (hyear : firstYear ≤ f.year.toInt ∧ f.year.toInt ≤ lastYear) :
    compose f = .ok t ↔ t.inLeapSecond = false ∧
      t.sinceEpoch = daysBefore f.year.toInt * 86400 * 1000000000 + f.milliseconds * 1000000 := by
  obtain ⟨start, hstart, hordinary, hcount⟩ := exists_startOfYear? hyear
  rw [compose_eq_ok_iff_bind, hstart, Option.bind_some, add?_eq_some_iff hordinary, hcount]
  rfl

/-- Only a year of the calendar has a beginning. -/
lemma year_mem_of_compose {f : ReferenceFields} (ht : compose f = .ok t) :
    firstYear ≤ f.year.toInt ∧ f.year.toInt ≤ lastYear := by
  obtain ⟨start, hstart, -⟩ := Option.bind_eq_some_iff.1 (compose_eq_ok_iff_bind.1 ht)
  obtain ⟨hday, -, -⟩ := ofParts?_eq_some_iff.1 hstart
  have hmem := yearOf_mem start.day_mem
  rwa [hday, yearOf_eq_iff.2 ⟨Int.le_refl _, daysBefore_lt_succ _⟩] at hmem

/-- Composed fields give whole milliseconds. -/
lemma wholeMilliseconds_compose {f : ReferenceFields} (ht : compose f = .ok t) :
    t.WholeMilliseconds := by
  obtain ⟨hordinary, hcount⟩ := (compose_eq_ok_iff (year_mem_of_compose ht)).1 ht
  refine wholeMilliseconds_of_sinceEpoch hordinary
    (n := daysBefore f.year.toInt * 86400000 + f.milliseconds) ?_
  omega

/-! ### Taking apart -/

lemma toInt_year_decompose (t : Instant) : (decompose t).year.toInt = yearOf t.day := by
  have hyear := yearOf_mem t.day_mem
  rw [firstYear, lastYear] at hyear
  exact Int32.toInt_ofInt_of_le (by omega) (by omega)

lemma toInt_decompose (t : Instant) :
    (decompose t).day.toInt = dayOfYear t.day ∧
      (decompose t).hour.toInt = (t.second / 3600 : Nat) ∧
      (decompose t).minute.toInt = (t.second / 60 % 60 : Nat) ∧
      (decompose t).second.toInt = (t.second % 60 : Nat) ∧
      (decompose t).millisecond.toInt = (t.nanosecond / nanosPerMillisecond % 1000 : Nat) := by
  have hday := dayOfYear_le t.day
  have hlength := daysInYear_mem (yearOf t.day)
  have hsecond := t.second_lt
  rw [secondsPerDay] at hsecond
  refine ⟨?_, ?_, ?_, ?_, ?_⟩ <;> exact Int32.toInt_ofInt_of_le (by omega) (by omega)

lemma decompose_epoch : decompose .epoch =
    { year := 1970, day := 1, hour := 0, minute := 0, second := 0, millisecond := 0 } := by
  decide +kernel

/-- An instant is taken apart into normal fields. -/
lemma normal_decompose (t : Instant) : (decompose t).Normal := by
  obtain ⟨hday, hhour, hminute, hsecond, hmillisecond⟩ := toInt_decompose t
  have hpast := dayOfYear_eq t.day
  have hbegun := daysBefore_yearOf_le t.day
  have hlt := t.second_lt
  rw [secondsPerDay] at hlt
  exact
    { year := by rw [toInt_year_decompose]; exact yearOf_mem t.day_mem
      day := by rw [toInt_year_decompose, hday]; exact ⟨by omega, dayOfYear_le t.day⟩
      hour := by rw [hhour]; omega
      minute := by rw [hminute]; omega
      second := by rw [hsecond]; omega
      millisecond := by rw [hmillisecond]; omega }

/-- What an instant is taken apart into gives whole milliseconds back. -/
theorem compose_decompose (ht : t.WholeMilliseconds) : compose (decompose t) = .ok t := by
  obtain ⟨hordinary, hwhole⟩ := ht
  obtain ⟨hday, hhour, hminute, hsecond, hmillisecond⟩ := toInt_decompose t
  have hyear : firstYear ≤ (decompose t).year.toInt ∧ (decompose t).year.toInt ≤ lastYear :=
    (normal_decompose t).year
  refine (compose_eq_ok_iff hyear).2 ⟨hordinary, ?_⟩
  rw [toInt_year_decompose, ReferenceFields.milliseconds, hday, hhour, hminute, hsecond,
    hmillisecond, dayOfYear_eq, sinceEpoch_eq]
  rw [inLeapSecond_eq_false_iff, nanosPerSecond] at hordinary
  rw [nanosPerMillisecond] at hwhole ⊢
  omega

/-- Normal fields are what the instant that they are put together to is taken apart into. -/
theorem decompose_compose {f : ReferenceFields} (hf : f.Normal) (ht : compose f = .ok t) :
    decompose t = f := by
  obtain ⟨hordinary, hcount⟩ := (compose_eq_ok_iff hf.year).1 ht
  obtain ⟨hday, hhour, hminute, hsecond, hmillisecond⟩ := toInt_decompose t
  have hlt := t.second_lt
  rw [sinceEpoch_eq, ReferenceFields.milliseconds] at hcount
  rw [inLeapSecond_eq_false_iff, nanosPerSecond] at hordinary
  rw [secondsPerDay] at hlt
  rw [nanosPerMillisecond] at hmillisecond
  obtain ⟨hfday, hfhour, hfminute, hfsecond, hfmillisecond⟩ :=
    And.intro hf.day (And.intro hf.hour (And.intro hf.minute (And.intro hf.second hf.millisecond)))
  have hdigit : t.day = daysBefore f.year.toInt + (f.day.toInt - 1) := by omega
  have hyear : yearOf t.day = f.year.toInt := by
    rw [yearOf_eq_iff, daysBefore_succ]
    omega
  have hpast := dayOfYear_eq t.day
  rw [hyear] at hpast
  have hext {g : ReferenceFields} (hsame : g.year.toInt = f.year.toInt ∧
      g.day.toInt = f.day.toInt ∧ g.hour.toInt = f.hour.toInt ∧ g.minute.toInt = f.minute.toInt ∧
      g.second.toInt = f.second.toInt ∧ g.millisecond.toInt = f.millisecond.toInt) : g = f := by
    cases f
    cases g
    simpa only [Int32.toInt_inj, ReferenceFields.mk.injEq] using hsame
  refine hext ⟨(toInt_year_decompose t).trans hyear, ?_, ?_, ?_, ?_, ?_⟩
  · omega
  · omega
  · omega
  · omega
  · omega

end Seismogram.Time
