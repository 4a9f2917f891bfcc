/-
# Instants as nanoseconds of one count

Outside leap seconds an instant is a number of nanoseconds from the start of 1970
(`sinceEpoch`), of which day, second and nanosecond are the digits.  Adding a duration adds to
that number as long as it stays in the calendar (`add?_eq_some_iff`), and the duration between
two instants is its difference (`since_eq`).

The numbers of a leap second are also those of the second after it.  So only an instant outside
leap seconds has the least number of all that are not before it (`sinceEpoch_le_of_le`).
-/
import Mathlib.Tactic.Common
import Seismogram.Proofs.Time.Calendar

namespace Seismogram.Time

namespace Instant

variable {t u : Instant}

/-- The nanoseconds from the start of 1970 to an instant, leap seconds not counted. -/
def sinceEpoch (t : Instant) : Int := t.unixSeconds * nanosPerSecond + t.nanosecond

lemma inLeapSecond_eq_false_iff : t.inLeapSecond = false ↔ t.nanosecond < nanosPerSecond := by
  rw [inLeapSecond, decide_eq_false_iff_not, Nat.not_le]

/-- The parts of an instant are digits of its number. -/
lemma sinceEpoch_eq (t : Instant) :
    t.sinceEpoch = (t.day * 86400 + t.second) * 1000000000 + t.nanosecond := rfl

lemma ofParts?_eq_some_iff {day : Int} {second nanosecond : Nat} :
    ofParts? day second nanosecond = some t ↔
      t.day = day ∧ t.second = second ∧ t.nanosecond = nanosecond := by
  rw [ofParts?]
  split
  · rw [Option.some.injEq]
    constructor
    · rintro rfl
      exact ⟨rfl, rfl, rfl⟩
    · rintro ⟨rfl, rfl, rfl⟩
      rfl
  · rename_i hnone
    refine iff_of_false (by simp) ?_
    rintro ⟨rfl, rfl, rfl⟩
    exact hnone ⟨t.day_mem, t.second_lt, t.nanosecond_lt, t.leap⟩

/-- There is an instant in every second of the calendar. -/
lemma exists_ofParts? {day : Int} {second nanosecond : Nat}
    (hday : firstDay ≤ day ∧ day ≤ lastDay) (hsecond : second < secondsPerDay)
    (hnanosecond : nanosecond < nanosPerSecond) :
    ∃ t, ofParts? day second nanosecond = some t ∧ t.inLeapSecond = false ∧
      t.sinceEpoch = (day * 86400 + second) * 1000000000 + nanosecond :=
  ⟨⟨day, second, nanosecond, hday, hsecond, by omega, by omega⟩,
    ofParts?_eq_some_iff.2 ⟨rfl, rfl, rfl⟩, inLeapSecond_eq_false_iff.2 hnanosecond, rfl⟩

/-- The numbers of instants are those from the first midnight of the calendar up to the one
after its last day. -/
lemma exists_sinceEpoch_iff {n : Int} :
    (∃ t : Instant, t.inLeapSecond = false ∧ t.sinceEpoch = n) ↔
      firstDay * 86400 * 1000000000 ≤ n ∧ n < (lastDay + 1) * 86400 * 1000000000 := by
  constructor
  · rintro ⟨t, ht, rfl⟩
    have hday := t.day_mem
    have hsecond := t.second_lt
    rw [inLeapSecond_eq_false_iff, nanosPerSecond] at ht
    rw [secondsPerDay] at hsecond
    rw [sinceEpoch_eq]
    omega
  · rintro ⟨hfirst, hlast⟩
    have hday : firstDay ≤ n / 86400000000000 ∧ n / 86400000000000 ≤ lastDay := by omega
    have hsecond : (n / 1000000000 % 86400).toNat < secondsPerDay := by
      rw [secondsPerDay]
      omega
    have hnanosecond : (n % 1000000000).toNat < nanosPerSecond := by
      rw [nanosPerSecond]
      omega
    obtain ⟨t, -, ht, hcount⟩ := exists_ofParts? hday hsecond hnanosecond
    refine ⟨t, ht, ?_⟩
    rw [hcount]
    omega

/-- Carrying makes digits of a number. -/
lemma carry?_eq_some_iff {day second nanos : Int} :
    carry? day second nanos = some t ↔ t.inLeapSecond = false ∧
      t.sinceEpoch = (day * 86400 + second) * 1000000000 + nanos := by
  have hsecond := t.second_lt
  rw [carry?, ofParts?_eq_some_iff, inLeapSecond_eq_false_iff, sinceEpoch_eq]
  simp only [nanosPerSecond, secondsPerDay] at hsecond ⊢
  omega

/-! ### Sums and differences -/

/-- Outside leap seconds a duration is added to the number, and the sum is no leap second. -/
lemma add?_eq_some_iff {d : Int} (ht : t.inLeapSecond = false) :
    t.add? d = some u ↔ u.inLeapSecond = false ∧ u.sinceEpoch = t.sinceEpoch + d := by
  simp only [add?, ht, Bool.false_eq_true, if_false]
  rw [carry?_eq_some_iff, sinceEpoch_eq t, ← Int.add_assoc]

/-- Taking off the nanoseconds leads to the beginning of the second, in a leap second to its
own beginning. -/
lemma add?_neg_nanosecond_eq_some_iff : t.add? (-t.nanosecond) = some u ↔
    u.inLeapSecond = false ∧ u.sinceEpoch = t.unixSeconds * nanosPerSecond := by
  have hlt := t.nanosecond_lt
  rcases hleap : t.inLeapSecond
  · have hcut : t.sinceEpoch + -t.nanosecond = t.unixSeconds * nanosPerSecond :=
      Int.add_neg_cancel_right _ _
    rw [add?_eq_some_iff hleap, hcut]
  · -- a leap second holds one more second of nanoseconds
    rw [inLeapSecond, decide_eq_true_eq] at hleap
    have hquotient : (-(t.nanosecond : Int)).tdiv nanosPerSecond = -1 := by
      rw [Int.neg_tdiv, Int.tdiv_eq_ediv_of_nonneg (Int.natCast_nonneg _)]
      simp only [nanosPerSecond] at hleap hlt ⊢
      omega
    have hrest : ¬(0 < (-(t.nanosecond : Int)).tmod nanosPerSecond) := by
      rw [Int.neg_tmod, Int.tmod_eq_emod_of_nonneg (Int.natCast_nonneg _)]
      simp only [nanosPerSecond]
      omega
    have hleap' : t.inLeapSecond = true := decide_eq_true hleap
    simp only [add?, hleap', if_true, hquotient, hrest, false_and, or_false,
      show ¬((0 : Int) < -1) by decide, show (-1 : Int) < 0 by decide, if_false]
    have hcut : (t.day * 86400 + ((t.second : Int) + 1)) * 1000000000
        + ((t.nanosecond : Int) - nanosPerSecond + -t.nanosecond)
        = t.unixSeconds * nanosPerSecond := by
      simp only [unixSeconds, nanosPerSecond, secondsPerDay]
      omega
    rw [carry?_eq_some_iff, hcut]

/-- The beginning of a second is in the calendar with all of the second. -/
lemma exists_add?_neg_nanosecond (t : Instant) : ∃ begin, t.add? (-t.nanosecond) = some begin := by
  obtain ⟨begin, -, hordinary, hcount⟩ :=
    exists_ofParts? t.day_mem t.second_lt (show 0 < nanosPerSecond by decide)
  exact ⟨begin, add?_neg_nanosecond_eq_some_iff.2 ⟨hordinary, hcount.trans (Int.add_zero _)⟩⟩

lemma since_eq (ht : t.inLeapSecond = false) (hu : u.inLeapSecond = false) :
    t.since u = t.sinceEpoch - u.sinceEpoch := by
  simp only [since, ht, hu, Bool.false_eq_true, and_false, if_false]
  rw [sinceEpoch_eq, sinceEpoch_eq]
  simp only [nanosPerSecond, secondsPerDay]
  omega

/-- Outside leap seconds an instant is told by its number. -/
lemma eq_of_sinceEpoch_eq (ht : t.inLeapSecond = false) (hu : u.inLeapSecond = false)
    (heq : t.sinceEpoch = u.sinceEpoch) : t = u := by
  have hself : u.add? 0 = some u := (add?_eq_some_iff hu).2 ⟨hu, (Int.add_zero _).symm⟩
  have hother : u.add? 0 = some t := (add?_eq_some_iff hu).2 ⟨ht, heq.trans (Int.add_zero _).symm⟩
  exact Option.some.inj (hother.symm.trans hself)

/-! ### Order -/

/-- Instants are ordered by day, second and nanosecond: a leap second comes before the second that
follows it. -/
instance : LE Instant where
  le t u := t.day < u.day ∨ t.day = u.day ∧
    (t.second < u.second ∨ t.second = u.second ∧ t.nanosecond ≤ u.nanosecond)

lemma le_def : t ≤ u ↔ t.day < u.day ∨ t.day = u.day ∧
    (t.second < u.second ∨ t.second = u.second ∧ t.nanosecond ≤ u.nanosecond) := Iff.rfl

/-- Outside leap seconds a later instant has no lower number. -/
lemma sinceEpoch_le_of_le (ht : t.inLeapSecond = false) (hle : t ≤ u) :
    t.sinceEpoch ≤ u.sinceEpoch := by
  have hsecond := t.second_lt
  rw [le_def] at hle
  rw [inLeapSecond_eq_false_iff, nanosPerSecond] at ht
  rw [secondsPerDay] at hsecond
  rw [sinceEpoch_eq, sinceEpoch_eq]
  omega

/-- A number that is not lower belongs to a later instant, unless that is in a leap second. -/
lemma le_of_sinceEpoch_le (hu : u.inLeapSecond = false) (hle : t.sinceEpoch ≤ u.sinceEpoch) :
    t ≤ u := by
  have hsecond := t.second_lt
  have hsecond' := u.second_lt
  rw [sinceEpoch_eq, sinceEpoch_eq] at hle
  rw [inLeapSecond_eq_false_iff, nanosPerSecond] at hu
  rw [secondsPerDay] at hsecond hsecond'
  rw [le_def]
  omega

/-- The last instant outside leap seconds. -/
def last : Instant where
  day := lastDay
  second := 86399
  nanosecond := 999999999
  day_mem := by decide
  second_lt := by decide
  nanosecond_lt := by decide
  leap := by decide

/-- The nanosecond before the midnight after the last day. -/
lemma sinceEpoch_last : last.sinceEpoch = (lastDay + 1) * 86400 * 1000000000 - 1 := by decide

lemma le_last (ht : t.inLeapSecond = false) : t ≤ last := by
  have hday := t.day_mem.2
  have hsecond := t.second_lt
  rw [inLeapSecond_eq_false_iff, nanosPerSecond] at ht
  rw [secondsPerDay] at hsecond
  simp only [le_def, last]
  omega

end Instant

end Seismogram.Time
