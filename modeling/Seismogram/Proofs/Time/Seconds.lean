/-
# Whole seconds, there and back

A number of seconds is made a duration by the factor 10^9, and a duration a number of seconds
by the 64-bit number nearest to 10^-9.  For whole seconds, no more than 10^6 of them, the first
product is exact (`shift_wholeSeconds`).  The second one is not, but so near that the 32-bit
number of these seconds comes out of it (`narrow_secondsBetween`), which tells the instants
apart (`narrow_secondsBetween_inj`).
-/
import Mathlib.Tactic.Common
import Seismogram.Proofs.Number.Near
import Seismogram.Proofs.Time.Reference

namespace Seismogram.Time

open Seismogram.Number Seismogram.Number.Floating
open Format (single double regular_single regular_double)

variable {t u a b : Instant} {y : Double} {n : ℤ}

/-- No more than 10^6 seconds are as many nanoseconds as a significand can count. -/
lemma holds_nanoseconds (hn : n.natAbs ≤ 1000000) : double.Holds ((n * 1000000000 : ℤ) : ℚ) :=
  Format.holds_double_intCast (by omega)

/-! ### From seconds to a duration -/

lemma powerOfTen_nine : (powerOfTen 9).isFinite = true ∧ (powerOfTen 9).value = 1000000000 := by
  decide +kernel

/-- An instant a number of whole seconds later. -/
lemma shift_wholeSeconds (ht : t.inLeapSecond = false) (hfinite : y.isFinite = true)
    (hy : y.value = n) (hn : n.natAbs ≤ 1000000) (hu : shift t y = .ok u) :
    u.inLeapSecond = false ∧ u.sinceEpoch = t.sinceEpoch + n * 1000000000 := by
  obtain ⟨hten, hvalue⟩ := powerOfTen_nine
  obtain ⟨hproduct, hproduct', -⟩ := ofRat_of_holds regular_double (holds_nanoseconds hn)
    (y.negative != (powerOfTen 9).negative)
  have hnanos : (y.mul (powerOfTen 9)).toInt? = some (n * 1000000000) := by
    have hexact : y.value * (powerOfTen 9).value = ((n * 1000000000 : ℤ) : ℚ) := by
      rw [hy, hvalue]
      norm_num
    rw [mul_of_isFinite hfinite hten, hexact, toInt?, if_pos hproduct, hproduct',
      roundHalfAway_intCast]
  have hbound : (n * 1000000000).natAbs < nanosecondBound.toNat := by
    rw [nanosecondBound]
    omega
  simp only [shift, hnanos, if_pos hbound] at hu
  split at hu
  · rename_i v hv
    obtain rfl := Except.ok.inj hu
    exact (Instant.add?_eq_some_iff ht).1 hv
  · exact absurd hu (by simp)

/-! ### From a duration to seconds -/

lemma powerOfTen_minusNine : (powerOfTen (-9)).isFinite = true ∧
    (powerOfTen (-9)).negative = false ∧
    -(1 / 10 ^ 12) ≤ (powerOfTen (-9)).value * 1000000000 - 1 ∧
    (powerOfTen (-9)).value * 1000000000 - 1 ≤ 1 / 10 ^ 12 := by
  decide +kernel

lemma secondsBetween_wholeSeconds (hn : n.natAbs ≤ 1000000)
    (hsince : a.since b = n * 1000000000) :
    ∃ r negativeZero, secondsBetween a b = .ofRat r negativeZero ∧
      10 ^ 12 * |r - n| ≤ |(n : ℚ)| ∧ (n = 0 → negativeZero = false) := by
  obtain ⟨hten, hpositive, hlow, hhigh⟩ := powerOfTen_minusNine
  obtain ⟨hfinite, hvalue, hnegative⟩ :=
    ofRat_of_holds regular_double (holds_nanoseconds hn) false
  have hbound : -nanosecondBound ≤ n * 1000000000 ∧ n * 1000000000 < nanosecondBound := by
    rw [nanosecondBound]
    omega
  simp only [secondsBetween, hsince, if_pos hbound]
  refine ⟨_, _, mul_of_isFinite hfinite hten, ?_, fun hzero => ?_⟩
  · rw [ofInt, hvalue]
    have hfactor : ((n * 1000000000 : ℤ) : ℚ) * (powerOfTen (-9)).value - n
        = n * ((powerOfTen (-9)).value * 1000000000 - 1) := by
      push_cast
      ring
    rw [hfactor, abs_mul]
    have habs : |(powerOfTen (-9)).value * 1000000000 - 1| ≤ 1 / 10 ^ 12 := abs_le.2 ⟨hlow, hhigh⟩
    have hscaled := mul_le_mul_of_nonneg_left habs (abs_nonneg (n : ℚ))
    linarith
  · rw [ofInt, hnegative, hpositive, hzero]
    decide

/-- Whole seconds are measured to the 32-bit number of them. -/
lemma narrow_secondsBetween (hn : n.natAbs ≤ 1000000) (hsince : a.since b = n * 1000000000) :
    (secondsBetween a b).narrow = .ofInt n := by
  obtain ⟨r, negativeZero, hseconds, hnear, hsign⟩ := secondsBetween_wholeSeconds hn hsince
  have hsingle : single.Holds (n : ℚ) := Format.holds_single_intCast (by omega)
  have hdouble := Format.holds_double_of_single hsingle
  have htwice : double.Holds ((2 * n : ℤ) : ℚ) := Format.holds_double_intCast (by omega)
  -- the product is rounded to a number, which is as near to it as the whole one
  have hless : |r| ≤ |((2 * n : ℤ) : ℚ)| := by
    have htriangle := abs_sub_abs_le_abs_sub r n
    have hpos := abs_nonneg (r - n)
    rw [Int.cast_mul, abs_mul, Int.cast_ofNat, abs_of_pos (by norm_num : (0 : ℚ) < 2)]
    linarith
  have hfinite := isFinite_ofRat regular_double htwice hless negativeZero
  have hround := abs_value_ofRat_sub_le regular_double
    (nearestMagnitude_lt regular_double htwice hless) hdouble negativeZero
  rw [hseconds, narrow, convert_of_isFinite hfinite, ofInt]
  rcases eq_or_ne n 0 with rfl | hzero
  · -- a duration of nothing
    obtain rfl : r = 0 := by
      simp only [Int.cast_zero, sub_zero, abs_zero] at hnear
      exact abs_eq_zero.1 (le_antisymm (by linarith) (abs_nonneg r))
    obtain ⟨-, hvalue, hnegative⟩ := ofRat_of_holds regular_double hdouble false
    rw [Int.cast_zero] at hvalue hnegative
    rw [hsign rfl, hvalue, hnegative, Int.cast_zero]
    simp
  · refine ofRat_of_near regular_single hsingle ?_ _ _
    have hpos : 0 < |(n : ℚ)| := abs_pos.2 (Int.cast_ne_zero.2 hzero)
    have htriangle := abs_sub_le (ofRat r negativeZero : Double).value r n
    rw [abs_sub_comm (n : ℚ) r] at hround
    have hweight : (single.stepWeight : ℚ) = 8388608 := by norm_num [Format.stepWeight]
    rw [hweight]
    linarith

lemma ofInt_inj {m : ℤ} (hn : n.natAbs ≤ 1000000) (hm : m.natAbs ≤ 1000000) :
    (Floating.ofInt n : Single) = .ofInt m ↔ n = m := by
  have hvalue {k : ℤ} (hk : k.natAbs ≤ 1000000) : (Floating.ofInt k : Single).value = k :=
    (ofRat_of_holds regular_single (Format.holds_single_intCast (by omega)) false).2.1
  constructor
  · intro heq
    have hcast : (n : ℚ) = m := by rw [← hvalue hn, ← hvalue hm, heq]
    exact_mod_cast hcast
  · rintro rfl
    rfl

/-- Whole seconds from one instant to two others are the same 32-bit number only if the two are
the same instant. -/
lemma narrow_secondsBetween_inj {m : ℤ} (ht : t.inLeapSecond = false) (ha : a.inLeapSecond = false)
    (hb : b.inLeapSecond = false) (hn : n.natAbs ≤ 1000000) (hm : m.natAbs ≤ 1000000)
    (hsince : t.since a = n * 1000000000) (hsince' : t.since b = m * 1000000000) :
    (secondsBetween t a).narrow = (secondsBetween t b).narrow ↔ a = b := by
  rw [narrow_secondsBetween hn hsince, narrow_secondsBetween hm hsince', ofInt_inj hn hm]
  rw [Instant.since_eq ht ha] at hsince
  rw [Instant.since_eq ht hb] at hsince'
  constructor
  · rintro rfl
    exact Instant.eq_of_sinceEpoch_eq ha hb (by omega)
  · rintro rfl
    omega

end Seismogram.Time
