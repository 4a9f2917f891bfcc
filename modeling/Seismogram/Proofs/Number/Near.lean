/-
# Numbers near one that is held

The gaps beside a mark of a format are no narrower than its number divided by the largest
significand (`Format.mark_apart`).  So what differs by less than half of that from a number
that is held is rounded to that number (`Floating.ofRat_of_near`).  Farther off, a rounded
number is still as near to what was rounded as every number that is held
(`Floating.abs_value_ofRat_sub_le`), which bounds what an inexact factor does to a product.
-/
import Mathlib.Tactic.Linarith
import Seismogram.Proofs.Number.Exact

namespace Seismogram.Number

namespace Format

variable (F : Format) {m k : ℕ} {r q : ℚ}

lemma magnitudeValue_succ_le (m : ℕ) :
    F.magnitudeValue (m + 1) ≤ 2 * F.stepWeight * 2 ^ (F.leastExponent + F.step m) := by
  obtain ⟨c, hm, hc, hs⟩ := F.step_spec m
  generalize F.step m = s at hm hs ⊢
  rw [hm, Nat.add_assoc, F.magnitudeValue_block (hs.imp_right Nat.le_succ_of_le) hc]
  have hfactor : ((c + 1 : ℕ) : ℚ) ≤ 2 * F.stepWeight := by exact_mod_cast hc
  exact mul_le_mul_of_nonneg_right hfactor (zpow_nonneg (by norm_num) _)

/-- Another mark is at least as far as the number divided by the largest significand. -/
lemma mark_apart (hne : k ≠ m) :
    F.magnitudeValue m ≤ 2 * F.stepWeight * |F.magnitudeValue k - F.magnitudeValue m| := by
  have hweight : (0 : ℚ) ≤ 2 * F.stepWeight := by positivity
  rcases lt_or_gt_of_ne hne with hlt | hgt
  · -- the gap below
    obtain ⟨j, rfl⟩ : ∃ j, m = j + 1 := ⟨m - 1, by omega⟩
    have hbelow := F.magnitudeValue_strictMono.monotone (Nat.le_of_lt_succ hlt)
    refine (F.magnitudeValue_succ_le j).trans (mul_le_mul_of_nonneg_left ?_ hweight)
    rw [abs_sub_comm, F.magnitudeValue_succ j]
    exact le_trans (by linarith) (le_abs_self _)
  · -- the gap above
    have habove := F.magnitudeValue_strictMono.monotone (Nat.succ_le_of_lt hgt)
    have hnext := F.magnitudeValue_strictMono.monotone (Nat.le_succ m)
    refine (hnext.trans (F.magnitudeValue_succ_le m)).trans (mul_le_mul_of_nonneg_left ?_ hweight)
    rw [Nat.succ_eq_add_one, F.magnitudeValue_succ m] at habove
    exact le_trans (by linarith) (le_abs_self _)

/-- Less than half a gap off, the mark is the nearest one. -/
lemma nearest_of_near (hnear : 4 * F.stepWeight * |r - F.magnitudeValue m| < F.magnitudeValue m) :
    F.scale.Nearest r (F.magnitudeValue m) := by
  have hcloser {k : ℕ} (hne : k ≠ m) :
      |F.magnitudeValue m - r| < |F.magnitudeValue k - r| := by
    have hapart := F.mark_apart hne
    have htriangle := abs_sub_le (F.magnitudeValue k) r (F.magnitudeValue m)
    have hweight : (0 : ℚ) < 2 * F.stepWeight := by
      have hpos : (0 : ℚ) < F.stepWeight := by exact_mod_cast F.stepWeight_pos
      linarith
    have htwice : 2 * |r - F.magnitudeValue m| < |F.magnitudeValue k - F.magnitudeValue m| :=
      lt_of_mul_lt_mul_left (by linarith) hweight.le
    rw [abs_sub_comm (F.magnitudeValue m) r]
    linarith
  refine ⟨F.isMark_magnitudeValue m, ?_, ?_⟩
  · rintro _ ⟨k, rfl⟩
    rcases eq_or_ne k m with rfl | hne
    · exact le_rfl
    · exact (hcloser hne).le
  · rintro _ ⟨k, rfl⟩ hne htie
    exact absurd htie (hcloser fun heq => hne (heq ▸ rfl)).ne'

end Format

namespace Floating

variable {F : Format} {x y : Floating F} {r q : ℚ}

/-- A number no larger than one that is held is rounded to a number. -/
lemma nearestMagnitude_lt (hF : F.Regular) (hq : F.Holds q) (hle : |r| ≤ |q|) :
    F.nearestMagnitude |r| < F.infinity := by
  obtain ⟨m, hm, hvalue⟩ := hq
  have hmono := F.nearestMagnitude_mono hF (abs_nonneg r) hle
  rw [hvalue, F.nearestMagnitude_magnitudeValue hF hm] at hmono
  exact lt_of_le_of_lt hmono hm

lemma isFinite_ofRat (hF : F.Regular) (hq : F.Holds q) (hle : |r| ≤ |q|) (negativeZero : Bool) :
    (ofRat r negativeZero : Floating F).isFinite = true := by
  have hlt := nearestMagnitude_lt hF hq hle
  rw [isFinite_iff, ofRat_eq, magnitude_ofMagnitude _ hF (hlt.trans infinity_lt_signWeight)]
  exact hlt

/-- Rounding keeps the sign. -/
lemma value_ofRat (hF : F.Regular) (hlt : F.nearestMagnitude |r| < F.infinity)
    (negativeZero : Bool) : (ofRat r negativeZero : Floating F).value =
      if r < 0 then -F.magnitudeValue (F.nearestMagnitude |r|)
      else F.magnitudeValue (F.nearestMagnitude |r|) := by
  rw [ofRat_eq, value_ofMagnitude hF (hlt.trans infinity_lt_signWeight)]
  rcases lt_trichotomy r 0 with hneg | rfl | hpos
  · simp [hneg]
  · have hzero : F.nearestMagnitude 0 = 0 := by rw [Format.nearestMagnitude, if_pos rfl]
    simp [hzero, F.magnitudeValue_zero]
  · simp [hpos.not_gt, hpos.ne']

/-- No number that is held is nearer than the one that is rounded to. -/
lemma abs_value_ofRat_sub_le (hF : F.Regular) (hlt : F.nearestMagnitude |r| < F.infinity)
    (hq : F.Holds q) (negativeZero : Bool) :
    |(ofRat r negativeZero : Floating F).value - r| ≤ |q - r| := by
  have hnearest := F.nearest_nearestMagnitude hF (abs_nonneg r) hlt
  obtain ⟨m, -, hvalue⟩ := hq
  -- the distance is that of the absolute values
  have habs : |(ofRat r negativeZero : Floating F).value - r|
      = |F.magnitudeValue (F.nearestMagnitude (|r|)) - (|r|)| := by
    rw [value_ofRat hF hlt]
    split_ifs with hneg
    · rw [abs_of_neg hneg, ← abs_neg]
      congr 1
      ring
    · rw [abs_of_nonneg (not_lt.1 hneg)]
  calc |(ofRat r negativeZero : Floating F).value - r|
      ≤ |F.magnitudeValue m - (|r|)| := habs ▸ hnearest.le _ (F.isMark_magnitudeValue m)
    _ = |(|q|) - (|r|)| := by rw [hvalue]
    _ ≤ |q - r| := abs_abs_sub_abs_le q r

/-- What is near to a number that is held is rounded to it. -/
lemma ofRat_of_near (hF : F.Regular) (hq : F.Holds q)
    (hnear : 4 * F.stepWeight * |r - q| < |q|) (negativeZero negativeZero' : Bool) :
    (ofRat r negativeZero : Floating F) = ofRat q negativeZero' := by
  obtain ⟨m, hm, hvalue⟩ := hq
  have hweight : (1 : ℚ) ≤ F.stepWeight := by exact_mod_cast F.stepWeight_pos
  have hless : |r - q| < |q| := by nlinarith [abs_nonneg (r - q)]
  have hmagnitude : F.nearestMagnitude |r| = m := by
    refine F.nearestMagnitude_eq hF (abs_nonneg r) hm (F.nearest_of_near ?_)
    rw [← hvalue]
    have habs := abs_abs_sub_abs_le r q
    refine lt_of_le_of_lt (mul_le_mul_of_nonneg_left habs (by linarith)) hnear
  -- less than the whole number off, the sign is the same
  have hsign : decide (r < 0) = decide (q < 0) ∧ r ≠ 0 ∧ q ≠ 0 := by
    rcases lt_trichotomy q 0 with hneg | rfl | hpos
    · rw [abs_of_neg hneg, abs_lt] at hless
      have hr : r < 0 := by linarith
      simp [hneg, hr, hr.ne, hneg.ne]
    · simp at hless
      exact absurd hless (abs_nonneg r).not_gt
    · rw [abs_of_pos hpos, abs_lt] at hless
      have hr : 0 < r := by linarith
      simp [hpos.not_gt, hr.not_gt, hr.ne', hpos.ne']
  obtain ⟨hsame, hr, hq⟩ := hsign
  rw [ofRat_eq, hmagnitude, ofRat_eq_ofMagnitude hF hm hvalue, hsame]
  simp [hr, hq]

/-! ### Products -/

lemma mul_of_isFinite (hx : x.isFinite = true) (hy : y.isFinite = true) :
    x.mul y = ofRat (x.value * y.value) (x.negative != y.negative) := by
  have hnan {x : Floating F} (hx : x.isFinite = true) : ¬x.isNaN = true := fun h =>
    (isNaN_iff.1 h).not_gt (isFinite_iff.1 hx)
  have hinfinite {x : Floating F} (hx : x.isFinite = true) : x.isInfinite = false :=
    decide_eq_false (isFinite_iff.1 hx).ne
  simp only [mul, if_neg (hnan hx), if_neg (hnan hy), hinfinite hx, hinfinite hy, Bool.or_false,
    Bool.false_eq_true, if_false]

end Floating

end Seismogram.Number
