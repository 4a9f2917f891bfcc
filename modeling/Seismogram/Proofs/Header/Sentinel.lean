/-
# The numbers that become the sentinel

The sentinel of real numbers is a number of seven digits, -12345.00.  The decimals around it
are a hundredth apart and the words less than a thousandth, so that a number that is written
and read again becomes the sentinel if and only if it is within half a hundredth of it
(`resaved_eq_nullReal_iff`).
-/
import Seismogram.Header.Basic
import Seismogram.Proofs.Decimal.Resaved

namespace Seismogram

open Seismogram.Number Seismogram.Decimal
open Format (single)

variable {x : Single} {m : ℕ} {r q : ℚ}

/-! ### The decimals around the sentinel -/

lemma isMark_sentinel (c : ℕ) (hc : 10 ^ 6 ≤ c) (hc' : c < 10 ^ 7) :
    (significantScale 7).IsMark (c / 100) :=
  ⟨c, -2, hc, hc', by norm_num; ring⟩

lemma isEven_sentinel : (significantScale 7).IsEven 12345 :=
  ⟨1234500, -2, by decide, by decide, by decide, by norm_num⟩

/-- The other decimals are at least a hundredth away. -/
lemma sentinel_apart (hq : (significantScale 7).IsMark q) (hne : q ≠ 12345) :
    1 / 100 ≤ |q - 12345| := by
  rcases lt_or_ge q 10000 with hlt | hge
  · -- decimals of earlier decades are far away
    rw [abs_of_neg (by linarith)]
    linarith
  · -- the others are hundredths
    obtain ⟨c, rfl⟩ := exists_multiple (p := 7) (e := -2) (by decide) hq (by norm_num; linarith)
    have hc : (c : ℤ) - 1234500 ≠ 0 := by
      intro heq
      obtain rfl : c = 1234500 := by omega
      exact hne (by norm_num)
    have hone : (1 : ℚ) ≤ |(c : ℚ) - 1234500| := by exact_mod_cast Int.one_le_abs hc
    have hscale : (c : ℚ) * 10 ^ (-2 : ℤ) - 12345 = ((c : ℚ) - 1234500) * (1 / 100) := by
      norm_num
      ring
    rw [hscale, abs_mul, abs_of_pos (by norm_num : (0 : ℚ) < 1 / 100)]
    linarith

lemma nearest_sentinel_iff : (significantScale 7).Nearest r 12345 ↔ |r - 12345| ≤ 1 / 200 := by
  constructor
  · intro h
    have habove := h.le_of_lt (isMark_sentinel 1234501 (by decide) (by decide)) (by norm_num)
    have hbelow := h.ge_of_gt (isMark_sentinel 1234499 (by decide) (by decide)) (by norm_num)
    push_cast at habove hbelow
    rw [abs_le]
    constructor <;> linarith
  · intro h
    have hmark := isMark_sentinel 1234500 (by decide) (by decide)
    rw [abs_sub_comm] at h
    refine ⟨by norm_num at hmark; exact hmark, fun q hq => ?_, fun _ _ _ _ => isEven_sentinel⟩
    by_cases hne : q = 12345
    · rw [hne]
    · have hapart := sentinel_apart hq hne
      have htriangle := abs_sub_le q r 12345
      rw [abs_sub_comm r] at htriangle
      linarith

/-! ### The words around the sentinel -/

/-- The sentinel and the words beside it are multiples of 1/1024. -/
lemma magnitudeValue_near (c : ℕ) (hc : single.stepWeight ≤ c) (hc' : c ≤ 2 * single.stepWeight) :
    single.magnitudeValue (139 * single.stepWeight + c) = c / 1024 := by
  rw [single.magnitudeValue_block (Or.inr hc) hc']
  norm_num [Format.leastExponent, div_eq_mul_inv]

lemma magnitudeValue_nullReal : single.magnitudeValue nullReal.magnitude = 12345 := by
  have hword : nullReal.magnitude = 139 * single.stepWeight + 12641280 := by decide
  rw [hword, magnitudeValue_near _ (by decide) (by decide)]
  norm_num

/-- The next word above the sentinel, as magnitudes go. -/
lemma magnitudeValue_above : single.magnitudeValue (nullReal.magnitude + 1) = 12345 + 1 / 1024 := by
  have hword : nullReal.magnitude + 1 = 139 * single.stepWeight + 12641281 := by decide
  rw [hword, magnitudeValue_near _ (by decide) (by decide)]
  norm_num

lemma magnitudeValue_below : single.magnitudeValue (nullReal.magnitude - 1) = 12345 - 1 / 1024 := by
  have hword : nullReal.magnitude - 1 = 139 * single.stepWeight + 12641279 := by decide
  rw [hword, magnitudeValue_near _ (by decide) (by decide)]
  norm_num

lemma value_nullReal : nullReal.value = -12345 := by
  rw [Floating.value, if_pos (by decide), magnitudeValue_nullReal]

/-- A decimal that is read as the sentinel is the sentinel. -/
lemma eq_of_nearestMagnitude (hq : (significantScale 7).IsMark q) (hq0 : 0 ≤ q)
    (h : single.nearestMagnitude q = nullReal.magnitude) : q = 12345 := by
  have hnearest := single.nearest_nearestMagnitude Format.regular_single hq0
    (by rw [h]; decide)
  rw [h, magnitudeValue_nullReal] at hnearest
  have habove := hnearest.le_of_lt ⟨_, magnitudeValue_above.symm⟩ (by norm_num)
  have hbelow := hnearest.ge_of_gt ⟨_, magnitudeValue_below.symm⟩ (by norm_num)
  by_contra hne
  have hapart := sentinel_apart hq hne
  have hnear : |q - 12345| ≤ 1 / 1024 := by
    rw [abs_le]
    constructor <;> linarith
  linarith

lemma reread_eq_sentinel_iff :
    reread m = nullReal.magnitude ↔ |single.magnitudeValue m - 12345| ≤ 1 / 200 := by
  rcases Nat.eq_zero_or_pos m with rfl | hpos
  · rw [reread_zero, single.magnitudeValue_zero]
    norm_num
    decide
  · have hwritten := (written_spec hpos.ne').2.2
    rw [← nearest_sentinel_iff]
    constructor
    · intro h
      rwa [eq_of_nearestMagnitude hwritten.mark (Significant.value_nonneg 7 _) h] at hwritten
    · intro h
      rw [reread, hwritten.unique (separated_significantScale (by decide)) h,
        ← magnitudeValue_nullReal]
      exact single.nearestMagnitude_eq Format.regular_single (single.magnitudeValue_nonneg _)
        (by decide) (Scale.nearest_self (single.isMark_magnitudeValue _))

/-! ### Words that become the sentinel -/

/-- A number is near the sentinel if its magnitude is and if it is negative. -/
lemma abs_value_sub_iff (x : Single) :
    |x.value - nullReal.value| ≤ 1 / 200 ↔
      x.negative = true ∧ |single.magnitudeValue x.magnitude - 12345| ≤ 1 / 200 := by
  have hnonneg := single.magnitudeValue_nonneg x.magnitude
  rw [value_nullReal, Floating.value]
  cases x.negative
  · rw [if_neg (by decide), abs_of_nonneg (by linarith)]
    simp only [Bool.false_eq_true, false_and, iff_false, not_le]
    linarith
  · rw [if_pos rfl, ← abs_neg]
    have hdifference : -(-single.magnitudeValue x.magnitude - -12345)
        = single.magnitudeValue x.magnitude - 12345 := by ring
    rw [hdifference]
    exact (and_iff_right rfl).symm

/-- A word becomes the sentinel if and only if it stands for a number that is within half a
hundredth of it. -/
lemma resaved_eq_nullReal_iff (x : Single) :
    resaved x = nullReal ↔ x.isFinite = true ∧ |x.value - nullReal.value| ≤ 1 / 200 := by
  rw [abs_value_sub_iff, ← reread_eq_sentinel_iff]
  constructor
  · intro h
    rcases finite_or_infinite_or_nan x with hfinite | hinfinite | hnan
    · obtain ⟨-, hsign, hmagnitude⟩ := resaved_of_isFinite hfinite
      rw [← hsign, ← hmagnitude, h]
      exact ⟨hfinite, by decide, rfl⟩
    · rw [resaved_of_isInfinite hinfinite] at h
      rw [h] at hinfinite
      exact absurd hinfinite (by decide)
    · rw [resaved_of_isNaN hnan] at h
      exact absurd h (by decide)
  · rintro ⟨hfinite, hnegative, hsame⟩
    obtain ⟨-, hsign, hmagnitude⟩ := resaved_of_isFinite hfinite
    refine Floating.ext_magnitude Format.regular_single ?_ (hmagnitude.trans hsame)
    rw [hsign, hnegative]
    decide

/-! ### Numbers that are narrowed to the sentinel -/

/-- The other words are at least a thousandth away. -/
lemma word_apart (hq : single.scale.IsMark q) (hne : q ≠ 12345) : 1 / 1024 ≤ |q - 12345| := by
  obtain ⟨m, rfl⟩ := hq
  have hmono := single.magnitudeValue_strictMono.monotone
  rcases Nat.lt_trichotomy m nullReal.magnitude with hlt | rfl | hgt
  · have hle := hmono (Nat.le_sub_one_of_lt hlt)
    rw [magnitudeValue_below] at hle
    rw [abs_of_nonpos (by linarith)]
    linarith
  · exact absurd magnitudeValue_nullReal hne
  · have hle := hmono (Nat.succ_le_of_lt hgt)
    rw [Nat.succ_eq_add_one, magnitudeValue_above] at hle
    rw [abs_of_nonneg (by linarith)]
    linarith

lemma nearest_word_iff : single.scale.Nearest r 12345 ↔ |r - 12345| ≤ 1 / 2048 := by
  constructor
  · intro h
    have habove := h.le_of_lt ⟨_, magnitudeValue_above.symm⟩ (by norm_num)
    have hbelow := h.ge_of_gt ⟨_, magnitudeValue_below.symm⟩ (by norm_num)
    rw [abs_le]
    constructor <;> linarith
  · intro h
    rw [abs_sub_comm] at h
    refine ⟨⟨_, magnitudeValue_nullReal.symm⟩, fun q hq => ?_, fun _ _ _ _ =>
      ⟨_, by decide, magnitudeValue_nullReal.symm⟩⟩
    by_cases hne : q = 12345
    · rw [hne]
    · have hapart := word_apart hq hne
      have htriangle := abs_sub_le q r 12345
      rw [abs_sub_comm r] at htriangle
      linarith

lemma nearestMagnitude_eq_sentinel_iff (hr : 0 ≤ r) :
    single.nearestMagnitude r = nullReal.magnitude ↔ |r - 12345| ≤ 1 / 2048 := by
  rw [← nearest_word_iff, ← magnitudeValue_nullReal]
  constructor
  · intro h
    have hnearest := single.nearest_nearestMagnitude Format.regular_single hr (by rw [h]; decide)
    rwa [h] at hnearest
  · exact single.nearestMagnitude_eq Format.regular_single hr (by decide)

/-- A rational is rounded to the sentinel if it is within half a word of it. -/
lemma ofRat_eq_nullReal_iff (r : ℚ) (negativeZero : Bool) :
    (Floating.ofRat r negativeZero : Single) = nullReal ↔ |r - nullReal.value| ≤ 1 / 2048 := by
  have hsign : nullReal.negative = true := by decide
  have hbound {r : ℚ} (hr : 0 ≤ r) : single.nearestMagnitude r < single.signWeight := by
    obtain ⟨m, hm, -⟩ := single.nearestMagnitude_spec Format.regular_single hr
    rw [hm]
    exact lt_of_le_of_lt (min_le_right _ _) (Floating.infinity_lt_signWeight)
  rw [value_nullReal, sub_neg_eq_add, Floating.ofRat]
  rcases lt_or_ge r 0 with hneg | hpos
  · have hr : 0 ≤ -r := by linarith
    rw [decide_eq_true hneg, Bool.true_or, if_pos hneg, ← abs_neg, neg_add', ←
      nearestMagnitude_eq_sentinel_iff hr]
    constructor
    · intro h
      rw [← h, Floating.magnitude_ofMagnitude _ Format.regular_single (hbound hr)]
    · intro h
      rw [h, ← hsign, Floating.ofMagnitude_magnitude Format.regular_single]
  · -- what is not negative is not rounded to a negative word, zero apart
    rw [decide_eq_false (not_lt.2 hpos), Bool.false_or, if_neg (not_lt.2 hpos)]
    rw [abs_of_nonneg (by linarith)]
    refine iff_of_false (fun h => ?_) (by linarith)
    have hmagnitude := congrArg Floating.magnitude h
    have hnegative := congrArg Floating.negative h
    rw [Floating.magnitude_ofMagnitude _ Format.regular_single (hbound hpos)] at hmagnitude
    rw [Floating.negative_ofMagnitude _ Format.regular_single (hbound hpos), hsign,
      Bool.and_eq_true, decide_eq_true_eq] at hnegative
    rw [hnegative.2, Format.nearestMagnitude, if_pos rfl] at hmagnitude
    exact absurd hmagnitude (by decide)

/-- Of the whole numbers only one is rounded to the sentinel. -/
lemma ofInt_eq_nullReal_iff {n : ℤ} : (Floating.ofInt n : Single) = nullReal ↔ n = -12345 := by
  rw [Floating.ofInt, ofRat_eq_nullReal_iff, value_nullReal]
  constructor
  · intro hnear
    have hlt : |(n : ℚ) - (-12345 : ℤ)| < 1 := by
      push_cast
      linarith
    rw [← Int.cast_sub, ← Int.cast_abs] at hlt
    have hzero : |n - -12345| < 1 := by exact_mod_cast hlt
    rw [abs_lt] at hzero
    omega
  · rintro rfl
    norm_num

/-- Quiet words are no finite ones. -/
lemma infinity_le_magnitude_quiet {x : Single} (hx : single.infinity ≤ x.magnitude) :
    single.infinity ≤ x.quiet.magnitude := by
  have hinfinity : single.infinity = 2139095040 := by decide
  have hhalf : single.stepWeight / 2 = 4194304 := by decide
  have hsign : single.signWeight = 2147483648 := by decide
  have hlt : x.magnitude < single.signWeight := Nat.mod_lt _ (by decide)
  simp only [Floating.quiet]
  split
  · exact hx
  · rename_i hbit
    rw [hhalf] at hbit ⊢
    rw [Floating.magnitude_ofMagnitude _ Format.regular_single (by omega)]
    omega

/-- What is not a number is narrowed to what is not a number. -/
lemma infinity_le_magnitude_narrow {y : Double} (hy : y.isNaN = true) :
    single.infinity ≤ y.narrow.magnitude := by
  have hlt : y.magnitude < Format.double.signWeight := Nat.mod_lt _ (by decide)
  have hdouble : Format.double.infinity = Format.double.signWeight - Format.double.stepWeight := rfl
  have hsingle : single.infinity + single.stepWeight = single.signWeight := by decide
  simp only [Floating.narrow, Floating.convert, hy, if_true]
  refine infinity_le_magnitude_quiet ?_
  have hfraction : (y.magnitude - Format.double.infinity) * single.stepWeight
      / Format.double.stepWeight < single.stepWeight := by
    refine Nat.div_lt_of_lt_mul ?_
    refine Nat.mul_lt_mul_of_pos_right ?_ single.stepWeight_pos
    have hpos := Format.double.stepWeight_pos
    omega
  rw [Floating.magnitude_ofMagnitude _ Format.regular_single (by omega)]
  exact Nat.le_add_right _ _

/-- A 64-bit number is near the sentinel: within half the gap to the words beside it. -/
def NearSentinel (y : Double) : Prop :=
  y.isFinite = true ∧ |y.value - nullReal.value| ≤ 1 / 2048

lemma narrow_eq_nullReal_iff (y : Double) : y.narrow = nullReal ↔ NearSentinel y := by
  rw [NearSentinel, ← ofRat_eq_nullReal_iff y.value y.negative]
  have hnull : nullReal.magnitude < single.infinity := by decide
  rcases lt_trichotomy y.magnitude Format.double.infinity with hfinite | hinfinite | hnan
  · have hnarrow : y.narrow = .ofRat y.value y.negative := by
      rw [Floating.narrow, Floating.convert, if_neg, if_neg]
      · exact fun h => hfinite.ne (Floating.isInfinite_iff.1 h)
      · exact fun h => hfinite.not_gt (Floating.isNaN_iff.1 h)
    rw [hnarrow, Floating.isFinite_iff, and_iff_right hfinite]
  · have hnarrow : y.narrow = .infinite y.negative := by
      rw [Floating.narrow, Floating.convert, if_neg, if_pos (Floating.isInfinite_iff.2 hinfinite)]
      exact fun h => (Floating.isNaN_iff.1 h).ne' hinfinite
    refine iff_of_false (fun h => ?_) fun h => hinfinite.not_lt (Floating.isFinite_iff.1 h.1)
    rw [hnarrow] at h
    rw [← h, Floating.infinite, Floating.magnitude_ofMagnitude _ Format.regular_single
      Floating.infinity_lt_signWeight] at hnull
    exact absurd hnull (Nat.lt_irrefl _)
  · refine iff_of_false (fun h => ?_) fun h => hnan.not_gt (Floating.isFinite_iff.1 h.1)
    have hnarrow := infinity_le_magnitude_narrow (Floating.isNaN_iff.2 hnan)
    rw [h] at hnarrow
    omega

end Seismogram
