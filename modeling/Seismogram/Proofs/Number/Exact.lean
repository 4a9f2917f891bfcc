/-
# Numbers that a format holds exactly

A multiple of a power of two is the number of a word if its factor is no longer than a
significand (`Format.exists_magnitude`).  A number that is held exactly is not changed by
rounding (`Floating.ofRat_of_holds`).  So a 32-bit word is widened without loss, and narrowing
gives it back, as far as it is a number (`Floating.narrow_widen`); and whole numbers are exact
up to the length of a significand.
-/
import Mathlib.Tactic.Linarith
import Seismogram.Number.Arithmetic
import Seismogram.Proofs.Number.Floating

namespace Seismogram.Number

namespace Format

variable (F : Format) {m s c : ℕ} {r : ℚ}

lemma regular_double : double.Regular := ⟨by decide, by decide⟩

/-- Factors no longer than a significand are those of some magnitude: a short one is doubled
until it fills the significand, unless the least step comes first. -/
lemma exists_magnitude (hc : c ≤ 2 * F.stepWeight) :
    ∃ m ≤ (s + 2) * F.stepWeight, F.magnitudeValue m = c * 2 ^ (F.leastExponent + s) := by
  induction s generalizing c with
  | zero =>
      refine ⟨0 * F.stepWeight + c, by omega, ?_⟩
      exact F.magnitudeValue_block (Or.inl rfl) hc
  | succ s ih =>
      rcases Nat.lt_or_ge c F.stepWeight with hshort | hlong
      · obtain ⟨m, hm, hvalue⟩ := ih (c := 2 * c) (by omega)
        refine ⟨m, hm.trans (Nat.mul_le_mul_right _ (by omega)), ?_⟩
        rw [hvalue, Nat.cast_succ, ← add_assoc, zpow_add_one₀ (by norm_num)]
        push_cast
        ring
      · refine ⟨(s + 1) * F.stepWeight + c, by rw [Nat.add_mul (s + 1) 2]; omega, ?_⟩
        exact F.magnitudeValue_block (Or.inr hlong) hc

/-- The format holds a number exactly. -/
def Holds (r : ℚ) : Prop := ∃ m < F.infinity, |r| = F.magnitudeValue m

lemma nearestMagnitude_magnitudeValue (hF : F.Regular) (hm : m < F.infinity) :
    F.nearestMagnitude (F.magnitudeValue m) = m :=
  F.nearestMagnitude_eq hF (F.magnitudeValue_nonneg m) hm
    (Scale.nearest_self (F.isMark_magnitudeValue m))

/-- Whole numbers up to the length of a significand are held. -/
lemma holds_double_intCast {n : ℤ} (hn : n.natAbs ≤ 9007199254740992) : double.Holds n := by
  obtain ⟨m, hm, hvalue⟩ := double.exists_magnitude (s := 1074) (c := n.natAbs) hn
  refine ⟨m, lt_of_le_of_lt hm (by decide), ?_⟩
  rw [hvalue, ← Int.cast_abs, Int.abs_eq_natAbs]
  norm_num [leastExponent]

lemma holds_single_intCast {n : ℤ} (hn : n.natAbs ≤ 16777216) : single.Holds n := by
  obtain ⟨m, hm, hvalue⟩ := single.exists_magnitude (s := 149) (c := n.natAbs) hn
  refine ⟨m, lt_of_le_of_lt hm (by decide), ?_⟩
  rw [hvalue, ← Int.cast_abs, Int.abs_eq_natAbs]
  norm_num [leastExponent]

/-- Every number of the 32-bit format is held by the 64-bit format. -/
lemma holds_double_of_single (hr : single.Holds r) : double.Holds r := by
  obtain ⟨m, hm, hvalue⟩ := hr
  obtain ⟨c, hsplit, hc, hs⟩ := single.step_spec m
  have hweight : single.stepWeight = 8388608 := rfl
  have hinfinity : single.infinity = 2139095040 := rfl
  have hdouble : double.stepWeight = 4503599627370496 := rfl
  have hstep : single.step m ≤ 254 := by
    rw [step, hweight]
    omega
  generalize single.step m = s at hsplit hs hstep
  obtain ⟨n, hn, hvalue'⟩ := double.exists_magnitude (s := s + 925) (c := c) (by omega)
  refine ⟨n, lt_of_le_of_lt hn ?_, ?_⟩
  · rw [show double.infinity = 2047 * double.stepWeight from rfl]
    exact Nat.mul_lt_mul_of_pos_right (by omega) double.stepWeight_pos
  · have hexponent : double.leastExponent + (s + 925 : ℕ) = single.leastExponent + s := by
      rw [show double.leastExponent = -1074 from rfl, show single.leastExponent = -149 from rfl]
      omega
    rw [hvalue, hsplit, single.magnitudeValue_block hs hc.le, hvalue', hexponent]

end Format

/-! ### Words that are exact -/

namespace Floating

open Format (single double)

variable {F G : Format} {r : ℚ} {x : Floating F} {m : ℕ}

lemma abs_value (x : Floating F) : |x.value| = F.magnitudeValue x.magnitude := by
  have hnonneg := F.magnitudeValue_nonneg x.magnitude
  rw [value]
  split
  · rw [abs_neg, abs_of_nonneg hnonneg]
  · rw [abs_of_nonneg hnonneg]

lemma holds_value (hx : x.isFinite = true) : F.Holds x.value :=
  ⟨x.magnitude, isFinite_iff.1 hx, abs_value x⟩

/-- The sign that rounding gives to the number of a word is the sign of the word. -/
lemma sign_value (x : Floating F) :
    (decide (x.value < 0) || (x.negative && decide (x.value = 0))) = x.negative := by
  have hnonneg := F.magnitudeValue_nonneg x.magnitude
  rw [value]
  cases x.negative with
  | false => simp [hnonneg]
  | true =>
      rcases hnonneg.eq_or_lt with hzero | hpos
      · simp [← hzero]
      · simp [hpos]

lemma value_ofMagnitude (hF : F.Regular) (hm : m < F.signWeight) (negative : Bool) :
    (ofMagnitude negative m : Floating F).value =
      if negative then -F.magnitudeValue m else F.magnitudeValue m := by
  rw [value, negative_ofMagnitude negative hF hm, magnitude_ofMagnitude negative hF hm]

lemma ofRat_eq (r : ℚ) (negativeZero : Bool) : (ofRat r negativeZero : Floating F) =
    ofMagnitude (decide (r < 0) || (negativeZero && decide (r = 0)))
      (F.nearestMagnitude |r|) := by
  rw [ofRat]
  congr 2
  split
  · rename_i hneg
    rw [abs_of_neg hneg]
  · rename_i hpos
    rw [abs_of_nonneg (not_lt.1 hpos)]

lemma ofRat_eq_ofMagnitude (hF : F.Regular) (hm : m < F.infinity) (hr : |r| = F.magnitudeValue m)
    (negativeZero : Bool) : (ofRat r negativeZero : Floating F) =
      ofMagnitude (decide (r < 0) || (negativeZero && decide (r = 0))) m := by
  rw [ofRat_eq, hr, F.nearestMagnitude_magnitudeValue hF hm]

/-- A number that is held exactly is not changed by rounding. -/
lemma ofRat_of_holds (hF : F.Regular) (hr : F.Holds r) (negativeZero : Bool) :
    (ofRat r negativeZero : Floating F).isFinite = true ∧
      (ofRat r negativeZero : Floating F).value = r ∧
      (ofRat r negativeZero : Floating F).negative =
        (decide (r < 0) || (negativeZero && decide (r = 0))) := by
  obtain ⟨m, hm, hvalue⟩ := hr
  have hlt : m < F.signWeight := hm.trans infinity_lt_signWeight
  rw [ofRat_eq_ofMagnitude hF hm hvalue, isFinite_iff, magnitude_ofMagnitude _ hF hlt,
    value_ofMagnitude hF hlt, negative_ofMagnitude _ hF hlt, ← hvalue]
  refine ⟨hm, ?_, rfl⟩
  rcases lt_trichotomy r 0 with hneg | rfl | hpos
  · simp [hneg, abs_of_neg hneg]
  · simp
  · simp [hpos.not_gt, hpos.ne', abs_of_pos hpos]

/-- A finite word is the word of its number and sign. -/
lemma ofRat_value (hF : F.Regular) (hx : x.isFinite = true) : ofRat x.value x.negative = x := by
  rw [ofRat_eq_ofMagnitude hF (isFinite_iff.1 hx) (abs_value x), sign_value,
    ofMagnitude_magnitude hF]

lemma convert_of_isFinite (hx : x.isFinite = true) :
    (x.convert : Floating G) = ofRat x.value x.negative := by
  rw [isFinite_iff] at hx
  rw [convert, if_neg, if_neg]
  · exact fun h => hx.ne (isInfinite_iff.1 h)
  · exact fun h => hx.not_gt (isNaN_iff.1 h)

/-! ### Widening -/

/-- A 32-bit number is widened without loss. -/
lemma widen_of_isFinite {x : Single} (hx : x.isFinite = true) :
    x.widen.isFinite = true ∧ x.widen.value = x.value ∧ x.widen.negative = x.negative := by
  have hholds := Format.holds_double_of_single (holds_value hx)
  obtain ⟨hfinite, hvalue, hsign⟩ := ofRat_of_holds Format.regular_double hholds x.negative
  rw [widen, convert_of_isFinite hx]
  exact ⟨hfinite, hvalue, hsign.trans (sign_value x)⟩

lemma narrow_widen_of_isFinite {x : Single} (hx : x.isFinite = true) : x.widen.narrow = x := by
  obtain ⟨hfinite, hvalue, hsign⟩ := widen_of_isFinite hx
  rw [narrow, convert_of_isFinite hfinite, hvalue, hsign, ofRat_value Format.regular_single hx]

/-- Whole numbers up to the length of a significand are narrowed without loss. -/
lemma narrow_ofInt {n : ℤ} (hn : n.natAbs ≤ 16777216) : (ofInt n : Double).narrow = ofInt n := by
  have hholds := Format.holds_double_of_single (Format.holds_single_intCast hn)
  obtain ⟨hfinite, hvalue, hsign⟩ := ofRat_of_holds Format.regular_double hholds false
  rw [narrow, ofInt, convert_of_isFinite hfinite, hvalue, hsign, ofInt, ofRat_eq, ofRat_eq]
  cases decide ((n : ℚ) < 0) <;> simp

lemma quiet_ofMagnitude (hF : F.Regular) (hm : m < F.signWeight) (negative : Bool) :
    (ofMagnitude negative m : Floating F).quiet = ofMagnitude negative
      (if m / (F.stepWeight / 2) % 2 = 1 then m else m + F.stepWeight / 2) := by
  simp only [quiet, magnitude_ofMagnitude negative hF hm, negative_ofMagnitude negative hF hm]
  split <;> rfl

lemma convert_of_isNaN (hx : x.isNaN = true) : (x.convert : Floating G) =
    (ofMagnitude x.negative
      (G.infinity + (x.magnitude - F.infinity) * G.stepWeight / F.stepWeight)).quiet := by
  rw [convert, if_pos hx]

/-- Of a word that is not a number the fraction is kept, with the bit that makes it quiet, and
moved to the front of the longer fraction. -/
lemma exists_fraction_of_isNaN {x : Single} (hx : x.isNaN = true) :
    ∃ g, 0 < g ∧ g < 8388608 ∧ g / 4194304 % 2 = 1 ∧
      x.quiet = ofMagnitude x.negative (single.infinity + g) ∧
      x.widen.magnitude = double.infinity + g * 536870912 ∧ x.widen.negative = x.negative := by
  have hinfinity : single.infinity = 2139095040 := rfl
  have hweight : single.stepWeight = 8388608 := rfl
  have hsign : single.signWeight = 2147483648 := rfl
  have hinfinity' : double.infinity = 9218868437227405312 := rfl
  have hweight' : double.stepWeight = 4503599627370496 := rfl
  have hsign' : double.signWeight = 9223372036854775808 := rfl
  have hlt : x.magnitude < single.signWeight := Nat.mod_lt _ (Nat.two_pow_pos _)
  have hgt := isNaN_iff.1 hx
  obtain ⟨f, hf⟩ : ∃ f, x.magnitude = single.infinity + f := ⟨x.magnitude - single.infinity, by omega⟩
  -- the fraction with its first bit set
  obtain ⟨g, hg, hbit, hcases⟩ : ∃ g, g < 8388608 ∧ g / 4194304 % 2 = 1 ∧
      (f / 4194304 % 2 = 1 ∧ g = f ∨ f / 4194304 % 2 ≠ 1 ∧ g = f + 4194304) := by
    by_cases hfirst : f / 4194304 % 2 = 1
    · exact ⟨f, by omega, hfirst, Or.inl ⟨hfirst, rfl⟩⟩
    · exact ⟨f + 4194304, by omega, by omega, Or.inr ⟨hfirst, rfl⟩⟩
  have hquiet : x.quiet = ofMagnitude x.negative (single.infinity + g) := by
    rw [← ofMagnitude_magnitude Format.regular_single x, quiet_ofMagnitude Format.regular_single hlt,
      negative_ofMagnitude _ Format.regular_single hlt, hf, hweight, hinfinity]
    congr 1
    split_ifs <;> omega
  have hwiden : x.widen = ofMagnitude x.negative (double.infinity + g * 536870912) := by
    have hfraction : (x.magnitude - single.infinity) * double.stepWeight / single.stepWeight
        = f * 536870912 := by
      rw [hf, hweight, hweight']
      omega
    rw [widen, convert_of_isNaN hx, hfraction, quiet_ofMagnitude Format.regular_double (by omega),
      hweight', hinfinity']
    congr 1
    split_ifs <;> omega
  have hlt' : double.infinity + g * 536870912 < double.signWeight := by omega
  refine ⟨g, by omega, hg, hbit, hquiet, ?_, ?_⟩
  · rw [hwiden, magnitude_ofMagnitude _ Format.regular_double hlt']
  · rw [hwiden, negative_ofMagnitude _ Format.regular_double hlt']

lemma isNaN_widen {x : Single} (hx : x.isNaN = true) : x.widen.isNaN = true := by
  obtain ⟨g, hpos, -, -, -, hmagnitude, -⟩ := exists_fraction_of_isNaN hx
  rw [isNaN_iff, hmagnitude]
  omega

lemma narrow_widen_of_isNaN {x : Single} (hx : x.isNaN = true) : x.widen.narrow = x.quiet := by
  obtain ⟨g, hpos, hg, hbit, hquiet, hmagnitude, hnegative⟩ := exists_fraction_of_isNaN hx
  have hinfinity : single.infinity = 2139095040 := rfl
  have hweight : single.stepWeight = 8388608 := rfl
  have hsign : single.signWeight = 2147483648 := rfl
  have hweight' : double.stepWeight = 4503599627370496 := rfl
  have hfraction : (x.widen.magnitude - double.infinity) * single.stepWeight / double.stepWeight
      = g := by
    rw [hmagnitude, hweight, hweight']
    omega
  rw [hquiet, narrow, convert_of_isNaN (isNaN_widen hx), hfraction, hnegative,
    quiet_ofMagnitude Format.regular_single (by omega), hweight, hinfinity, if_pos]
  omega

lemma widen_of_isInfinite {x : Single} (hx : x.isInfinite = true) :
    x.widen = infinite x.negative := by
  rw [widen, convert, if_neg fun h => (isNaN_iff.1 h).ne' (isInfinite_iff.1 hx), if_pos hx]

/-- Widening makes no number of a word that is none. -/
lemma isFinite_of_isFinite_widen {x : Single} (hx : x.widen.isFinite = true) :
    x.isFinite = true := by
  rw [isFinite_iff] at hx
  rcases lt_trichotomy x.magnitude single.infinity with hfinite | hinfinite | hnan
  · exact isFinite_iff.2 hfinite
  · have hlt {F : Format} : F.infinity < F.signWeight := infinity_lt_signWeight
    rw [widen_of_isInfinite (isInfinite_iff.2 hinfinite), infinite,
      magnitude_ofMagnitude _ Format.regular_double hlt] at hx
    exact absurd hx (lt_irrefl _)
  · exact absurd (isNaN_iff.1 (isNaN_widen (isNaN_iff.2 hnan))) hx.not_gt

/-- Narrowing gives a word that was widened back, but for the bit that makes a word quiet that
is not a number. -/
lemma narrow_widen (x : Single) : x.widen.narrow = if x.isNaN then x.quiet else x := by
  rcases lt_trichotomy x.magnitude single.infinity with hfinite | hinfinite | hnan
  · rw [narrow_widen_of_isFinite (isFinite_iff.2 hfinite), if_neg]
    exact fun h => hfinite.not_gt (isNaN_iff.1 h)
  · have hnot : ¬x.isNaN = true := fun h => (isNaN_iff.1 h).ne' hinfinite
    have hlt {F : Format} : F.infinity < F.signWeight := infinity_lt_signWeight
    have hwiden := widen_of_isInfinite (isInfinite_iff.2 hinfinite)
    have hmagnitude : x.widen.magnitude = double.infinity := by
      rw [hwiden, infinite, magnitude_ofMagnitude _ Format.regular_double hlt]
    rw [if_neg hnot, narrow, convert, if_neg fun h => (isNaN_iff.1 h).ne' hmagnitude,
      if_pos (isInfinite_iff.2 hmagnitude), hwiden, infinite, infinite,
      negative_ofMagnitude _ Format.regular_double hlt, ← hinfinite,
      ofMagnitude_magnitude Format.regular_single]
  · rw [narrow_widen_of_isNaN (isNaN_iff.2 hnan), if_pos (isNaN_iff.2 hnan)]

/-- A word is the number zero if it is one of the two zeros; what is no number is not. -/
lemma same_zero (x : Single) : x.same (zero false) = x.isZero := by
  have hnumber : (zero false : Single).isNaN = false := by decide
  have hzero : (zero false : Single).rank = 0 := by decide
  have hrank : x.rank = 0 ↔ x.magnitude = 0 := by
    rw [rank]
    split_ifs <;> omega
  rw [same, hnumber, hzero, isZero]
  by_cases hm : x.magnitude = 0
  · have hnan : x.isNaN = false := by
      rw [isNaN, hm]
      decide
    simp [hm, hnan, hrank]
  · simp [hm, hrank]

end Floating

end Seismogram.Number
