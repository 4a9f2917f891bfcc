/-
# The scale of a floating-point format

A step of a format is a block of magnitudes with one unit: `step_spec` takes a magnitude
apart into its step and a significand, and `magnitudeValue_block` puts them together again,
also where the significand reaches the end of the block and the step above begins.  Hence
consecutive magnitudes differ by the unit of their step, the numbers of the magnitudes grow
with them, and the gaps between them do not shrink.

`nearestMagnitude_spec` then says of rounding what it is for: the nearest mark of the
format's scale, capped at infinity.
-/
import Mathlib.Algebra.Order.Ring.Nat
import Mathlib.Order.Monotone.Basic
import Mathlib.Tactic.Positivity
import Mathlib.Tactic.Ring
import Seismogram.Number.Floating
import Seismogram.Proofs.Number.Scale

namespace Seismogram.Number

namespace Format

variable (F : Format) {r r' : ℚ} {m n : ℕ}

/-- A format with a sign bit, an exponent field and a fraction field. -/
structure Regular : Prop where
  fraction : 0 < F.fractionBits
  exponent : F.fractionBits + 2 ≤ F.width

lemma regular_single : single.Regular := ⟨by decide, by decide⟩

/-! ### Steps -/

lemma stepWeight_pos : 0 < F.stepWeight := Nat.two_pow_pos _

lemma stepWeight_eq : (F.stepWeight : ℚ) = 2 ^ (F.fractionBits : ℤ) := by
  rw [stepWeight, zpow_natCast]
  exact Nat.cast_pow 2 F.fractionBits

lemma stepWeight_even (hF : F.Regular) : F.stepWeight % 2 = 0 := by
  obtain ⟨k, hk⟩ := Nat.exists_eq_succ_of_ne_zero hF.fraction.ne'
  rw [stepWeight, hk]
  exact Nat.mul_mod_left _ _

/-- A magnitude is a number of whole steps and a significand. -/
lemma step_spec (m : ℕ) :
    ∃ c, m = F.step m * F.stepWeight + c ∧ c < 2 * F.stepWeight ∧
      (F.step m = 0 ∨ F.stepWeight ≤ c) := by
  have hmod := Nat.mod_lt m F.stepWeight_pos
  have hdiv := Nat.div_add_mod' m F.stepWeight
  rcases Nat.eq_zero_or_pos (m / F.stepWeight) with hzero | hpos
  · have hstep : F.step m = 0 := by rw [step, hzero]
    rw [hzero, Nat.zero_mul, Nat.zero_add] at hdiv
    exact ⟨m, by rw [hstep]; omega, by omega, Or.inl hstep⟩
  · obtain ⟨s, hs⟩ : ∃ s, m / F.stepWeight = s + 1 := ⟨m / F.stepWeight - 1, by omega⟩
    have hstep : F.step m = s := by rw [step, hs, Nat.add_sub_cancel]
    rw [hs, Nat.succ_mul] at hdiv
    exact ⟨F.stepWeight + m % F.stepWeight, by rw [hstep]; omega, by omega, Or.inr (by omega)⟩

lemma step_of_block {s c : ℕ} (hs : s = 0 ∨ F.stepWeight ≤ c) (hc : c < 2 * F.stepWeight) :
    F.step (s * F.stepWeight + c) = s := by
  rw [step, Nat.add_comm, Nat.add_mul_div_right _ _ F.stepWeight_pos]
  rcases hs with rfl | hs
  · have hlt : c / F.stepWeight < 2 := (Nat.div_lt_iff_lt_mul F.stepWeight_pos).2 hc
    omega
  · have hone : c / F.stepWeight = 1 := Nat.div_eq_of_lt_le (by omega) (by omega)
    omega

lemma step_mono (h : m ≤ n) : F.step m ≤ F.step n :=
  Nat.sub_le_sub_right (Nat.div_le_div_right h) 1

/-- A significand counts units of its step, and the last one of a block is the first one of
the next block. -/
lemma magnitudeValue_block {s c : ℕ} (hs : s = 0 ∨ F.stepWeight ≤ c) (hc : c ≤ 2 * F.stepWeight) :
    F.magnitudeValue (s * F.stepWeight + c) = c * 2 ^ (F.leastExponent + s) := by
  rcases Nat.lt_or_eq_of_le hc with hlt | rfl
  · rw [magnitudeValue, F.step_of_block hs hlt, Nat.add_sub_cancel_left]
  · have hnext : s * F.stepWeight + 2 * F.stepWeight = (s + 1) * F.stepWeight + F.stepWeight := by
      ring
    have hW := F.stepWeight_pos
    rw [hnext, magnitudeValue, F.step_of_block (Or.inr le_rfl) (by omega), Nat.add_sub_cancel_left]
    rw [Nat.cast_add, Nat.cast_one, ← add_assoc, zpow_add_one₀ (by norm_num), Nat.cast_mul]
    ring

lemma magnitudeValue_zero : F.magnitudeValue 0 = 0 := by
  have h := F.magnitudeValue_block (s := 0) (c := 0) (Or.inl rfl) (Nat.zero_le _)
  rwa [Nat.zero_mul, Nat.add_zero, Nat.cast_zero, zero_mul] at h

/-- Consecutive magnitudes differ by the unit of their step. -/
lemma magnitudeValue_succ (m : ℕ) :
    F.magnitudeValue (m + 1) = F.magnitudeValue m + 2 ^ (F.leastExponent + F.step m) := by
  obtain ⟨c, hm, hc, hs⟩ := F.step_spec m
  generalize F.step m = s at hm hs
  subst hm
  rw [Nat.add_assoc, F.magnitudeValue_block hs hc.le,
    F.magnitudeValue_block (c := c + 1) (hs.imp_right Nat.le_succ_of_le) hc, Nat.cast_add,
    Nat.cast_one]
  ring

lemma magnitudeValue_strictMono : StrictMono F.magnitudeValue := by
  refine strictMono_nat_of_lt_succ fun m => ?_
  rw [magnitudeValue_succ]
  linarith [zpow_pos (show (0 : ℚ) < 2 by norm_num) (F.leastExponent + F.step m)]

lemma magnitudeValue_nonneg (m : ℕ) : 0 ≤ F.magnitudeValue m := by
  rw [← F.magnitudeValue_zero]
  exact F.magnitudeValue_strictMono.monotone (Nat.zero_le m)

lemma magnitudeValue_pos (hm : m ≠ 0) : 0 < F.magnitudeValue m := by
  rw [← F.magnitudeValue_zero]
  exact F.magnitudeValue_strictMono (Nat.pos_of_ne_zero hm)

/-! ### The scale of a format -/

/-- The numbers of the magnitudes, where those above infinity go on with ever larger steps. -/
def scale : Scale where
  IsMark q := ∃ m, q = F.magnitudeValue m
  IsEven q := ∃ m, m % 2 = 0 ∧ q = F.magnitudeValue m

lemma isMark_magnitudeValue (m : ℕ) : F.scale.IsMark (F.magnitudeValue m) := ⟨m, rfl⟩

lemma separated_scale : F.scale.Separated := by
  rintro _ _ ⟨m, hm, rfl⟩ ⟨n, hn, rfl⟩ hlt
  have hmn : m < n := F.magnitudeValue_strictMono.lt_iff_lt.1 hlt
  refine ⟨_, F.isMark_magnitudeValue (m + 1), F.magnitudeValue_strictMono (Nat.lt_succ_self m), ?_⟩
  exact F.magnitudeValue_strictMono (by omega)

lemma gapsGrow_scale : F.scale.GapsGrow := by
  rintro _ _ _ ⟨k, rfl⟩ ⟨m, rfl⟩ ⟨n, rfl⟩ hkm hmn
  have hk : k < m := F.magnitudeValue_strictMono.lt_iff_lt.1 hkm
  have hn : m + 1 ≤ n := F.magnitudeValue_strictMono.lt_iff_lt.1 hmn
  obtain ⟨j, rfl⟩ : ∃ j, m = j + 1 := ⟨m - 1, by omega⟩
  refine ⟨_, F.isMark_magnitudeValue j, F.magnitudeValue_strictMono (Nat.lt_succ_self j), ?_⟩
  have hnext := F.magnitudeValue_strictMono.monotone hn
  have hunit : (2 : ℚ) ^ (F.leastExponent + F.step j) ≤ 2 ^ (F.leastExponent + F.step (j + 1)) := by
    refine zpow_le_zpow_right₀ (by norm_num) ?_
    have hstep := F.step_mono (Nat.le_add_right j 1)
    omega
  rw [F.magnitudeValue_succ (j + 1)] at hnext
  rw [F.magnitudeValue_succ j] at hnext ⊢
  linarith

/-- Only the first mark of a step is finer below than above. -/
lemma fineAbove_scale (h : F.step (m - 1) = F.step m) :
    F.scale.FineAbove (F.magnitudeValue m) := by
  rintro _ ⟨k, rfl⟩ hkm
  have hk : k < m := F.magnitudeValue_strictMono.lt_iff_lt.1 hkm
  obtain ⟨j, rfl⟩ : ∃ j, m = j + 1 := ⟨m - 1, by omega⟩
  rw [Nat.add_sub_cancel] at h
  refine ⟨_, F.isMark_magnitudeValue (j + 2), F.magnitudeValue_strictMono (Nat.lt_succ_self _), ?_⟩
  have hbelow := F.magnitudeValue_strictMono.monotone (Nat.le_of_lt_succ hk)
  rw [F.magnitudeValue_succ (j + 1), F.magnitudeValue_succ j, ← h]
  linarith

/-! ### The block of a step -/

/-- The least significand of a step: full length, unless the step is the least one. -/
def leastSignificand (s : ℕ) : ℕ := if s = 0 then 0 else F.stepWeight

lemma zero_or_le_of_le {s c : ℕ} (hc : F.leastSignificand s ≤ c) : s = 0 ∨ F.stepWeight ≤ c := by
  rw [or_iff_not_imp_left]
  intro hs
  rwa [leastSignificand, if_neg hs] at hc

lemma leastSignificand_le (s : ℕ) : F.leastSignificand s ≤ F.stepWeight := by
  rw [leastSignificand]
  split
  · exact Nat.zero_le _
  · exact le_rfl

/-- The marks from the beginning of a block on belong to its step or to a later one. -/
lemma le_step_of_le {s : ℕ}
    (h : (F.leastSignificand s : ℚ) * 2 ^ (F.leastExponent + s) ≤ F.magnitudeValue m) :
    s ≤ F.step m := by
  have hW := F.stepWeight_pos
  have hle := F.leastSignificand_le s
  have hblock := F.zero_or_le_of_le (le_refl (F.leastSignificand s))
  rw [← F.magnitudeValue_block hblock (by omega)] at h
  have hstep := F.step_mono (F.magnitudeValue_strictMono.le_iff_le.1 h)
  rwa [F.step_of_block hblock (by omega)] at hstep

/-- Marks are multiples of the units of all steps below their own. -/
lemma exists_multiple {s : ℕ} (h : s ≤ F.step m) :
    ∃ c : ℕ, F.magnitudeValue m = c * 2 ^ (F.leastExponent + s) := by
  obtain ⟨c, hm, hc, hs⟩ := F.step_spec m
  obtain ⟨d, hd⟩ := Nat.exists_eq_add_of_le h
  refine ⟨c * 2 ^ d, ?_⟩
  rw [hm, F.magnitudeValue_block hs hc.le, hd]
  push_cast
  rw [← add_assoc, zpow_add₀ (by norm_num), zpow_natCast]
  ring

/-- In the block of a step the nearest mark is the nearest multiple of its unit. -/
lemma nearest_significand (hF : F.Regular) {s : ℕ}
    (hlow : (F.leastSignificand s : ℚ) * 2 ^ (F.leastExponent + s) ≤ r)
    (hhigh : r ≤ ((2 * F.stepWeight : ℕ) : ℚ) * 2 ^ (F.leastExponent + s)) :
    F.scale.Nearest r (F.magnitudeValue
      (s * F.stepWeight + (roundHalfEven (r / 2 ^ (F.leastExponent + s))).toNat)) := by
  have hvalue {c : ℕ} (hc : F.leastSignificand s ≤ c) (hc' : c ≤ 2 * F.stepWeight) :
      F.magnitudeValue (s * F.stepWeight + c) = c * 2 ^ (F.leastExponent + s) :=
    F.magnitudeValue_block (F.zero_or_le_of_le hc) hc'
  obtain ⟨hround, hround', hnearest⟩ := Scale.nearest_roundHalfEven (S := F.scale) _ _
    (zpow_pos (by norm_num) (F.leastExponent + s)) hlow hhigh
    (by
      intro c hc hc'
      exact ⟨_, (hvalue hc hc').symm⟩)
    (by
      rintro _ ⟨n, rfl⟩ hn
      exact F.exists_multiple (F.le_step_of_le hn))
    (by
      intro c hc hc' heven
      refine ⟨s * F.stepWeight + c, ?_, (hvalue hc hc').symm⟩
      rw [Nat.add_mod, Nat.mul_mod, F.stepWeight_even hF, heven]
      rfl)
  rwa [hvalue hround hround']

/-! ### The nearest magnitude -/

/-- The unit in which a positive number is rounded puts it into the block of its step. -/
lemma unit_spec (hr : 0 < r) :
    let s := (log2Floor r - F.fractionBits - F.leastExponent).toNat
    (F.leastSignificand s : ℚ) * 2 ^ (F.leastExponent + s) ≤ r ∧
      r < ((2 * F.stepWeight : ℕ) : ℚ) * 2 ^ (F.leastExponent + s) := by
  intro s
  obtain ⟨hlow, hhigh⟩ := log2Floor_spec hr
  have hunit (k : ℤ) : (F.stepWeight : ℚ) * 2 ^ k = 2 ^ (F.fractionBits + k) := by
    rw [stepWeight_eq, zpow_add₀ (by norm_num)]
  constructor
  · by_cases hs : s = 0
    · rw [leastSignificand, if_pos hs, Nat.cast_zero, zero_mul]
      exact hr.le
    · rw [leastSignificand, if_neg hs, hunit]
      exact le_trans (zpow_le_zpow_right₀ (by norm_num) (by omega)) hlow
  · refine lt_of_lt_of_le hhigh ?_
    rw [Nat.cast_mul, Nat.cast_ofNat, mul_assoc, hunit, ← zpow_one_add₀ (by norm_num)]
    exact zpow_le_zpow_right₀ (by norm_num) (by omega)

/-- Rounding takes the nearest mark and caps its magnitude at infinity. -/
lemma nearestMagnitude_spec (hF : F.Regular) (hr : 0 ≤ r) :
    ∃ m, F.nearestMagnitude r = min m F.infinity ∧ F.scale.Nearest r (F.magnitudeValue m) := by
  rcases hr.eq_or_lt with rfl | hpos
  · refine ⟨0, ?_, ?_⟩
    · rw [nearestMagnitude, if_pos rfl, Nat.zero_min]
    · rw [magnitudeValue_zero]
      exact Scale.nearest_self ⟨0, F.magnitudeValue_zero.symm⟩
  · obtain ⟨hlow, hhigh⟩ := F.unit_spec hpos
    rw [nearestMagnitude, if_neg hpos.ne']
    exact ⟨_, rfl, F.nearest_significand hF hlow hhigh.le⟩

/-- A finite magnitude that is rounded to is the nearest one. -/
lemma nearest_nearestMagnitude (hF : F.Regular) (hr : 0 ≤ r)
    (hfinite : F.nearestMagnitude r < F.infinity) :
    F.scale.Nearest r (F.magnitudeValue (F.nearestMagnitude r)) := by
  obtain ⟨m, hm, hnearest⟩ := F.nearestMagnitude_spec hF hr
  rw [hm] at hfinite ⊢
  rwa [min_eq_left (by omega)]

/-- The nearest magnitude, if it is finite, is the one that is rounded to. -/
lemma nearestMagnitude_eq (hF : F.Regular) (hr : 0 ≤ r) (hm : m < F.infinity)
    (h : F.scale.Nearest r (F.magnitudeValue m)) : F.nearestMagnitude r = m := by
  obtain ⟨n, hn, hnearest⟩ := F.nearestMagnitude_spec hF hr
  obtain rfl := F.magnitudeValue_strictMono.injective (h.unique F.separated_scale hnearest)
  rw [hn, min_eq_left hm.le]

lemma nearestMagnitude_mono (hF : F.Regular) (hr : 0 ≤ r) (hle : r ≤ r') :
    F.nearestMagnitude r ≤ F.nearestMagnitude r' := by
  obtain ⟨m, hm, hnearest⟩ := F.nearestMagnitude_spec hF hr
  obtain ⟨n, hn, hnearest'⟩ := F.nearestMagnitude_spec hF (hr.trans hle)
  have hmn := F.magnitudeValue_strictMono.le_iff_le.1
    (hnearest.mono F.separated_scale hnearest' hle)
  rw [hm, hn]
  exact min_le_min_right _ hmn

end Format

/-! ### Words -/

namespace Floating

variable {F : Format} {m : ℕ} (negative : Bool)

lemma two_pow_width (hF : F.Regular) : 2 ^ F.width = 2 * F.signWeight := by
  obtain ⟨k, hk⟩ : ∃ k, F.width = k + 1 := ⟨F.width - 1, by have := hF.exponent; omega⟩
  rw [Format.signWeight, hk, Nat.add_sub_cancel, pow_succ, mul_comm]
  rfl

lemma toNat_ofMagnitude (hF : F.Regular) (hm : m < F.signWeight) :
    (ofMagnitude negative m : Floating F).bits.toNat
      = (if negative then F.signWeight else 0) + m := by
  rw [ofMagnitude, BitVec.toNat_ofNat]
  refine Nat.mod_eq_of_lt ?_
  rw [two_pow_width hF]
  split <;> omega

lemma magnitude_ofMagnitude (hF : F.Regular) (hm : m < F.signWeight) :
    (ofMagnitude negative m : Floating F).magnitude = m := by
  rw [magnitude, toNat_ofMagnitude negative hF hm]
  split
  · rw [Nat.add_mod_left, Nat.mod_eq_of_lt hm]
  · rw [Nat.zero_add, Nat.mod_eq_of_lt hm]

lemma negative_ofMagnitude (hF : F.Regular) (hm : m < F.signWeight) :
    (ofMagnitude negative m : Floating F).negative = negative := by
  rw [Floating.negative, toNat_ofMagnitude negative hF hm]
  cases negative <;> simp [hm]

/-- A word is its sign and its magnitude. -/
lemma ofMagnitude_magnitude (hF : F.Regular) (x : Floating F) :
    ofMagnitude x.negative x.magnitude = x := by
  have hx := x.bits.isLt
  rw [two_pow_width hF] at hx
  obtain ⟨bits⟩ := x
  rw [ofMagnitude, Floating.mk.injEq]
  apply BitVec.eq_of_toNat_eq
  rw [BitVec.toNat_ofNat, two_pow_width hF, negative, magnitude]
  dsimp only at hx ⊢
  by_cases hsign : F.signWeight ≤ bits.toNat
  · have hmod : bits.toNat % F.signWeight = bits.toNat - F.signWeight := by
      rw [Nat.mod_eq_sub_mod hsign, Nat.mod_eq_of_lt (by omega)]
    rw [decide_eq_true hsign, if_pos rfl, hmod, Nat.add_sub_cancel' hsign, Nat.mod_eq_of_lt hx]
  · have hmod : bits.toNat % F.signWeight = bits.toNat := Nat.mod_eq_of_lt (by omega)
    rw [decide_eq_false hsign, if_neg (by decide), Nat.zero_add, hmod, Nat.mod_eq_of_lt hx]

/-- Words with one sign and one magnitude are the same. -/
lemma ext_magnitude (hF : F.Regular) {x y : Floating F} (hsign : x.negative = y.negative)
    (hmagnitude : x.magnitude = y.magnitude) : x = y := by
  rw [← ofMagnitude_magnitude hF x, hsign, hmagnitude, ofMagnitude_magnitude hF y]

lemma isFinite_iff {x : Floating F} : x.isFinite = true ↔ x.magnitude < F.infinity :=
  decide_eq_true_iff

lemma isInfinite_iff {x : Floating F} : x.isInfinite = true ↔ x.magnitude = F.infinity :=
  decide_eq_true_iff

lemma isNaN_iff {x : Floating F} : x.isNaN = true ↔ F.infinity < x.magnitude :=
  decide_eq_true_iff

lemma isZero_iff {x : Floating F} : x.isZero = true ↔ x.magnitude = 0 :=
  decide_eq_true_iff

lemma infinity_lt_signWeight : F.infinity < F.signWeight :=
  Nat.sub_lt (Nat.two_pow_pos _) F.stepWeight_pos

end Floating

end Seismogram.Number
