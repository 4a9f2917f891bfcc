/-
# What the two steps of rounding give

The power that a positive rational reaches is the one with `b ^ k ≤ r < b ^ (k + 1)`, for
both bases: the estimate of the logarithm is at most one too large, and settling takes that
one off.  The nearest integer is at most one half away, and even if it is exactly that far.
-/
import Mathlib.Algebra.Order.Field.Power
import Mathlib.Data.Nat.Digits.Defs
import Mathlib.Data.Rat.Floor
import Mathlib.Tactic.Linarith
import Mathlib.Tactic.NormNum
import Seismogram.Number.Rounding

namespace Seismogram.Number

/-! ### Logarithms -/

/-- An estimate that is right or one too large is settled to the right one. -/
lemma settleLog_spec {b r : ℚ} {k : ℤ} (hlow : b ^ (k - 1) ≤ r) (hhigh : r < b ^ (k + 1)) :
    b ^ settleLog b r k ≤ r ∧ r < b ^ (settleLog b r k + 1) := by
  unfold settleLog
  split
  · rename_i hle
    exact ⟨hle, hhigh⟩
  · rename_i hlt
    rw [sub_add_cancel]
    exact ⟨hlow, lt_of_not_ge hlt⟩

/-- Powers around the numerator and the denominator are powers around the quotient. -/
lemma zpow_around_div {b : ℚ} (hb : 1 < b) {n d : ℚ} {i j : ℤ} (hn : b ^ i ≤ n)
    (hn' : n < b ^ (i + 1)) (hd : b ^ j ≤ d) (hd' : d < b ^ (j + 1)) :
    b ^ (i - j - 1) ≤ n / d ∧ n / d < b ^ (i - j + 1) := by
  have hb0 : 0 < b := by linarith
  have hd0 : 0 < d := lt_of_lt_of_le (zpow_pos hb0 j) hd
  constructor
  · rw [le_div_iff₀ hd0]
    calc b ^ (i - j - 1) * d ≤ b ^ (i - j - 1) * b ^ (j + 1) :=
          mul_le_mul_of_nonneg_left hd'.le (zpow_nonneg hb0.le _)
      _ = b ^ i := by
          rw [← zpow_add₀ hb0.ne']
          congr 1
          omega
      _ ≤ n := hn
  · rw [div_lt_iff₀ hd0]
    calc n < b ^ (i + 1) := hn'
      _ = b ^ (i - j + 1) * b ^ j := by
          rw [← zpow_add₀ hb0.ne']
          congr 1
          omega
      _ ≤ b ^ (i - j + 1) * d := mul_le_mul_of_nonneg_left hd (zpow_nonneg hb0.le _)

lemma natAbs_num_div_den {r : ℚ} (hr : 0 < r) : (r.num.natAbs : ℚ) / (r.den : ℚ) = r := by
  have hnum : (r.num.natAbs : ℤ) = r.num := Int.natAbs_of_nonneg (Rat.num_nonneg.2 hr.le)
  have hcast : ((r.num.natAbs : ℤ) : ℚ) = (r.num : ℚ) := by rw [hnum]
  rw [Int.cast_natCast] at hcast
  rw [hcast, Rat.num_div_den]

/-- The largest power of two that a positive rational reaches. -/
lemma log2Floor_spec {r : ℚ} (hr : 0 < r) :
    2 ^ log2Floor r ≤ r ∧ r < 2 ^ (log2Floor r + 1) := by
  have hbits {n : ℕ} (hn : n ≠ 0) :
      (2 : ℚ) ^ (n.log2 : ℤ) ≤ n ∧ (n : ℚ) < 2 ^ ((n.log2 : ℤ) + 1) := by
    constructor
    · exact_mod_cast Nat.log2_self_le hn
    · exact_mod_cast Nat.lt_log2_self
  have hnum : r.num.natAbs ≠ 0 := Int.natAbs_ne_zero.2 (Rat.num_pos.2 hr).ne'
  obtain ⟨hn, hn'⟩ := hbits hnum
  obtain ⟨hd, hd'⟩ := hbits r.den_ne_zero
  have haround := zpow_around_div (by norm_num) hn hn' hd hd'
  rw [natAbs_num_div_den hr] at haround
  exact settleLog_spec haround.1 haround.2

/-! ### The number of digits -/

lemma digitCount_of_lt {n : ℕ} (hn : n < 10) : digitCount n = 1 := by
  rw [digitCount, Nat.toDigits_of_lt_base hn, List.length_singleton]

lemma digitCount_of_le {n : ℕ} (hn : 10 ≤ n) : digitCount n = digitCount (n / 10) + 1 := by
  rw [digitCount, Nat.toDigits_of_base_le (by decide) hn, List.length_append,
    List.length_singleton, digitCount]

/-- A natural number with one digit more than `k` lies between two powers of ten. -/
lemma digitCount_eq_succ_iff {n : ℕ} (hn : n ≠ 0) (k : ℕ) :
    digitCount n = k + 1 ↔ 10 ^ k ≤ n ∧ n < 10 ^ (k + 1) := by
  induction k generalizing n with
  | zero =>
      rcases Nat.lt_or_ge n 10 with hlt | hge
      · simp only [digitCount_of_lt hlt, pow_zero, zero_add, pow_one, true_iff]
        omega
      · have hlater : n / 10 ≠ 0 := by omega
        have hpos : 0 < digitCount (n / 10) := List.length_pos_of_ne_nil Nat.toDigits_ne_nil
        rw [digitCount_of_le hge, pow_zero, zero_add, pow_one]
        omega
  | succ k ih =>
      rcases Nat.lt_or_ge n 10 with hlt | hge
      · have hpow : 10 ≤ 10 ^ (k + 1) := Nat.le_self_pow (by omega) 10
        rw [digitCount_of_lt hlt]
        omega
      · -- the digits but the last one are those of a tenth of the number
        have hlater : n / 10 ≠ 0 := by omega
        rw [digitCount_of_le hge, Nat.add_right_cancel_iff, ih hlater, pow_succ 10 (k + 1),
          pow_succ 10 k, Nat.le_div_iff_mul_le (by decide), Nat.div_lt_iff_lt_mul (by decide)]

lemma digitCount_spec {n : ℕ} (hn : n ≠ 0) :
    10 ^ (digitCount n - 1) ≤ n ∧ n < 10 ^ digitCount n := by
  have hpos : 0 < digitCount n := List.length_pos_of_ne_nil Nat.toDigits_ne_nil
  obtain ⟨k, hk⟩ : ∃ k, digitCount n = k + 1 := ⟨digitCount n - 1, by omega⟩
  rw [hk, Nat.add_sub_cancel]
  exact (digitCount_eq_succ_iff hn k).1 hk

/-- The largest power of ten that a positive rational reaches. -/
lemma log10Floor_spec {r : ℚ} (hr : 0 < r) :
    10 ^ log10Floor r ≤ r ∧ r < 10 ^ (log10Floor r + 1) := by
  have hdigits {n : ℕ} (hn : n ≠ 0) :
      (10 : ℚ) ^ ((digitCount n : ℤ) - 1) ≤ n ∧ (n : ℚ) < 10 ^ ((digitCount n : ℤ) - 1 + 1) := by
    have hpos : 0 < digitCount n := List.length_pos_of_ne_nil Nat.toDigits_ne_nil
    obtain ⟨hlow, hhigh⟩ := digitCount_spec hn
    constructor
    · rw [show (digitCount n : ℤ) - 1 = ((digitCount n - 1 : ℕ) : ℤ) by omega, zpow_natCast]
      exact_mod_cast hlow
    · rw [sub_add_cancel, zpow_natCast]
      exact_mod_cast hhigh
  have hnum : r.num.natAbs ≠ 0 := Int.natAbs_ne_zero.2 (Rat.num_pos.2 hr).ne'
  obtain ⟨hn, hn'⟩ := hdigits hnum
  obtain ⟨hd, hd'⟩ := hdigits r.den_ne_zero
  have haround := zpow_around_div (by norm_num) hn hn' hd hd'
  rw [natAbs_num_div_den hr, sub_sub_sub_cancel_right] at haround
  exact settleLog_spec haround.1 haround.2

/-! ### The nearest integer -/

/-- The nearest integer is at most one half away, and even if it is exactly that far. -/
lemma roundHalfEven_spec (r : ℚ) :
    |(roundHalfEven r : ℚ) - r| ≤ 1 / 2 ∧
      (|(roundHalfEven r : ℚ) - r| = 1 / 2 → roundHalfEven r % 2 = 0) := by
  have hle := Rat.floor_le r
  have hlt := Rat.lt_floor_add_one r
  rw [Int.cast_add, Int.cast_one] at hlt
  simp only [roundHalfEven]
  split
  · rename_i hbelow
    rw [abs_sub_comm, abs_of_nonneg (by linarith)]
    exact ⟨by linarith, fun htie => by linarith⟩
  · split
    · rename_i habove
      rw [Int.cast_add, Int.cast_one, abs_of_nonneg (by linarith)]
      exact ⟨by linarith, fun htie => by linarith⟩
    · -- exactly between two integers
      rename_i hbelow habove
      have htie : r - r.floor = 1 / 2 := by linarith
      rcases Int.emod_two_eq_zero_or_one r.floor with heven | hodd
      · rw [heven, Int.add_zero, abs_sub_comm, htie]
        exact ⟨by norm_num, fun _ => heven⟩
      · rw [hodd, Int.cast_add, Int.cast_one,
          show (r.floor : ℚ) + 1 - r = 1 / 2 by linarith]
        exact ⟨by norm_num, fun _ => by omega⟩

/-- No integer is nearer, and if another one is as near then this one is even. -/
lemma roundHalfEven_nearest {r : ℚ} {n : ℤ} (hne : n ≠ roundHalfEven r) :
    |(roundHalfEven r : ℚ) - r| ≤ |(n : ℚ) - r| ∧
      (|(n : ℚ) - r| = |(roundHalfEven r : ℚ) - r| → roundHalfEven r % 2 = 0) := by
  obtain ⟨hhalf, heven⟩ := roundHalfEven_spec r
  have hapart : (1 : ℚ) ≤ |(n : ℚ) - roundHalfEven r| := by
    have hint : 1 ≤ |n - roundHalfEven r| := Int.one_le_abs (sub_ne_zero.2 hne)
    exact_mod_cast hint
  have htriangle := abs_sub_le (n : ℚ) r (roundHalfEven r)
  rw [abs_sub_comm r] at htriangle
  exact ⟨by linarith, fun htie => heven (by linarith)⟩

/-- An integer that no other is nearer than, even if another is as near, is the nearest one. -/
lemma eq_roundHalfEven {r : ℚ} {n : ℤ} (hnear : ∀ m : ℤ, |(n : ℚ) - r| ≤ |(m : ℚ) - r|)
    (heven : ∀ m : ℤ, m ≠ n → |(m : ℚ) - r| = |(n : ℚ) - r| → n % 2 = 0) :
    n = roundHalfEven r := by
  by_contra hne
  obtain ⟨hle, hround⟩ := roundHalfEven_nearest hne
  have htie : |(roundHalfEven r : ℚ) - r| = |(n : ℚ) - r| := le_antisymm hle (hnear _)
  have hhalf := (roundHalfEven_spec r).1
  -- both are even, and they are at most one apart
  have hn := heven _ (Ne.symm hne) htie
  have hround' := hround htie.symm
  have htriangle := abs_sub_le (n : ℚ) r (roundHalfEven r)
  rw [abs_sub_comm r] at htriangle
  have hone : |n - roundHalfEven r| ≤ 1 := by
    have hcast : |(n : ℚ) - roundHalfEven r| ≤ 1 := by linarith
    exact_mod_cast hcast
  rw [abs_le] at hone
  omega

lemma roundHalfEven_of_near {r : ℚ} {n : ℤ} (hnear : |(n : ℚ) - r| < 1 / 2) :
    roundHalfEven r = n := by
  have hhalf := (roundHalfEven_spec r).1
  have htriangle := abs_sub_le (n : ℚ) r (roundHalfEven r)
  rw [abs_sub_comm r] at htriangle
  have hone : |n - roundHalfEven r| < 1 := by
    have hcast : |(n : ℚ) - roundHalfEven r| < 1 := by linarith
    exact_mod_cast hcast
  rw [abs_lt] at hone
  omega

lemma le_roundHalfEven {n : ℤ} {r : ℚ} (h : (n : ℚ) ≤ r) : n ≤ roundHalfEven r := by
  by_contra hlt
  have hlt' : roundHalfEven r + 1 ≤ n := by omega
  have hcast : (roundHalfEven r : ℚ) + 1 ≤ n := by exact_mod_cast hlt'
  have hnear := abs_le.1 (roundHalfEven_spec r).1
  linarith [hnear.1]

lemma roundHalfEven_le {n : ℤ} {r : ℚ} (h : r ≤ (n : ℚ)) : roundHalfEven r ≤ n := by
  by_contra hlt
  have hlt' : n + 1 ≤ roundHalfEven r := by omega
  have hcast : (n : ℚ) + 1 ≤ roundHalfEven r := by exact_mod_cast hlt'
  have hnear := abs_le.1 (roundHalfEven_spec r).1
  linarith [hnear.2]

lemma roundHalfAway_intCast (n : ℤ) : roundHalfAway n = n := by
  have hunique {k : ℤ} : ((k : ℚ) + 1 / 2).floor = k := by
    have hle := Rat.floor_le ((k : ℚ) + 1 / 2)
    refine le_antisymm ?_ (Rat.le_floor_iff.2 (by linarith))
    by_contra hlt
    have hnext : ((k + 1 : ℤ) : ℚ) ≤ ((k : ℚ) + 1 / 2).floor := Int.cast_le.2 (by omega)
    rw [Int.cast_add, Int.cast_one] at hnext
    linarith
  rw [roundHalfAway]
  split
  · have hturned : 1 / 2 - (n : ℚ) = (-n : ℤ) + 1 / 2 := by
      rw [Int.cast_neg]
      ring
    rw [hturned, hunique, neg_neg]
  · exact hunique

end Seismogram.Number
