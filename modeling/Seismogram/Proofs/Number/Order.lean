/-
# The order of words is that of their numbers

Words are compared by sign and magnitude.  Since the numbers of the magnitudes grow with them,
that is the comparison of the numbers (`value_le_value_iff`), where infinity counts as the number
that would follow the largest finite one.  A word between two finite words is finite
(`isFinite_of_le_of_le`), infinity is above every number (`le_infinite`), and to turn all signs is
to turn the order around (`lt_neg_neg`, `le_neg_right`).
-/
import Mathlib.Tactic.Linarith
import Seismogram.Proofs.Number.Exact

namespace Seismogram.Number.Floating

variable {F : Format} {x y z : Floating F}

lemma isNaN_eq_false_iff : x.isNaN = false ↔ x.magnitude ≤ F.infinity := by
  rw [isNaN, decide_eq_false_iff_not, Nat.not_lt]

lemma isNaN_of_isFinite (hx : x.isFinite = true) : x.isNaN = false :=
  isNaN_eq_false_iff.2 (isFinite_iff.1 hx).le

/-! ### Numbers and ranks -/

lemma value_le_value_iff : x.value ≤ y.value ↔ x.rank ≤ y.rank := by
  have hmono := F.magnitudeValue_strictMono
  have hx := F.magnitudeValue_nonneg x.magnitude
  have hy := F.magnitudeValue_nonneg y.magnitude
  have hzero {m : ℕ} : F.magnitudeValue m ≤ 0 ↔ m = 0 := by
    rw [← F.magnitudeValue_zero, hmono.le_iff_le, Nat.le_zero]
  rw [value, value, rank, rank]
  rcases x.negative with _ | _ <;> rcases y.negative with _ | _
  · rw [if_neg (by decide), if_neg (by decide), if_neg (by decide), if_neg (by decide),
      hmono.le_iff_le, Int.ofNat_le]
  · -- a number that is not negative is below one that is not positive only if both are zero
    rw [if_neg (by decide), if_pos rfl, if_neg (by decide), if_pos rfl]
    constructor
    · intro hle
      have hx0 := hzero.1 (hle.trans (neg_nonpos.2 hy))
      have hy0 := hzero.1 (by linarith)
      rw [hx0, hy0]
      decide
    · intro hle
      obtain ⟨hx0, hy0⟩ : x.magnitude = 0 ∧ y.magnitude = 0 := by omega
      rw [hx0, hy0, F.magnitudeValue_zero, neg_zero]
  · rw [if_pos rfl, if_neg (by decide), if_pos rfl, if_neg (by decide)]
    exact iff_of_true (by linarith) (by omega)
  · rw [if_pos rfl, if_pos rfl, if_pos rfl, if_pos rfl, neg_le_neg_iff, hmono.le_iff_le]
    omega

lemma value_eq_value_iff : x.value = y.value ↔ x.rank = y.rank := by
  rw [le_antisymm_iff, le_antisymm_iff, value_le_value_iff, value_le_value_iff]

/-- A word that is a number or infinity is not above another one if its number is not. -/
lemma le_iff : x.le y = true ↔ x.isNaN = false ∧ y.isNaN = false ∧ x.value ≤ y.value := by
  rw [value_le_value_iff]
  simp [le, and_assoc]

lemma same_iff : x.same y = true ↔ x.isNaN = false ∧ y.isNaN = false ∧ x.value = y.value := by
  rw [value_eq_value_iff]
  simp [same, and_assoc]

lemma lt_iff : x.lt y = true ↔ x.isNaN = false ∧ y.isNaN = false ∧ x.value < y.value := by
  rw [← not_le, value_le_value_iff, not_le]
  simp [lt, and_assoc]

/-! ### A total preorder -/

lemma same_refl_of_isNaN_eq_false (hx : x.isNaN = false) : x.same x = true :=
  same_iff.2 ⟨hx, hx, rfl⟩

lemma le_refl_of_isNaN_eq_false (hx : x.isNaN = false) : x.le x = true :=
  le_iff.2 ⟨hx, hx, le_refl _⟩

lemma le_trans_of_le (hxy : x.le y = true) (hyz : y.le z = true) : x.le z = true := by
  obtain ⟨hx, -, hle⟩ := le_iff.1 hxy
  obtain ⟨-, hz, hle'⟩ := le_iff.1 hyz
  exact le_iff.2 ⟨hx, hz, hle.trans hle'⟩

lemma le_of_not_lt (hx : x.isNaN = false) (hy : y.isNaN = false) (hlt : ¬x.lt y = true) :
    y.le x = true := by
  refine le_iff.2 ⟨hy, hx, ?_⟩
  by_contra hle
  exact hlt (lt_iff.2 ⟨hx, hy, not_le.1 hle⟩)

lemma le_of_lt (hlt : x.lt y = true) : x.le y = true := by
  obtain ⟨hx, hy, hvalue⟩ := lt_iff.1 hlt
  exact le_iff.2 ⟨hx, hy, hvalue.le⟩

/-- Words that are not below each other are the same number. -/
lemma same_of_le_of_le (hxy : x.le y = true) (hyx : y.le x = true) : x.same y = true := by
  obtain ⟨hx, hy, hle⟩ := le_iff.1 hxy
  obtain ⟨-, -, hge⟩ := le_iff.1 hyx
  exact same_iff.2 ⟨hx, hy, le_antisymm hle hge⟩

/-- Infinity is above every number, and no number is above it. -/
lemma isFinite_of_le_of_le (hx : x.isFinite = true) (hz : z.isFinite = true)
    (hxy : x.le y = true) (hyz : y.le z = true) : y.isFinite = true := by
  obtain ⟨-, -, hle⟩ := le_iff.1 hxy
  obtain ⟨-, -, hle'⟩ := le_iff.1 hyz
  rw [value_le_value_iff] at hle hle'
  rw [isFinite_iff] at hx hz ⊢
  simp only [rank] at hle hle'
  split_ifs at hle hle' <;> omega

lemma le_iff_of_isFinite (hx : x.isFinite = true) (hy : y.isFinite = true) :
    x.le y = true ↔ x.value ≤ y.value := by
  simp [le_iff, isNaN_of_isFinite hx, isNaN_of_isFinite hy]

/-! ### Infinity and the turned sign -/

lemma isNaN_infinite (hF : F.Regular) (negative : Bool) :
    (infinite negative : Floating F).isNaN = false := by
  rw [isNaN_eq_false_iff, infinite, magnitude_ofMagnitude _ hF infinity_lt_signWeight]

/-- Every number is at most infinity. -/
lemma le_infinite (hF : F.Regular) (hx : x.isNaN = false) : x.le (infinite false) = true := by
  refine le_iff.2 ⟨hx, isNaN_infinite hF false, value_le_value_iff.2 ?_⟩
  have hmagnitude := isNaN_eq_false_iff.1 hx
  rw [rank, rank, infinite, magnitude_ofMagnitude _ hF infinity_lt_signWeight,
    negative_ofMagnitude _ hF infinity_lt_signWeight, if_neg Bool.false_ne_true]
  split <;> omega

lemma magnitude_neg (hF : F.Regular) : x.neg.magnitude = x.magnitude :=
  magnitude_ofMagnitude _ hF (Nat.mod_lt _ (Nat.two_pow_pos _))

lemma negative_neg (hF : F.Regular) : x.neg.negative = !x.negative :=
  negative_ofMagnitude _ hF (Nat.mod_lt _ (Nat.two_pow_pos _))

lemma neg_neg (hF : F.Regular) : x.neg.neg = x := by
  rw [neg, magnitude_neg hF, negative_neg hF, Bool.not_not, ofMagnitude_magnitude hF]

lemma isNaN_neg (hF : F.Regular) : x.neg.isNaN = x.isNaN := by
  rw [isNaN, isNaN, magnitude_neg hF]

lemma rank_neg (hF : F.Regular) : x.neg.rank = -x.rank := by
  rw [rank, rank, magnitude_neg hF, negative_neg hF]
  cases x.negative <;> simp

/-- Turned signs turn the order around. -/
lemma lt_neg_neg (hF : F.Regular) : x.neg.lt y.neg = y.lt x := by
  rw [lt, lt, isNaN_neg hF, isNaN_neg hF, rank_neg hF, rank_neg hF, Bool.and_comm (!x.isNaN)]
  simp only [neg_lt_neg_iff]

lemma le_neg_right (hF : F.Regular) : x.le y.neg = y.le x.neg := by
  rw [le, le, isNaN_neg hF, isNaN_neg hF, rank_neg hF, rank_neg hF, Bool.and_comm (!x.isNaN)]
  simp only [le_neg]

lemma same_neg_left (hF : F.Regular) : x.neg.same y = x.same y.neg := by
  rw [same, same, isNaN_neg hF, isNaN_neg hF, rank_neg hF, rank_neg hF]
  simp only [neg_eq_iff_eq_neg]

end Seismogram.Number.Floating
