/-
# Numbers that are written with seven digits and read again

Writing a word and reading it rounds twice, on the scale of decimals and then on the scale
of words.  `Resaved` says what comes out of it; `real?_general` says that this is what is
read.

A word that came out of it comes out of it again (`resaved_resaved`).  Only where one scale
gets coarser at the decimal and the other one at the word could it be otherwise.  Decimals
do so at the powers of ten, words at the powers of two, and of the powers of ten in range
only 1 is next to a power of two: it is a power of two (`fine_at_powers`).
-/
import Seismogram.Proofs.Decimal.General
import Seismogram.Proofs.Decimal.Shape

namespace Seismogram.Decimal

open Seismogram.Number
open Format (single)

variable {x y : Single} {m n : ℕ}

/-- The word that is read where a word was written with seven significant digits. -/
inductive Resaved (x : Single) : Single → Prop
  | nan (h : x.isNaN = true) : Resaved x (.nan false)
  | infinite (h : x.isInfinite = true) : Resaved x x
  | zero (h : x.isZero = true) : Resaved x x
  /-- A number is rounded to seven digits, the decimal to the nearest word. -/
  | rounded {y : Single} {d : ℚ} (hx : x.isFinite = true) (hx0 : x.isZero = false)
      (hy : y.isFinite = true) (hsign : y.negative = x.negative)
      (hdecimal : (significantScale 7).Nearest (single.magnitudeValue x.magnitude) d)
      (hword : single.scale.Nearest d (single.magnitudeValue y.magnitude)) : Resaved x y

/-! ### Magnitudes -/

/-- The decimal that a finite magnitude is written as. -/
def written (m : ℕ) : Significant := significant 7 (single.magnitudeValue m)

/-- The magnitude that is read where a finite magnitude was written. -/
def reread (m : ℕ) : ℕ := single.nearestMagnitude ((written m).value 7)

lemma written_spec (hm : m ≠ 0) :
    10 ^ 6 ≤ (written m).coefficient ∧ (written m).coefficient < 10 ^ 7 ∧
      (significantScale 7).Nearest (single.magnitudeValue m) ((written m).value 7) :=
  significant_spec (p := 7) (by decide) (single.magnitudeValue_pos hm)

lemma written_mono (hm : m ≠ 0) (hmn : m ≤ n) : (written m).value 7 ≤ (written n).value 7 :=
  significant_mono (p := 7) (by decide) (single.magnitudeValue_pos hm)
    (single.magnitudeValue_strictMono.monotone hmn)

lemma reread_mono (hm : m ≠ 0) (hmn : m ≤ n) : reread m ≤ reread n :=
  single.nearestMagnitude_mono Format.regular_single (Significant.value_nonneg 7 _)
    (written_mono hm hmn)

lemma written_zero : written 0 = ⟨0, 0⟩ := by decide +kernel

lemma reread_zero : reread 0 = 0 := by decide +kernel

/-- No word is written as a number that is too small or too large to be read. -/
lemma reread_mem (hm : m ≠ 0) (hm' : m < single.infinity) :
    reread m ≠ 0 ∧ reread m < single.infinity := by
  -- it is enough to look at the least magnitude and at the largest finite one
  have hlow : 1 ≤ reread 1 := by decide +kernel
  have hhigh : reread (single.infinity - 1) < single.infinity := by decide +kernel
  have hle := reread_mono Nat.one_ne_zero (Nat.one_le_iff_ne_zero.2 hm)
  have hge := reread_mono hm (Nat.le_sub_one_of_lt hm')
  omega

/-- The decimal exponents of words. -/
lemma exponent_written_mem (hm' : m < single.infinity) :
    -45 ≤ (written m).exponent ∧ (written m).exponent ≤ 38 := by
  by_cases hm : m = 0
  · rw [hm, written_zero]
    decide
  obtain ⟨hc, hc', -⟩ := written_spec hm
  obtain ⟨hbegin, hend⟩ := Significant.value_mem (by decide) hc hc'
  have hle := written_mono Nat.one_ne_zero (Nat.one_le_iff_ne_zero.2 hm)
  have hge := written_mono hm (Nat.le_sub_one_of_lt hm')
  have hlow : (10 : ℚ) ^ (-45 : ℤ) ≤ (written 1).value 7 := by decide +kernel
  have hhigh : (written (single.infinity - 1)).value 7 < (10 : ℚ) ^ (39 : ℤ) := by decide +kernel
  have hten : (1 : ℚ) < 10 := by norm_num
  have habove := (zpow_lt_zpow_iff_right₀ hten).1 (lt_of_le_of_lt (hlow.trans hle) hend)
  have hbelow := (zpow_lt_zpow_iff_right₀ hten).1 (lt_of_le_of_lt (hbegin.trans hge) hhigh)
  omega

/-! ### The second time -/

/-- The powers of ten in the range of words are apart from the powers of two, where the
gaps between words change, except for 1. -/
lemma fine_at_powers : ∀ k : Fin 84,
    let r : ℚ := 10 ^ ((k.val : ℤ) - 45)
    let n := single.nearestMagnitude r
    r = single.magnitudeValue n ∨ single.step (n - 1) = single.step n := by
  decide +kernel

/-- Where a decimal is not a word itself, one of the scales does not get coarser. -/
lemma fineAbove_written (hm : m ≠ 0) (hm' : m < single.infinity)
    (hne : (written m).value 7 ≠ single.magnitudeValue (reread m)) :
    single.scale.FineAbove (single.magnitudeValue (reread m)) ∨
      (significantScale 7).FineAbove ((written m).value 7) := by
  obtain ⟨hc, hc', -⟩ := written_spec hm
  rcases hc.eq_or_lt with hpower | hlt
  · -- the decimal is a power of ten, and one of the 84 of `fine_at_powers`
    left
    have hvalue : (written m).value 7 = 10 ^ (written m).exponent := by
      rw [Significant.value, ← hpower]
      exact begin_mul_unit 7 _
    obtain ⟨hlow, hhigh⟩ := exponent_written_mem hm'
    have hfine := fine_at_powers ⟨((written m).exponent + 45).toNat, by omega⟩
    have hexponent : (((written m).exponent + 45).toNat : ℤ) - 45 = (written m).exponent := by omega
    simp only [hexponent, ← hvalue] at hfine
    exact single.fineAbove_scale (hfine.resolve_left hne)
  · -- any other decimal has the next one of its decade above it
    right
    exact fineAbove_significantScale (by decide) hlt hc' _

lemma reread_reread (hm : m < single.infinity) : reread (reread m) = reread m := by
  rcases Nat.eq_zero_or_pos m with rfl | hpos
  · rw [reread_zero, reread_zero]
  have hm0 : m ≠ 0 := hpos.ne'
  obtain ⟨hn0, hn⟩ := reread_mem hm0 hm
  have hd := (written_spec hm0).2.2
  have hy := single.nearest_nearestMagnitude Format.regular_single (Significant.value_nonneg 7 _) hn
  have hd' := (written_spec hn0).2.2
  by_cases heq : (written m).value 7 = single.magnitudeValue (reread m)
  · -- the decimal is a word, which is written as that decimal
    have hself := Scale.nearest_self hd.mark
    rw [heq] at hself
    have hsame := hd'.unique (separated_significantScale (by decide)) hself
    rw [reread, hsame, ← heq]
    rfl
  · -- the second magnitude is the first one before it is capped at infinity, and so after it
    obtain ⟨k, hk, hy'⟩ := single.nearestMagnitude_spec Format.regular_single
      (Significant.value_nonneg 7 (written (reread m)))
    have hagain := Scale.Nearest.again single.separated_scale
      (separated_significantScale (by decide)) single.gapsGrow_scale
      (single.isMark_magnitudeValue m) hd hy hd' hy' (fineAbove_written hm0 hm heq)
    obtain rfl := single.magnitudeValue_strictMono.injective hagain
    rw [reread, hk]
    exact min_eq_left hn.le

/-! ### Words -/

/-- The word that is read where a word was written. -/
def resaved (x : Single) : Single :=
  if x.isFinite then .ofMagnitude x.negative (reread x.magnitude)
  else if x.isNaN then .nan false
  else x

lemma reread_lt (hm : m < single.infinity) : reread m < single.infinity := by
  rcases Nat.eq_zero_or_pos m with rfl | hpos
  · rwa [reread_zero]
  · exact (reread_mem hpos.ne' hm).2

lemma resaved_of_isFinite (hx : x.isFinite = true) :
    (resaved x).isFinite = true ∧ (resaved x).negative = x.negative ∧
      (resaved x).magnitude = reread x.magnitude := by
  have hm := reread_lt (Floating.isFinite_iff.1 hx)
  have hm' := hm.trans Floating.infinity_lt_signWeight
  have hmagnitude := Floating.magnitude_ofMagnitude x.negative Format.regular_single hm'
  rw [resaved, if_pos hx, Floating.isFinite_iff, hmagnitude]
  exact ⟨hm, Floating.negative_ofMagnitude _ Format.regular_single hm', rfl⟩

lemma resaved_of_isNaN (hx : x.isNaN = true) : resaved x = .nan false := by
  have hfinite : ¬x.isFinite = true := by
    rw [Floating.isNaN_iff] at hx
    rw [Floating.isFinite_iff]
    omega
  rw [resaved, if_neg hfinite, if_pos hx]

lemma resaved_of_isInfinite (hx : x.isInfinite = true) : resaved x = x := by
  rw [Floating.isInfinite_iff] at hx
  have hfinite : ¬x.isFinite = true := by
    rw [Floating.isFinite_iff]
    omega
  have hnan : ¬x.isNaN = true := by
    rw [Floating.isNaN_iff]
    omega
  rw [resaved, if_neg hfinite, if_neg hnan]

lemma resaved_of_isZero (hx : x.isZero = true) : resaved x = x := by
  have hzero := Floating.isZero_iff.1 hx
  have hfinite : x.isFinite = true := by
    rw [Floating.isFinite_iff, hzero]
    decide
  obtain ⟨-, hsign, hmagnitude⟩ := resaved_of_isFinite hfinite
  refine Floating.ext_magnitude Format.regular_single hsign ?_
  rw [hmagnitude, hzero, reread_zero]

/-- A word is finite, infinite or not a number. -/
lemma finite_or_infinite_or_nan (x : Single) :
    x.isFinite = true ∨ x.isInfinite = true ∨ x.isNaN = true := by
  rw [Floating.isFinite_iff, Floating.isInfinite_iff, Floating.isNaN_iff]
  exact lt_trichotomy _ _

/-- What comes out is what rounding twice gives. -/
lemma resaved_spec (x : Single) : Resaved x (resaved x) := by
  rcases finite_or_infinite_or_nan x with hfinite | hinfinite | hnan
  · by_cases hzero : x.isZero = true
    · rw [resaved_of_isZero hzero]
      exact .zero hzero
    · have hm : x.magnitude ≠ 0 := mt Floating.isZero_iff.2 hzero
      obtain ⟨hy, hsign, hmagnitude⟩ := resaved_of_isFinite hfinite
      refine .rounded hfinite (Bool.eq_false_iff.2 hzero) hy hsign (written_spec hm).2.2 ?_
      rw [hmagnitude]
      exact single.nearest_nearestMagnitude Format.regular_single (Significant.value_nonneg 7 _)
        (reread_lt (Floating.isFinite_iff.1 hfinite))
  · rw [resaved_of_isInfinite hinfinite]
    exact .infinite hinfinite
  · rw [resaved_of_isNaN hnan]
    exact .nan hnan

/-- Rounding twice leaves no choice. -/
theorem resaved_iff : Resaved x y ↔ y = resaved x := by
  constructor
  · intro h
    cases h with
    | nan hnan => exact (resaved_of_isNaN hnan).symm
    | infinite hinfinite => exact (resaved_of_isInfinite hinfinite).symm
    | zero hzero => exact (resaved_of_isZero hzero).symm
    | rounded hx hx0 hy hsign hdecimal hword =>
        obtain ⟨-, hsign', hmagnitude⟩ := resaved_of_isFinite hx
        have hm : x.magnitude ≠ 0 := of_decide_eq_false hx0
        -- there is one nearest decimal, and one word nearest to it
        have hd := (written_spec hm).2.2.unique (separated_significantScale (by decide)) hdecimal
        rw [← hd] at hword
        have hread := single.nearestMagnitude_eq Format.regular_single
          (Significant.value_nonneg 7 _) (Floating.isFinite_iff.1 hy) hword
        refine Floating.ext_magnitude Format.regular_single (hsign.trans hsign'.symm) ?_
        rw [hmagnitude, ← hread]
        rfl
  · rintro rfl
    exact resaved_spec x

/-- A word that was read is written and read without a change. -/
theorem resaved_resaved (x : Single) : resaved (resaved x) = resaved x := by
  rcases finite_or_infinite_or_nan x with hfinite | hinfinite | hnan
  · obtain ⟨hy, hsign, hmagnitude⟩ := resaved_of_isFinite hfinite
    obtain ⟨-, hsign', hmagnitude'⟩ := resaved_of_isFinite hy
    refine Floating.ext_magnitude Format.regular_single hsign' ?_
    rw [hmagnitude', hmagnitude]
    exact reread_reread (Floating.isFinite_iff.1 hfinite)
  · rw [resaved_of_isInfinite hinfinite, resaved_of_isInfinite hinfinite]
  · rw [resaved_of_isNaN hnan]
    exact resaved_of_isNaN (by decide)

/-! ### What is written and what is read -/

lemma general_eq_written (hx : x.isFinite = true) :
    general 7 x = sign x.negative ++ (written x.magnitude).text 7 := by
  have hfits : (significant 7 |x.value|).FitsWords 7 := fun hlow _ => ⟨by decide, by omega⟩
  rw [general_of_isFinite (by decide) hx hfits, Floating.abs_value, written]

lemma written_coefficient_lt (m : ℕ) : (written m).coefficient < 10 ^ 7 := by
  rcases Nat.eq_zero_or_pos m with rfl | hpos
  · rw [written_zero]
    decide
  · exact (written_spec hpos.ne').2.1

/-- The decimal that was written is within the range in which decimals are read. -/
lemma magnitude_written (hm : m < single.infinity) :
    DecimalNumeral.magnitude single
      ⟨(written m).coefficient, (written m).exponent - ((7 - 1 : ℕ) : ℤ)⟩ = reread m := by
  have hdigits : digitCount (written m).coefficient ≤ 7 :=
    Nat.toDigits_length 10 _ 7 (by decide) (written_coefficient_lt m)
  obtain ⟨hlow, hhigh⟩ := exponent_written_mem hm
  rw [magnitude_eq]
  · rfl
  · rw [exponentBound]
    dsimp only
    omega

lemma real?_infinite (negative : Bool) :
    real? single (sign negative ++ ['i', 'n', 'f']) = some (.infinite negative) := by
  cases negative <;> rfl

lemma general_of_isInfinite (hx : x.isInfinite = true) :
    general 7 x = sign x.negative ++ ['i', 'n', 'f'] := by
  have hmagnitude := Floating.isInfinite_iff.1 hx
  rw [general, if_neg, nonFinite, if_neg]
  · rw [Floating.isNaN_iff]
    omega
  · rw [Floating.isFinite_iff]
    omega

lemma general_of_isNaN (hx : x.isNaN = true) : general 7 x = ['N', 'a', 'N'] := by
  have hmagnitude := Floating.isNaN_iff.1 hx
  rw [general, if_neg, nonFinite, if_pos hx]
  rw [Floating.isFinite_iff]
  omega

/-- What is read is the word rounded twice. -/
lemma real?_general (x : Single) : real? single (general 7 x) = some (resaved x) := by
  rcases finite_or_infinite_or_nan x with hfinite | hinfinite | hnan
  · rw [general_eq_written hfinite, real?_sign _ _ (exists_head?_text (by decide) _),
      decimal?_text (by decide), Option.map_some,
      magnitude_written (Floating.isFinite_iff.1 hfinite), resaved, if_pos hfinite]
  · rw [general_of_isInfinite hinfinite, real?_infinite, resaved_of_isInfinite hinfinite,
      Floating.infinite, ← Floating.isInfinite_iff.1 hinfinite,
      Floating.ofMagnitude_magnitude Format.regular_single]
  · rw [general_of_isNaN hnan, resaved_of_isNaN hnan]
    rfl

/-- A number takes up at most 13 of the 15 characters of its column. -/
lemma length_general_le (x : Single) : (general 7 x).length ≤ 13 := by
  have hsign := length_sign_le x.negative
  rcases finite_or_infinite_or_nan x with hfinite | hinfinite | hnan
  · obtain ⟨hlow, hhigh⟩ := exponent_written_mem (Floating.isFinite_iff.1 hfinite)
    have htext := length_text_le (by decide) (written_coefficient_lt x.magnitude) (by omega)
    rw [general_eq_written hfinite, List.length_append]
    omega
  · rw [general_of_isInfinite hinfinite, List.length_append]
    exact (Nat.add_le_add_right hsign 3).trans (by decide)
  · rw [general_of_isNaN hnan]
    decide

lemma general_ne_nil (x : Single) : general 7 x ≠ [] := by
  intro hnil
  have hread := real?_general x
  rw [hnil] at hread
  exact absurd hread (by simp [real?, splitSign, lowered, decimal?, splitDigits])

lemma isWord_general (x : Single) : Text.IsWord (general 7 x) :=
  isWord_of_isGraphic (general_ne_nil x) (isGraphic_general 7 x)

end Seismogram.Decimal
