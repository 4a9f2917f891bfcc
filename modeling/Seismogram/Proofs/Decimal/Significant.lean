/-
# The scale of significant digits

The decimals with `p` significant digits are the marks of a scale, one decade after the
other.  A number lies in one decade and is rounded to a multiple of that decade's unit,
which may be the first decimal of the next decade.  `significant_spec` says that the
coefficient has `p` digits and that the decimal is the nearest one.

All of this needs at least two digits: with one digit the first decimal of a decade is odd.
-/
import Mathlib.Tactic.Positivity
import Mathlib.Tactic.Ring
import Seismogram.Decimal.Significant
import Seismogram.Proofs.Number.Scale

namespace Seismogram.Decimal

open Seismogram.Number

variable {p c d : ℕ} {e f : ℤ} {r r' q : ℚ}

/-- The number that significant digits stand for. -/
def Significant.value (p : ℕ) (d : Significant) : ℚ :=
  d.coefficient * 10 ^ (d.exponent - ((p - 1 : ℕ) : ℤ))

/-- The decimals with `p` significant digits. -/
def significantScale (p : ℕ) : Scale where
  IsMark q := ∃ (c : ℕ) (e : ℤ), 10 ^ (p - 1) ≤ c ∧ c < 10 ^ p ∧ q = c * 10 ^ e
  IsEven q := ∃ (c : ℕ) (e : ℤ), 10 ^ (p - 1) ≤ c ∧ c < 10 ^ p ∧ c % 2 = 0 ∧ q = c * 10 ^ e

/-! ### Decades -/

lemma pow_eq_mul (hp : 1 ≤ p) : 10 ^ p = 10 ^ (p - 1) * 10 := by
  rw [← pow_succ, Nat.sub_add_cancel hp]

lemma pow_even (hp : 2 ≤ p) : 10 ^ (p - 1) % 2 = 0 := by
  obtain ⟨k, hk⟩ : ∃ k, p - 1 = k + 1 := ⟨p - 2, by omega⟩
  rw [hk, pow_succ]
  omega

/-- The end of a decade is the beginning of the next one. -/
lemma decade_end (hp : 1 ≤ p) (e : ℤ) :
    ((10 ^ p : ℕ) : ℚ) * 10 ^ e = (10 ^ (p - 1) : ℕ) * 10 ^ (e + 1) := by
  rw [pow_eq_mul hp, zpow_add_one₀ (by norm_num)]
  push_cast
  ring

/-- In units of a decade, the decade begins with `p` digits. -/
lemma begin_mul_unit (p : ℕ) (k : ℤ) :
    ((10 ^ (p - 1) : ℕ) : ℚ) * 10 ^ (k - ((p - 1 : ℕ) : ℤ)) = 10 ^ k := by
  rw [Nat.cast_pow, Nat.cast_ofNat, ← zpow_natCast, ← zpow_add₀ (by norm_num)]
  congr 1
  omega

lemma end_mul_unit (hp : 1 ≤ p) (k : ℤ) :
    ((10 ^ p : ℕ) : ℚ) * 10 ^ (k - ((p - 1 : ℕ) : ℤ)) = 10 ^ (k + 1) := by
  rw [decade_end hp, sub_add_eq_add_sub, begin_mul_unit]

lemma mul_zpow_lt (h : c < d) (e : ℤ) : (c : ℚ) * 10 ^ e < d * 10 ^ e := by
  have hcast : (c : ℚ) < d := by exact_mod_cast h
  exact mul_lt_mul_of_pos_right hcast (zpow_pos (by norm_num) e)

lemma mul_zpow_le (h : c ≤ d) (e : ℤ) : (c : ℚ) * 10 ^ e ≤ d * 10 ^ e := by
  have hcast : (c : ℚ) ≤ d := by exact_mod_cast h
  exact mul_le_mul_of_nonneg_right hcast (zpow_nonneg (by norm_num) e)

/-- What a decade ends with is at most what any later decade begins with. -/
lemma decade_end_le (hp : 1 ≤ p) (hef : e < f) (hd : 10 ^ (p - 1) ≤ d) :
    ((10 ^ p : ℕ) : ℚ) * 10 ^ e ≤ d * 10 ^ f := by
  calc ((10 ^ p : ℕ) : ℚ) * 10 ^ e = (10 ^ (p - 1) : ℕ) * 10 ^ (e + 1) := decade_end hp e
    _ ≤ (10 ^ (p - 1) : ℕ) * 10 ^ f :=
        mul_le_mul_of_nonneg_left (zpow_le_zpow_right₀ (by norm_num) hef) (by positivity)
    _ ≤ d * 10 ^ f := mul_zpow_le hd f

/-- A smaller decimal lies in an earlier decade, or in the same one before it. -/
lemma lt_cases (hp : 1 ≤ p) (hc : 10 ^ (p - 1) ≤ c) (hd' : d < 10 ^ p)
    (h : (c : ℚ) * 10 ^ e < d * 10 ^ f) : e < f ∨ e = f ∧ c < d := by
  rcases lt_trichotomy e f with hlt | rfl | hgt
  · exact Or.inl hlt
  · refine Or.inr ⟨rfl, ?_⟩
    by_contra hge
    exact absurd h (not_lt.2 (mul_zpow_le (by omega) e))
  · have hend := decade_end_le hp hgt hc
    exact absurd (h.trans (mul_zpow_lt hd' f)) (not_lt.2 hend)

lemma isMark (hc : 10 ^ (p - 1) ≤ c) (hc' : c < 10 ^ p) (e : ℤ) :
    (significantScale p).IsMark (c * 10 ^ e) := ⟨c, e, hc, hc', rfl⟩

/-- The end of a decade counts as a decimal too. -/
lemma isMark_of_le (hp : 1 ≤ p) (hc : 10 ^ (p - 1) ≤ c) (hc' : c ≤ 10 ^ p) (e : ℤ) :
    (significantScale p).IsMark (c * 10 ^ e) := by
  rcases Nat.lt_or_eq_of_le hc' with hlt | rfl
  · exact isMark hc hlt e
  · rw [decade_end hp]
    exact isMark le_rfl (Nat.pow_lt_pow_right (by decide) (by omega)) (e + 1)

lemma isEven_of_le (hp : 2 ≤ p) (hc : 10 ^ (p - 1) ≤ c) (hc' : c ≤ 10 ^ p) (heven : c % 2 = 0)
    (e : ℤ) : (significantScale p).IsEven (c * 10 ^ e) := by
  rcases Nat.lt_or_eq_of_le hc' with hlt | rfl
  · exact ⟨c, e, hc, hlt, heven, rfl⟩
  · rw [decade_end (Nat.le_of_succ_le hp)]
    exact ⟨_, e + 1, le_rfl, Nat.pow_lt_pow_right (by decide) (by omega), pow_even hp, rfl⟩

lemma separated_significantScale (hp : 2 ≤ p) : (significantScale p).Separated := by
  rintro _ _ ⟨c, e, hc, hc', hceven, rfl⟩ ⟨d, f, hd, hd', hdeven, rfl⟩ hlt
  have hp' : 1 ≤ p := Nat.le_of_succ_le hp
  have hnext : c + 1 < 10 ^ p := by
    have heven := pow_even hp
    have hten := pow_eq_mul hp'
    omega
  refine ⟨_, isMark (Nat.le_succ_of_le hc) hnext e, mul_zpow_lt (Nat.lt_succ_self c) e, ?_⟩
  rcases lt_cases hp' hc hd' hlt with hef | ⟨rfl, hcd⟩
  · exact lt_of_lt_of_le (mul_zpow_lt hnext e) (decade_end_le hp' hef hd)
  · exact mul_zpow_lt (by omega) e

/-- Only a power of ten is finer below than above. -/
lemma fineAbove_significantScale (hp : 1 ≤ p) (hc : 10 ^ (p - 1) < c) (hc' : c < 10 ^ p) (e : ℤ) :
    (significantScale p).FineAbove (c * 10 ^ e) := by
  rintro _ ⟨d, f, hd, hd', rfl⟩ hlt
  have hbelow : (d : ℚ) * 10 ^ f ≤ (c - 1 : ℕ) * 10 ^ e := by
    rcases lt_cases hp hd hc' hlt with hfe | ⟨rfl, hdc⟩
    · exact ((mul_zpow_lt hd' f).trans_le (decade_end_le hp hfe (Nat.le_sub_one_of_lt hc))).le
    · exact mul_zpow_le (Nat.le_sub_one_of_lt hdc) f
  rw [Nat.cast_sub (Nat.one_le_of_lt hc), Nat.cast_one] at hbelow
  have hnext := isMark_of_le hp (Nat.le_succ_of_le hc.le) hc' e
  refine ⟨_, hnext, mul_zpow_lt (Nat.lt_succ_self c) e, ?_⟩
  rw [Nat.cast_succ]
  linarith

/-! ### The nearest decimal -/

/-- From the beginning of a decade on, all decimals are multiples of its unit. -/
lemma exists_multiple (hp : 1 ≤ p) (hq : (significantScale p).IsMark q)
    (hle : ((10 ^ (p - 1) : ℕ) : ℚ) * 10 ^ e ≤ q) : ∃ c : ℕ, q = c * 10 ^ e := by
  obtain ⟨c, f, hc, hc', rfl⟩ := hq
  have hef : e ≤ f := by
    by_contra hlt
    have hbefore := decade_end_le hp (lt_of_not_ge hlt) (le_refl (10 ^ (p - 1)))
    exact absurd ((mul_zpow_lt hc' f).trans_le hbefore) (not_lt.2 hle)
  obtain ⟨j, rfl⟩ : ∃ j : ℕ, f = e + j := ⟨(f - e).toNat, by omega⟩
  refine ⟨c * 10 ^ j, ?_⟩
  rw [zpow_add₀ (by norm_num), zpow_natCast]
  push_cast
  ring

/-- The nearest decimal is the nearest multiple of the unit of the decade. -/
lemma nearest_coefficient (hp : 2 ≤ p) (hlow : ((10 ^ (p - 1) : ℕ) : ℚ) * 10 ^ e ≤ r)
    (hhigh : r ≤ ((10 ^ p : ℕ) : ℚ) * 10 ^ e) :
    let c := (roundHalfEven (r / 10 ^ e)).toNat
    10 ^ (p - 1) ≤ c ∧ c ≤ 10 ^ p ∧ (significantScale p).Nearest r (c * 10 ^ e) := by
  refine Scale.nearest_roundHalfEven _ _ (zpow_pos (by norm_num) e) hlow hhigh ?_ ?_ ?_
  · intro c hc hc'
    exact isMark_of_le (Nat.le_of_succ_le hp) hc hc' e
  · intro q hq hle
    exact exists_multiple (Nat.le_of_succ_le hp) hq hle
  · intro c hc hc' heven
    exact isEven_of_le hp hc hc' heven e

/-- The decade that a positive number lies in, by its unit. -/
lemma decade_spec (hp : 1 ≤ p) (hr : 0 < r) :
    ((10 ^ (p - 1) : ℕ) : ℚ) * 10 ^ (log10Floor r - ((p - 1 : ℕ) : ℤ)) ≤ r ∧
      r < ((10 ^ p : ℕ) : ℚ) * 10 ^ (log10Floor r - ((p - 1 : ℕ) : ℤ)) := by
  rw [begin_mul_unit, end_mul_unit hp]
  exact log10Floor_spec hr

/-- The significant digits are the number in units of its decade, rounded, or the beginning of
the next decade if that is what it was rounded up to. -/
lemma significant_cases (hp : 1 ≤ p) (hr : 0 < r) :
    ∃ c : ℕ, roundHalfEven (r / 10 ^ (log10Floor r - ((p - 1 : ℕ) : ℤ))) = c ∧
      (10 ^ (p - 1) ≤ c ∧ c < 10 ^ p ∧ significant p r = ⟨c, log10Floor r⟩ ∨
        c = 10 ^ p ∧ significant p r = ⟨10 ^ (p - 1), log10Floor r + 1⟩) := by
  obtain ⟨hlow, hhigh⟩ := decade_spec hp hr
  have hunit : (0 : ℚ) < 10 ^ (log10Floor r - ((p - 1 : ℕ) : ℤ)) := zpow_pos (by norm_num) _
  have hround := le_roundHalfEven (n := ((10 ^ (p - 1) : ℕ) : ℤ)) ((le_div_iff₀ hunit).2 hlow)
  have hround' := roundHalfEven_le (n := ((10 ^ p : ℕ) : ℤ)) ((div_le_iff₀ hunit).2 hhigh.le)
  obtain ⟨c, hc⟩ := Int.eq_ofNat_of_zero_le ((Int.natCast_nonneg _).trans hround)
  refine ⟨c, hc, ?_⟩
  rw [hc] at hround hround'
  rw [significant, if_neg hr.ne']
  dsimp only
  rw [hc, Int.toNat_natCast]
  rcases Nat.lt_or_eq_of_le (Int.ofNat_le.1 hround') with hlt | heq
  · exact Or.inl ⟨Int.ofNat_le.1 hround, hlt, if_pos hlt⟩
  · exact Or.inr ⟨heq, if_neg (by rw [heq]; exact Nat.lt_irrefl _)⟩

/-- In either case they stand for the rounded number of units. -/
lemma significant_value (hp : 1 ≤ p) (hr : 0 < r) :
    10 ^ (p - 1) ≤ (significant p r).coefficient ∧ (significant p r).coefficient < 10 ^ p ∧
      (significant p r).value p = roundHalfEven (r / 10 ^ (log10Floor r - ((p - 1 : ℕ) : ℤ)))
        * 10 ^ (log10Floor r - ((p - 1 : ℕ) : ℤ)) := by
  obtain ⟨c, hc, ⟨hlow, hhigh, heq⟩ | ⟨rfl, heq⟩⟩ := significant_cases hp hr
  · rw [heq, hc, Int.cast_natCast]
    exact ⟨hlow, hhigh, rfl⟩
  · rw [heq, hc, Int.cast_natCast, decade_end hp, Significant.value]
    refine ⟨le_rfl, Nat.pow_lt_pow_right (by decide) (by omega), ?_⟩
    rw [show log10Floor r + 1 - ((p - 1 : ℕ) : ℤ) = log10Floor r - ((p - 1 : ℕ) : ℤ) + 1 by omega]

/-- A number is rounded to the nearest of the decimals with `p` significant digits. -/
lemma significant_spec (hp : 2 ≤ p) (hr : 0 < r) :
    10 ^ (p - 1) ≤ (significant p r).coefficient ∧ (significant p r).coefficient < 10 ^ p ∧
      (significantScale p).Nearest r ((significant p r).value p) := by
  have hp' : 1 ≤ p := Nat.le_of_succ_le hp
  obtain ⟨hlow, hhigh, hvalue⟩ := significant_value hp' hr
  obtain ⟨hbegin, hend⟩ := decade_spec hp' hr
  obtain ⟨c, hc, -⟩ := significant_cases hp' hr
  have hnearest := (nearest_coefficient hp hbegin hend.le).2.2
  rw [hvalue, hc, Int.cast_natCast]
  rw [hc, Int.toNat_natCast] at hnearest
  exact ⟨hlow, hhigh, hnearest⟩

lemma significant_mono (hp : 2 ≤ p) (hr : 0 < r) (hle : r ≤ r') :
    (significant p r).value p ≤ (significant p r').value p := by
  have hnearest := (significant_spec hp hr).2.2
  have hnearest' := (significant_spec hp (lt_of_lt_of_le hr hle)).2.2
  exact hnearest.mono (separated_significantScale hp) hnearest' hle

lemma Significant.value_nonneg (p : ℕ) (d : Significant) : 0 ≤ d.value p :=
  mul_nonneg (Nat.cast_nonneg _) (zpow_nonneg (by norm_num) _)

/-- The exponent is that of the first digit. -/
lemma Significant.value_mem {d : Significant} (hp : 1 ≤ p) (hd : 10 ^ (p - 1) ≤ d.coefficient)
    (hd' : d.coefficient < 10 ^ p) :
    10 ^ d.exponent ≤ d.value p ∧ d.value p < 10 ^ (d.exponent + 1) := by
  rw [Significant.value, ← begin_mul_unit p, ← end_mul_unit hp]
  exact ⟨mul_zpow_le hd _, mul_zpow_lt hd' _⟩

/-! ### The two roundings -/

lemma roundedUnits_zero (places : ℕ) : roundedUnits places 0 = 0 := by
  have hzero : roundHalfEven ((0 : ℤ) : ℚ) = 0 := roundHalfEven_intCast 0
  rw [roundedUnits, zero_mul, ← Int.cast_zero, hzero]
  rfl

/-- In units of a decade's last digit, a number is a multiple of a power of ten. -/
lemma mul_pow_places (hp : 1 ≤ p) {k : ℤ} (hk : k < p) (r : ℚ) :
    r * 10 ^ ((p : ℤ) - 1 - k).toNat = r / 10 ^ (k - ((p - 1 : ℕ) : ℤ)) := by
  have hplaces : (((p : ℤ) - 1 - k).toNat : ℤ) = -(k - ((p - 1 : ℕ) : ℤ)) := by omega
  rw [div_eq_mul_inv, ← zpow_neg, ← zpow_natCast, hplaces]

/-- The number rounded by position is the number rounded to its significant digits, also where
these were rounded up to the next decade and there is one place less. -/
lemma roundedUnits_significant (hp : 1 ≤ p) (hr : 0 ≤ r) (hlt : (significant p r).exponent < p) :
    roundedUnits ((p : ℤ) - 1 - (significant p r).exponent).toNat r =
      (significant p r).coefficient := by
  rcases hr.eq_or_lt with rfl | hpos
  · rw [roundedUnits_zero, significant, if_pos rfl]
  obtain ⟨c, hc, ⟨hlow, hhigh, heq⟩ | ⟨rfl, heq⟩⟩ := significant_cases hp hpos
  · rw [heq] at hlt ⊢
    rw [roundedUnits, mul_pow_places hp hlt, hc, Int.toNat_natCast]
  · -- the tenth of a number that is at most half a unit below the next decade is nearer to it
    rw [heq] at hlt ⊢
    obtain ⟨-, hend⟩ := decade_spec hp hpos
    have hnear := (roundHalfEven_spec (r / 10 ^ (log10Floor r - ((p - 1 : ℕ) : ℤ)))).1
    have hunit : (0 : ℚ) < 10 ^ (log10Floor r - ((p - 1 : ℕ) : ℤ)) := zpow_pos (by norm_num) _
    rw [← div_lt_iff₀ hunit] at hend
    rw [hc, Int.cast_natCast, abs_le] at hnear
    rw [pow_eq_mul hp, Nat.cast_mul, Nat.cast_ofNat] at hnear hend
    rw [roundedUnits, mul_pow_places hp hlt,
      show log10Floor r + 1 - ((p - 1 : ℕ) : ℤ) = log10Floor r - ((p - 1 : ℕ) : ℤ) + 1 by omega,
      zpow_add_one₀ (by norm_num), ← div_div, roundHalfEven_of_near (n := ((10 ^ (p - 1) : ℕ) : ℤ)),
      Int.toNat_natCast]
    rw [Int.cast_natCast, abs_of_nonneg (by linarith)]
    linarith [hnear.2]

/-! ### Counts of digits in words -/

/-- A number that a word holds is its own limit. -/
lemma exponentLimit_of_lt (hp : p < 2 ^ 31) : exponentLimit p = p := Int32.toInt_ofNat_of_lt hp

/-- From the first number on that a word does not hold, the limit is lower by a whole turn. -/
lemma exponentLimit_le (hp : 2 ^ 31 ≤ p) : exponentLimit p ≤ p - 2 ^ 32 := by
  rw [exponentLimit, Int32.toInt_ofNat', Int.bmod_def, Int32.size]
  split <;> omega

lemma exponentLimit_le_self (p : ℕ) : exponentLimit p ≤ p := by
  rcases Nat.lt_or_ge p (2 ^ 31) with hlt | hge
  · exact (exponentLimit_of_lt hlt).le
  · have hle := exponentLimit_le hge
    omega

lemma placesLeft_lt (p : ℕ) (e : ℤ) : placesLeft p e < 2 ^ 31 := Int32.toNatClampNeg_lt _

/-- The places are counted right, if a word holds their number. -/
lemma placesLeft_eq (hlow : e < p) (hhigh : p ≤ e + 2 ^ 31) :
    placesLeft p e = ((p : ℤ) - 1 - e).toNat := by
  have hword : Int32.ofNat p - 1 - Int32.ofInt e = Int32.ofInt ((p : ℤ) - 1 - e) := by
    rw [Int32.ofInt_sub, Int32.ofInt_sub, Int32.ofInt_eq_ofNat]
    rfl
  rw [placesLeft, hword, ← Int32.toNat_toInt, Int32.toInt_ofInt_of_le (by omega) (by omega)]

/-- Where digits are written by position, words hold their number and that of the places. -/
def Significant.FitsWords (p : ℕ) (d : Significant) : Prop :=
  -4 ≤ d.exponent → d.exponent < p → p < 2 ^ 31 ∧ p ≤ d.exponent + 2 ^ 31

/-- The general form is then the text of the significant digits. -/
lemma generalMagnitude_eq (hp : 1 ≤ p) (hr : 0 ≤ r) (hfits : (significant p r).FitsWords p) :
    generalMagnitude p r = (significant p r).text p := by
  rw [generalMagnitude, Significant.text]
  dsimp only
  by_cases hposition : -4 ≤ (significant p r).exponent ∧ (significant p r).exponent < p
  · obtain ⟨hlt, hplaces⟩ := hfits hposition.1 hposition.2
    rw [exponentLimit_of_lt hlt, if_pos hposition, if_pos hposition,
      placesLeft_eq hposition.2 hplaces, roundedUnits_significant hp hr hposition.2]
  · have hle := exponentLimit_le_self p
    rw [if_neg hposition, if_neg (by omega)]

end Seismogram.Decimal
