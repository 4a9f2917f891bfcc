/-
# What the general form writes

A number that is not zero has a decade and in it `p` significant digits, the last of which
counts a unit.  Rounding takes the nearest multiple of that unit, which may be the beginning of
the next decade (`IsRounded`).  There is one such rounding, and it is the one that is made
(`isRounded_iff`).

The general form writes these digits and no others: by position with as many places as the
exponent leaves, or as a digit, a point and the other digits with an exponent (`IsGeneral`).  The
form with an exponent has no point where there is no other digit, and the form by position is not
the one that is due where a 32-bit word cannot count the digits or the places
(`isGeneral_general_iff`).  The places that were written are told by the point
(`IsPositional.places_eq`).
-/
import Mathlib.Tactic.Common
import Seismogram.Proofs.Decimal.Numeral
import Seismogram.Proofs.Decimal.Significant
import Seismogram.Proofs.Number.Exact

namespace Seismogram.Decimal

open Seismogram.Number
open Format (double)

variable {p places n : ℕ} {r : ℚ} {d d' : Significant} {F : Format} {x : Floating F}
  {point text : List Char}

/-! ### The digits -/

/-- The significant digits of a number that is not negative, `p` of them.  A number in a decade
is rounded to multiples of `10 ^ (k - (p - 1))`, the unit of its last digit: to the nearest one,
of two equally near to the even one. -/
inductive IsRounded (p : ℕ) (r : ℚ) (d : Significant) : Prop
  /-- All digits of zero are zeros, and its exponent is zero. -/
  | zero (hr : r = 0) (hd : d = ⟨0, 0⟩)
  /-- The first digit of any other number is not zero. -/
  | positive {k m : ℤ} (hlow : 10 ^ k ≤ r) (hhigh : r < 10 ^ (k + 1))
      (hnear : ∀ j : ℤ, |m * 10 ^ (k - ((p - 1 : ℕ) : ℤ)) - r| ≤
        |j * 10 ^ (k - ((p - 1 : ℕ) : ℤ)) - r|)
      (heven : ∀ j : ℤ, j ≠ m → |j * 10 ^ (k - ((p - 1 : ℕ) : ℤ)) - r| =
        |m * 10 ^ (k - ((p - 1 : ℕ) : ℤ)) - r| → m % 2 = 0)
      (hfirst : 10 ^ (p - 1) ≤ d.coefficient) (hlast : d.coefficient < 10 ^ p)
      (hvalue : d.value p = m * 10 ^ (k - ((p - 1 : ℕ) : ℤ)))

/-- A number lies in one decade. -/
lemma decade_unique {k j : ℤ} (hlow : 10 ^ k ≤ r) (hhigh : r < 10 ^ (k + 1))
    (hlow' : 10 ^ j ≤ r) (hhigh' : r < 10 ^ (j + 1)) : k = j := by
  have hkj := (zpow_lt_zpow_iff_right₀ (by norm_num : (1 : ℚ) < 10)).1 (hlow.trans_lt hhigh')
  have hjk := (zpow_lt_zpow_iff_right₀ (by norm_num : (1 : ℚ) < 10)).1 (hlow'.trans_lt hhigh)
  omega

/-- Digits whose first one is not zero are told by their number. -/
lemma Significant.eq_of_value_eq (hp : 1 ≤ p) (hd : 10 ^ (p - 1) ≤ d.coefficient)
    (hlt : d.coefficient < 10 ^ p) (hd' : 10 ^ (p - 1) ≤ d'.coefficient)
    (hlt' : d'.coefficient < 10 ^ p) (heq : d.value p = d'.value p) : d = d' := by
  obtain ⟨hlow, hhigh⟩ := Significant.value_mem hp hd hlt
  obtain ⟨hlow', hhigh'⟩ := Significant.value_mem hp hd' hlt'
  rw [heq] at hlow hhigh
  have hexponent := decade_unique hlow hhigh hlow' hhigh'
  obtain ⟨c, e⟩ := d
  obtain ⟨c', e'⟩ := d'
  obtain rfl : e = e' := hexponent
  rw [Significant.value, Significant.value,
    mul_left_inj' (zpow_ne_zero _ (by norm_num)), Nat.cast_inj] at heq
  rw [Significant.mk.injEq]
  exact ⟨heq, rfl⟩

lemma isRounded_significant (hp : 1 ≤ p) (hr : 0 ≤ r) : IsRounded p r (significant p r) := by
  rcases hr.eq_or_lt with hzero | hpos
  · exact .zero hzero.symm (by rw [significant, if_pos hzero.symm])
  obtain ⟨hlow, hhigh⟩ := log10Floor_spec hpos
  obtain ⟨hfirst, hlast, hvalue⟩ := significant_value hp hpos
  have hunit : (0 : ℚ) < 10 ^ (log10Floor r - ((p - 1 : ℕ) : ℤ)) := zpow_pos (by norm_num) _
  refine .positive hlow hhigh (fun j => ?_) (fun j hj htie => ?_) hfirst hlast hvalue
  · rw [Scale.abs_mul_sub hunit, Scale.abs_mul_sub hunit]
    refine mul_le_mul_of_nonneg_right ?_ hunit.le
    rcases eq_or_ne j (roundHalfEven (r / 10 ^ (log10Floor r - ((p - 1 : ℕ) : ℤ)))) with rfl | hj
    · exact le_rfl
    · exact (roundHalfEven_nearest hj).1
  · rw [Scale.abs_mul_sub hunit, Scale.abs_mul_sub hunit] at htie
    exact (roundHalfEven_nearest hj).2 (mul_right_cancel₀ hunit.ne' htie)

/-- There is one way to round a number to its significant digits. -/
lemma isRounded_iff (hp : 1 ≤ p) (hr : 0 ≤ r) : IsRounded p r d ↔ d = significant p r := by
  constructor
  · rintro (⟨rfl, rfl⟩ | ⟨hlow, hhigh, hnear, heven, hfirst, hlast, hvalue⟩)
    · rw [significant, if_pos rfl]
    · rename_i k m
      have hpos : 0 < r := (zpow_pos (by norm_num) k).trans_le hlow
      obtain ⟨hlow', hhigh'⟩ := log10Floor_spec hpos
      obtain rfl := decade_unique hlow hhigh hlow' hhigh'
      obtain ⟨hfirst', hlast', hvalue'⟩ := significant_value hp hpos
      have hunit : (0 : ℚ) < 10 ^ (log10Floor r - ((p - 1 : ℕ) : ℤ)) := zpow_pos (by norm_num) _
      simp only [Scale.abs_mul_sub hunit, mul_le_mul_iff_left₀ hunit,
        mul_left_inj' hunit.ne'] at hnear heven
      refine Significant.eq_of_value_eq hp hfirst hlast hfirst' hlast' ?_
      rw [hvalue, hvalue', eq_roundHalfEven hnear heven]
  · rintro rfl
    exact isRounded_significant hp hr

/-! ### The text -/

/-- Digits, a point and `places` digits more, which write `n` together.  In front there is no
zero but a single one. -/
inductive IsPositional (places n : ℕ) : List Char → Prop
  | mk {whole fraction : List Char} (hwhole : ∀ c ∈ whole, c.isDigit = true)
      (hfraction : ∀ c ∈ fraction, c.isDigit = true) (hplaces : fraction.length = places)
      (hfront : whole.length = 1 ∨ ∃ c ∈ whole.head?, c ≠ '0')
      (hvalue : naturalValue (whole ++ fraction) = n) :
      IsPositional places n (whole ++ '.' :: fraction)

/-- A digit, the point, the other digits and an exponent: `e`, a sign and at least two digits,
no more of them than needed. -/
inductive IsScientific (p : ℕ) (point : List Char) (d : Significant) : List Char → Prop
  | mk {first : Char} {later power : List Char} (hfirst : first.isDigit = true)
      (hlater : ∀ c ∈ later, c.isDigit = true) (hlength : later.length + 1 = p)
      (hvalue : naturalValue (first :: later) = d.coefficient)
      (hpower : ∀ c ∈ power, c.isDigit = true)
      (hwidth : power.length = 2 ∨ 2 < power.length ∧ ∃ c ∈ power.head?, c ≠ '0')
      (hexponent : naturalValue power = d.exponent.natAbs) :
      IsScientific p point d (first :: (point ++ later) ++
        'e' :: (if d.exponent < 0 then '-' else '+') :: power)

/-- The general form of `p` significant digits.  `point` is what stands between the first digit
and the others in front of an exponent. -/
inductive IsGeneral (p : ℕ) (point : List Char) (negative : Bool) (d : Significant) :
    List Char → Prop
  /-- By position, with the places after the point that the exponent leaves. -/
  | positional {places : ℕ} {body : List Char} (hlow : -4 ≤ d.exponent) (hhigh : d.exponent < p)
      (hplaces : (places : ℤ) = p - 1 - d.exponent)
      (hbody : IsPositional places d.coefficient body) :
      IsGeneral p point negative d (sign negative ++ body)
  /-- With an exponent, where it is outside that range. -/
  | scientific {body : List Char} (hrange : d.exponent < -4 ∨ p ≤ d.exponent)
      (hbody : IsScientific p point d body) : IsGeneral p point negative d (sign negative ++ body)

/-- No number but zero begins with a zero. -/
lemma exists_head?_digits_ne_zero (hn : n ≠ 0) : ∃ c ∈ (digits n).head?, c ≠ '0' := by
  have hone : ∀ m < 10, m ≠ 0 → m.digitChar ≠ '0' := by decide
  induction n using Nat.strongRecOn with
  | ind n ih =>
      rcases Nat.lt_or_ge n 10 with hlt | hge
      · rw [digits, Nat.toDigits_of_lt_base hlt]
        exact ⟨_, rfl, hone n hlt hn⟩
      · obtain ⟨c, hc, hne⟩ := ih (n / 10) (by omega) (by omega)
        refine ⟨c, ?_, hne⟩
        rw [digits] at hc
        rw [digits, Nat.toDigits_of_base_le (by decide) hge,
          List.head?_append_of_ne_nil _ Nat.toDigits_ne_nil]
        exact hc

lemma isPositional_pointed (places n : ℕ) : IsPositional places n (pointed places n) := by
  obtain ⟨whole, fraction, heq, hne, hwhole, hfraction, hplaces, hlength, hvalue, hdigits⟩ :=
    pointed_spec places n
  rw [heq]
  refine .mk hwhole hfraction hplaces ?_ hvalue
  rcases Nat.lt_or_ge (places + 1) (digits n).length with hlong | hshort
  · -- no zeros were put in front, and a number of two digits is not zero
    have hn : n ≠ 0 := by
      rintro rfl
      exact absurd hlong (by simp [digits])
    rw [List.leftpad, Nat.sub_eq_zero_of_le hlong.le, List.replicate_zero, List.nil_append]
      at hdigits
    have hfront := exists_head?_digits_ne_zero hn
    rw [← hdigits, List.head?_append_of_ne_nil _ hne] at hfront
    exact Or.inr hfront
  · exact Or.inl (by omega)

/-- A number of `p` digits, by the count of them. -/
lemma length_digits (hp : 1 ≤ p) (hlow : 10 ^ (p - 1) ≤ n) (hhigh : n < 10 ^ p) :
    (digits n).length = p := by
  have hn : n ≠ 0 := (Nat.lt_of_lt_of_le (Nat.pow_pos (by decide)) hlow).ne'
  have hcount := (digitCount_eq_succ_iff hn (p - 1)).2
  rw [Nat.sub_add_cancel hp] at hcount
  exact hcount ⟨hlow, hhigh⟩

/-- What stands between the first digit and the others: a point, if there are others. -/
def innerPoint (p : ℕ) : List Char := if 2 ≤ p then ['.'] else []

lemma mantissa_spec (hp : 1 ≤ p) (hlow : 10 ^ (p - 1) ≤ n) (hhigh : n < 10 ^ p) :
    ∃ first later, mantissa p n = first :: (innerPoint p ++ later) ∧
      first.isDigit = true ∧ (∀ c ∈ later, c.isDigit = true) ∧ later.length + 1 = p ∧
      naturalValue (first :: later) = n := by
  have hlength := length_digits hp hlow hhigh
  rcases Nat.lt_or_ge 1 p with hlong | hone
  · obtain ⟨whole, fraction, heq, -, hwhole, hfraction, hplaces, hlength', hvalue, -⟩ :=
      pointed_spec (p - 1) n
    obtain ⟨first, rfl⟩ := List.length_eq_one_iff.1 (show whole.length = 1 by omega)
    refine ⟨first, fraction, ?_, hwhole first List.mem_cons_self, hfraction, by omega, hvalue⟩
    rw [mantissa, if_neg (by omega), innerPoint, if_pos (Nat.succ_le_of_lt hlong), heq]
    rfl
  · obtain ⟨first, hfirst⟩ := List.length_eq_one_iff.1 (show (digits n).length = 1 by omega)
    refine ⟨first, [], ?_, ?_, by simp, by simp; omega, ?_⟩
    · rw [mantissa, if_pos hone, innerPoint, if_neg (by omega), hfirst]
      rfl
    · exact isDigit_digits (n := n) first (by rw [hfirst]; exact List.mem_cons_self)
    · rw [← hfirst, naturalValue_digits]

/-- The exponent is written with two digits, or with as many as it has. -/
lemma exponentPart_spec (e : ℤ) :
    ∃ power, exponentPart e = 'e' :: (if e < 0 then '-' else '+') :: power ∧
      (∀ c ∈ power, c.isDigit = true) ∧
      (power.length = 2 ∨ 2 < power.length ∧ ∃ c ∈ power.head?, c ≠ '0') ∧
      naturalValue power = e.natAbs := by
  refine ⟨_, rfl, isDigit_leftpad 2 isDigit_digits, ?_, ?_⟩
  · rw [List.length_leftpad]
    rcases Nat.lt_or_ge 2 (digits e.natAbs).length with hlong | hshort
    · have he : e.natAbs ≠ 0 := by
        intro hzero
        rw [hzero] at hlong
        exact absurd hlong (by simp [digits])
      rw [List.leftpad, Nat.sub_eq_zero_of_le hlong.le, List.replicate_zero, List.nil_append]
      exact Or.inr ⟨by omega, exists_head?_digits_ne_zero he⟩
    · exact Or.inl (by omega)
  · rw [naturalValue_leftpad, naturalValue_digits]

lemma isGeneral_text (hp : 1 ≤ p) (negative : Bool) (hzero : d.coefficient = 0 → d.exponent = 0)
    (hlow : d.coefficient ≠ 0 → 10 ^ (p - 1) ≤ d.coefficient) (hhigh : d.coefficient < 10 ^ p) :
    IsGeneral p (innerPoint p) negative d (sign negative ++ d.text p) := by
  rw [Significant.text]
  split
  · rename_i hrange
    exact .positional hrange.1 hrange.2 (by omega) (isPositional_pointed _ _)
  · rename_i hrange
    refine .scientific (by omega) ?_
    have hne : d.coefficient ≠ 0 := fun h => hrange (by rw [hzero h]; omega)
    obtain ⟨first, later, hmantissa, hfirst, hlater, hlength, hvalue⟩ :=
      mantissa_spec hp (hlow hne) hhigh
    obtain ⟨power, hexponent, hpower, hwidth, hvalue'⟩ := exponentPart_spec d.exponent
    rw [hmantissa, hexponent]
    exact .mk hfirst hlater hlength hvalue hpower hwidth hvalue'

/-! ### The form of a word -/

lemma general_eq_sign_append (hp : 1 ≤ p) (hx : x.isFinite = true) :
    general p x = sign x.negative ++ generalMagnitude p |x.value| := by
  rw [general, if_pos hx, Nat.max_eq_left hp, Floating.abs_value]

lemma general_of_isFinite (hp : 1 ≤ p) (hx : x.isFinite = true)
    (hfits : (significant p |x.value|).FitsWords p) :
    general p x = sign x.negative ++ (significant p |x.value|).text p := by
  rw [general_eq_sign_append hp hx, generalMagnitude_eq hp (abs_nonneg _) hfits]

lemma isGeneral_general (hp : 1 ≤ p) (hx : x.isFinite = true)
    (hfits : (significant p |x.value|).FitsWords p) :
    IsGeneral p (innerPoint p) x.negative (significant p |x.value|) (general p x) := by
  rw [general_of_isFinite hp hx hfits]
  rcases (abs_nonneg x.value).eq_or_lt with hzero | hpos
  · rw [← hzero, significant, if_pos rfl]
    exact isGeneral_text hp _ (fun _ => rfl) (fun h => absurd rfl h) (Nat.pow_pos (by decide))
  · obtain ⟨hlow, hhigh, -⟩ := significant_value hp hpos
    refine isGeneral_text hp _ (fun h => ?_) (fun _ => hlow) hhigh
    rw [h] at hlow
    exact absurd hlow (Nat.not_le.2 (Nat.pow_pos (by decide)))

/-- By position there is one point, whatever stands in front of exponents. -/
lemma IsGeneral.of_positional {negative : Bool} (h : IsGeneral p point negative d text)
    (hlow : -4 ≤ d.exponent) (hhigh : d.exponent < p) (point' : List Char) :
    IsGeneral p point' negative d text := by
  rcases h with ⟨hlow, hhigh, hplaces, hbody⟩ | ⟨hrange, hbody⟩
  · exact .positional hlow hhigh hplaces hbody
  · omega

lemma isDigit_ne_point {c : Char} (hc : c.isDigit = true) : '.' ≠ c := by
  rintro rfl
  exact absurd hc (by decide)

/-- The point tells how many places there are. -/
lemma IsPositional.places_eq {places' n' : ℕ} (h : IsPositional places n text)
    (h' : IsPositional places' n' text) : places = places' := by
  obtain @⟨whole, fraction, hwhole, -, hplaces, -, -⟩ := h
  generalize htext : whole ++ '.' :: fraction = text at h'
  obtain @⟨whole', fraction', hwhole', -, hplaces', -, -⟩ := h'
  have hsplit : splitDigits (whole ++ '.' :: fraction) = (whole, '.' :: fraction) :=
    splitDigits_append hwhole (by simp)
  rw [htext, splitDigits_append hwhole' (by simp)] at hsplit
  obtain ⟨-, rfl⟩ : whole' = whole ∧ fraction' = fraction := by simpa using hsplit
  rw [← hplaces, ← hplaces']

/-- By position there is no mark of an exponent. -/
lemma IsPositional.mark_notMem (h : IsPositional places n text) : 'e' ∉ text := by
  have hdigit : ∀ c : Char, c.isDigit = true → c ≠ 'e' := by
    rintro c hc rfl
    exact absurd hc (by decide)
  obtain ⟨hwhole, hfraction, -, -, -⟩ := h
  simp only [List.mem_append, List.mem_cons, not_or]
  exact ⟨fun hmem => hdigit _ (hwhole _ hmem) rfl, by decide,
    fun hmem => hdigit _ (hfraction _ hmem) rfl⟩

/-- The places that an exponent leaves are written only where words count them and the digits. -/
lemma lt_of_isPositional (hplaces : (places : ℤ) = p - 1 - (significant p r).exponent)
    (hbody : IsPositional places n (generalMagnitude p r)) :
    p < 2 ^ 31 ∧ p ≤ (significant p r).exponent + 2 ^ 31 := by
  rw [generalMagnitude] at hbody
  dsimp only at hbody
  split at hbody
  · rename_i hrange
    have hcount := hbody.places_eq (isPositional_pointed _ _)
    have hbound := placesLeft_lt p (significant p r).exponent
    have hlt : p < 2 ^ 31 := by
      by_contra hge
      have hlimit := exponentLimit_le (not_lt.1 hge)
      omega
    exact ⟨hlt, by omega⟩
  · exact absurd (by simp [exponentPart]) hbody.mark_notMem

/-- The general form has a point. -/
lemma IsGeneral.point_mem {negative : Bool} (h : IsGeneral p ['.'] negative d text) :
    '.' ∈ text := by
  rcases h with ⟨-, -, -, ⟨-, -, -, -, -⟩⟩ | ⟨-, ⟨-, -, -, -, -, -, -⟩⟩ <;> simp

/-- There is none in a digit with an exponent. -/
lemma IsGeneral.point_notMem {negative : Bool} (h : IsGeneral 1 [] negative d text)
    (hrange : ¬(-4 ≤ d.exponent ∧ d.exponent < 1)) : '.' ∉ text := by
  rcases h with ⟨hlow, hhigh, -⟩ | ⟨-, @⟨first, later, power, hfirst, -, hlength, -, hpower, -⟩⟩
  · exact absurd ⟨hlow, hhigh⟩ hrange
  · obtain rfl : later = [] := List.eq_nil_of_length_eq_zero (by omega)
    have hsign : '.' ∉ sign negative := by cases negative <;> decide
    have hmark : '.' ≠ if d.exponent < 0 then '-' else '+' := by split <;> decide
    have hdigits : '.' ∉ power := fun hmem => isDigit_ne_point (hpower _ hmem) rfl
    simp [hsign, isDigit_ne_point hfirst, hmark, hdigits]

/-- A word that is a number is written in the general form of its significant digits, with two
exceptions.  A single digit in front of an exponent has no point; and a number that is written by
position has another form where a signed word of 32 bits does not hold the number of its digits,
or that of the places which the exponent leaves. -/
theorem isGeneral_general_iff (hp : 1 ≤ p) (hx : x.isFinite = true) :
    ∃ d, (∀ d', IsRounded p |x.value| d' ↔ d' = d) ∧
      (IsGeneral p ['.'] x.negative d (general p x) ↔
        2 ≤ p ∧ (d.exponent < -4 ∨ p ≤ d.exponent) ∨
          -4 ≤ d.exponent ∧ d.exponent < p ∧ p < 2 ^ 31 ∧ p ≤ d.exponent + 2 ^ 31) ∧
      (p = 1 → IsGeneral p [] x.negative d (general p x)) := by
  refine ⟨significant p |x.value|, fun d' => isRounded_iff hp (abs_nonneg _), ⟨?_, ?_⟩, ?_⟩
  · intro hpoint
    by_cases hrange : -4 ≤ (significant p |x.value|).exponent ∧
        (significant p |x.value|).exponent < p
    · rw [general_eq_sign_append hp hx] at hpoint
      generalize htext : sign x.negative ++ generalMagnitude p |x.value| = text at hpoint
      rcases hpoint with ⟨-, -, hplaces, hbody⟩ | ⟨hrange', -⟩
      · rw [← List.append_cancel_left htext] at hbody
        exact Or.inr ⟨hrange.1, hrange.2, lt_of_isPositional hplaces hbody⟩
      · omega
    · have hform := isGeneral_general hp hx fun hlow hhigh => absurd ⟨hlow, hhigh⟩ hrange
      refine Or.inl ⟨?_, by omega⟩
      by_contra hone
      obtain rfl : p = 1 := by omega
      exact IsGeneral.point_notMem hform hrange hpoint.point_mem
  · rintro (⟨htwo, hrange⟩ | ⟨hlow, hhigh, hword⟩)
    · have hform := isGeneral_general hp hx fun hlow hhigh => by omega
      rwa [innerPoint, if_pos htwo] at hform
    · exact (isGeneral_general hp hx fun _ _ => hword).of_positional hlow hhigh _
  · rintro rfl
    exact isGeneral_general hp hx fun hlow _ => ⟨by decide, by omega⟩

/-- The last number of a decade that is rounded up to the next one. -/
theorem isGeneral_general_nextDecade :
    (⟨0x416312CFF3333333⟩ : Double).isFinite = true ∧
      IsRounded 7 |(⟨0x416312CFF3333333⟩ : Double).value| ⟨1000000, 7⟩ ∧
      IsGeneral 7 ['.'] false ⟨1000000, 7⟩ (general 7 (⟨0x416312CFF3333333⟩ : Double)) := by
  have hfinite : (⟨0x416312CFF3333333⟩ : Double).isFinite = true := by decide
  have hrounded : IsRounded 7 |(⟨0x416312CFF3333333⟩ : Double).value| ⟨1000000, 7⟩ :=
    (isRounded_iff (by decide) (abs_nonneg _)).2 (by decide +kernel)
  obtain ⟨d, hd, hiff, -⟩ := isGeneral_general_iff (p := 7) (by decide) hfinite
  obtain rfl := (hd _).1 hrounded
  exact ⟨hfinite, hrounded, hiff.2 (Or.inl (by decide))⟩

/-- A single digit in front of an exponent has no point. -/
theorem general_singleDigit :
    ∃ x : Double, x.isFinite = true ∧ x.value = 25 ∧ general 1 x = ['2', 'e', '+', '0', '1'] ∧
      ∀ d, IsRounded 1 |x.value| d → ¬IsGeneral 1 ['.'] x.negative d (general 1 x) := by
  have htext : general 1 (⟨0x4039000000000000⟩ : Double) = ['2', 'e', '+', '0', '1'] := by
    decide +kernel
  refine ⟨⟨0x4039000000000000⟩, by decide, by decide +kernel, htext, fun d _ hform => ?_⟩
  rw [htext] at hform
  exact absurd hform.point_mem (by decide)

end Seismogram.Decimal
