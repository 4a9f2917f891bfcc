/-
# Numerals that were written

A numeral is read in the parts in which it was written: a sign, digits around a point, an
exponent.  The point is set into the digits of one natural number, which are the digits that
reading puts together again (`pointed_spec`), so that the decimal that is read from the text
of significant digits is the one that they stand for (`decimal?_text`).

No numeral holds a blank: all its characters are graphic ones.
-/
import Mathlib.Tactic.Common
import Seismogram.Decimal.Numeral
import Seismogram.Decimal.Significant
import Seismogram.Proofs.Number.Rounding

namespace Seismogram.Decimal

open Seismogram.Number

variable {p : ℕ} {ds whole fraction rest text : List Char}

/-! ### Digits -/

lemma isDigit_digits {n : ℕ} : ∀ c ∈ digits n, c.isDigit = true :=
  fun _ hc => Nat.isDigit_of_mem_toDigits (by decide) (by decide) hc

lemma digits_ne_nil (n : ℕ) : digits n ≠ [] := Nat.toDigits_ne_nil

lemma naturalValue_digits (n : ℕ) : naturalValue (digits n) = n := Nat.ofDigitChars_ten_toDigits

lemma isDigit_leftpad (width : ℕ) (hds : ∀ c ∈ ds, c.isDigit = true) :
    ∀ c ∈ ds.leftpad width '0', c.isDigit = true := by
  intro c hc
  rcases List.mem_append.1 hc with hzero | hlater
  · rw [List.eq_of_mem_replicate hzero]
    decide
  · exact hds c hlater

/-- Zeros in front do not count. -/
lemma naturalValue_leftpad (width : ℕ) (ds : List Char) :
    naturalValue (ds.leftpad width '0') = naturalValue ds := by
  rw [naturalValue, List.leftpad, Nat.ofDigitChars_append, Nat.ofDigitChars_replicate_zero,
    Nat.mul_zero, naturalValue]

lemma natural?_of_isDigit (hne : ds ≠ []) (hds : ∀ c ∈ ds, c.isDigit = true) :
    natural? ds = some (naturalValue ds) := by
  have hall : ds.all Char.isDigit = true := List.all_eq_true.2 hds
  rw [natural?, hall, List.isEmpty_eq_false_iff.2 hne]
  rfl

/-- Digits are taken up to the first character that is none. -/
lemma splitDigits_append (hds : ∀ c ∈ ds, c.isDigit = true)
    (hrest : ∀ c ∈ rest.head?, c.isDigit = false) : splitDigits (ds ++ rest) = (ds, rest) := by
  have hnone : rest.takeWhile Char.isDigit = [] ∧ rest.dropWhile Char.isDigit = rest := by
    cases rest with
    | nil => exact ⟨rfl, rfl⟩
    | cons c cs =>
        have hc : c.isDigit = false := hrest c rfl
        exact ⟨by simp [hc], by simp [hc]⟩
  rw [splitDigits, List.takeWhile_append_of_pos hds, List.dropWhile_append_of_pos hds, hnone.1,
    hnone.2, List.append_nil]

/-! ### Signs -/

lemma splitSign_of_isDigit (h : ∃ c ∈ text.head?, c.isDigit = true) :
    splitSign text = (false, text) := by
  obtain ⟨c, hc, hdigit⟩ := h
  cases text with
  | nil => simp at hc
  | cons d ds =>
      obtain rfl : d = c := by simpa using hc
      -- the two branches for a sign do not match a digit
      rw [splitSign]
      · intro later heq
        rw [(List.cons.inj heq).1] at hdigit
        exact absurd hdigit (by decide)
      · intro later heq
        rw [(List.cons.inj heq).1] at hdigit
        exact absurd hdigit (by decide)

/-- A sign is read back, and there is none in front of a positive number. -/
lemma splitSign_sign (negative : Bool) (h : ∃ c ∈ text.head?, c.isDigit = true) :
    splitSign (sign negative ++ text) = (negative, text) := by
  cases negative
  · exact splitSign_of_isDigit h
  · rfl

lemma exists_head?_digits (n : ℕ) : ∃ c ∈ (digits n).head?, c.isDigit = true := by
  cases hd : digits n with
  | nil => exact absurd hd (digits_ne_nil n)
  | cons c cs => exact ⟨c, rfl, isDigit_digits c (by rw [hd]; exact List.mem_cons_self)⟩

lemma integer?_eq {negative : Bool} {n : ℕ} (hsign : splitSign text = (negative, rest))
    (hrest : natural? rest = some n) :
    integer? text = some (if negative then -(n : ℤ) else n) := by
  rw [integer?, hsign]
  dsimp only
  rw [hrest]
  rfl

/-- An integer is read back. -/
lemma integer?_integer (n : ℤ) : integer? (integer n) = some n := by
  have hnatural := natural?_of_isDigit (digits_ne_nil n.natAbs) isDigit_digits
  rw [naturalValue_digits] at hnatural
  rw [integer, integer?_eq (splitSign_sign _ (exists_head?_digits _)) hnatural, Option.some.injEq]
  by_cases hneg : n < 0
  · rw [if_pos (decide_eq_true hneg)]
    omega
  · rw [if_neg (by simpa using hneg)]
    omega

/-! ### The point and the exponent -/

/-- The point stands before the last places of one run of digits. -/
lemma pointed_spec (places n : ℕ) :
    ∃ whole fraction, pointed places n = whole ++ '.' :: fraction ∧ whole ≠ [] ∧
      (∀ c ∈ whole, c.isDigit = true) ∧ (∀ c ∈ fraction, c.isDigit = true) ∧
      fraction.length = places ∧ whole.length = max (digits n).length (places + 1) - places ∧
      naturalValue (whole ++ fraction) = n ∧
      whole ++ fraction = (digits n).leftpad (places + 1) '0' := by
  rw [pointed]
  have hdigit := isDigit_leftpad (places + 1) (isDigit_digits (n := n))
  have hvalue := naturalValue_leftpad (places + 1) (digits n)
  have hlength : ((digits n).leftpad (places + 1) '0').length
      = max (digits n).length (places + 1) := by
    rw [List.length_leftpad, max_comm]
  generalize (digits n).leftpad (places + 1) '0' = ds at hdigit hvalue hlength
  refine ⟨_, _, rfl, ?_, fun c hc => hdigit c (List.mem_of_mem_take hc),
    fun c hc => hdigit c (List.mem_of_mem_drop hc), ?_, ?_, ?_, List.take_append_drop _ _⟩
  · rw [← List.length_pos_iff, List.length_take]
    omega
  · rw [List.length_drop]
    omega
  · rw [List.length_take]
    omega
  · rw [List.take_append_drop, hvalue, naturalValue_digits]

/-- A decimal is read from the digits around its point and from its exponent. -/
lemma decimal?_point (hne : whole ≠ []) (hwhole : ∀ c ∈ whole, c.isDigit = true)
    (hfraction : ∀ c ∈ fraction, c.isDigit = true) (hrest : ∀ c ∈ rest.head?, c.isDigit = false) :
    decimal? (whole ++ '.' :: (fraction ++ rest)) =
      (exponent? rest).map fun e => ⟨naturalValue (whole ++ fraction), e - fraction.length⟩ := by
  have hpoint : ∀ c ∈ ('.' :: (fraction ++ rest)).head?, c.isDigit = false := by
    intro c hc
    obtain rfl : '.' = c := by simpa using hc
    decide
  rw [decimal?, splitDigits_append hwhole hpoint]
  simp only [splitDigits_append hfraction hrest, List.isEmpty_eq_false_iff.2 hne, Bool.false_and,
    Bool.false_eq_true, if_false]

lemma decimal?_pointed (places n : ℕ) (hrest : ∀ c ∈ rest.head?, c.isDigit = false) :
    decimal? (pointed places n ++ rest) = (exponent? rest).map fun e => ⟨n, e - places⟩ := by
  obtain ⟨whole, fraction, heq, hne, hwhole, hfraction, hlen, -, hvalue, -⟩ :=
    pointed_spec places n
  rw [heq, List.append_assoc, List.cons_append, decimal?_point hne hwhole hfraction hrest, hlen,
    hvalue]

/-- An exponent is read back. -/
lemma exponent?_exponentPart (e : ℤ) : exponent? (exponentPart e) = some e := by
  have hne : (digits e.natAbs).leftpad 2 '0' ≠ [] := by
    rw [← List.length_pos_iff, List.length_leftpad]
    omega
  have hnatural := natural?_of_isDigit hne (isDigit_leftpad 2 isDigit_digits)
  rw [naturalValue_leftpad, naturalValue_digits] at hnatural
  rw [exponentPart, exponent?, if_pos (Or.inl rfl)]
  -- a positive exponent has a sign too
  by_cases hneg : e < 0
  · have hsign : splitSign ('-' :: (digits e.natAbs).leftpad 2 '0') = (true, _) := rfl
    rw [if_pos hneg, integer?_eq hsign hnatural, if_pos rfl, Option.some.injEq]
    omega
  · have hsign : splitSign ('+' :: (digits e.natAbs).leftpad 2 '0') = (false, _) := rfl
    rw [if_neg hneg, integer?_eq hsign hnatural, if_neg (by decide), Option.some.injEq]
    omega

/-- The text of significant digits writes the decimal that they stand for. -/
lemma decimal?_text (hp : 2 ≤ p) (d : Significant) :
    decimal? (d.text p) = some ⟨d.coefficient, d.exponent - ((p - 1 : ℕ) : ℤ)⟩ := by
  rw [Significant.text]
  split
  · have hnone : ∀ c ∈ ([] : List Char).head?, c.isDigit = false := by simp
    have hread := decimal?_pointed ((p : ℤ) - 1 - d.exponent).toNat d.coefficient hnone
    rw [List.append_nil] at hread
    rw [hread, exponent?, Option.map_some, Option.some.injEq, DecimalNumeral.mk.injEq]
    exact ⟨rfl, by omega⟩
  · have hmark : ∀ c ∈ (exponentPart d.exponent).head?, c.isDigit = false := by
      intro c hc
      obtain rfl : 'e' = c := by simpa [exponentPart] using hc
      decide
    rw [mantissa, if_neg (by omega), decimal?_pointed _ _ hmark, exponent?_exponentPart,
      Option.map_some]

/-! ### Real numerals -/

/-- Numbers within the range in which decimals are looked at are rounded to the nearest
magnitude. -/
lemma magnitude_eq (F : Format) {d : DecimalNumeral}
    (h : -exponentBound ≤ (digitCount d.coefficient : ℤ) + d.exponent ∧
      (digitCount d.coefficient : ℤ) + d.exponent ≤ exponentBound) :
    d.magnitude F = F.nearestMagnitude d.value := by
  rw [DecimalNumeral.magnitude]
  by_cases hzero : d.coefficient = 0
  · rw [if_pos (Or.inl hzero), DecimalNumeral.value, hzero, Nat.cast_zero, Rat.zero_mul,
      Format.nearestMagnitude, if_pos rfl]
  · rw [if_neg (by rintro (hc | hlow); exacts [hzero hc, by omega]), if_neg (by omega)]

lemma toLower_of_isDigit {c : Char} (h : c.isDigit = true) : c.toLower = c := by
  refine dif_neg ?_
  rintro ⟨hupper, -⟩
  have hnat : 'A'.toNat ≤ c.toNat := hupper
  exact absurd (hnat.trans (Char.isDigit_iff_toNat.1 h).2) (by decide)

/-- A text that begins with a digit is not the name of a word. -/
lemma lowered_ne_of_isDigit {first : Char} {name : List Char}
    (h : ∃ c ∈ text.head?, c.isDigit = true) (hfirst : first.isDigit = false) :
    lowered text ≠ first :: name := by
  obtain ⟨c, hc, hdigit⟩ := h
  intro heq
  have hhead : (lowered text).head? = some c := by
    rw [lowered, List.head?_map, hc, Option.map_some, toLower_of_isDigit hdigit]
  rw [heq, List.head?_cons, Option.some.injEq] at hhead
  rw [← hhead, hfirst] at hdigit
  exact absurd hdigit (by decide)

/-- A decimal with a sign is read as the word of that sign and of the decimal's magnitude. -/
lemma real?_sign (F : Format) (negative : Bool) (h : ∃ c ∈ text.head?, c.isDigit = true) :
    real? F (sign negative ++ text) =
      (decimal? text).map fun d => .ofMagnitude negative (d.magnitude F) := by
  rw [real?, splitSign_sign negative h]
  dsimp only
  rw [if_neg (lowered_ne_of_isDigit h rfl), if_neg]
  rintro (hinf | hinf)
  · exact lowered_ne_of_isDigit h rfl hinf
  · exact lowered_ne_of_isDigit h rfl hinf

end Seismogram.Decimal
