/-
# The characters and the length of a form

A numeral is made of digits, signs, a point and the letters of an exponent or of a name,
none of which is a blank: it is one word.  With `p` significant digits it takes up at most
`p + 5` characters besides its sign, as long as its exponent has two digits.
-/
import Mathlib.Data.Nat.Digits.Defs
import Seismogram.Proofs.Decimal.Numeral
import Seismogram.Proofs.Text.Columns

namespace Seismogram.Decimal

open Seismogram.Number
open Seismogram.Text (isGraphic isGraphic_of_isDigit)

variable {p : ℕ} {ds : List Char}

/-! ### Characters -/

lemma isGraphic_of_forall_isDigit (hds : ∀ c ∈ ds, c.isDigit = true) :
    ∀ c ∈ ds, isGraphic c = true :=
  fun c hc => isGraphic_of_isDigit (hds c hc)

lemma isGraphic_sign (negative : Bool) : ∀ c ∈ sign negative, isGraphic c = true := by
  rw [← List.all_eq_true]
  cases negative <;> rfl

lemma isGraphic_integer (n : ℤ) : ∀ c ∈ integer n, isGraphic c = true :=
  List.forall_mem_append.2 ⟨isGraphic_sign _, isGraphic_of_forall_isDigit isDigit_digits⟩

lemma isGraphic_pointed (places n : ℕ) : ∀ c ∈ pointed places n, isGraphic c = true := by
  obtain ⟨whole, fraction, heq, -, hwhole, hfraction, -⟩ := pointed_spec places n
  rw [heq, List.forall_mem_append, List.forall_mem_cons]
  exact ⟨isGraphic_of_forall_isDigit hwhole, rfl, isGraphic_of_forall_isDigit hfraction⟩

lemma isGraphic_exponentPart (e : ℤ) : ∀ c ∈ exponentPart e, isGraphic c = true := by
  rw [exponentPart, List.forall_mem_cons, List.forall_mem_cons]
  refine ⟨rfl, ?_, isGraphic_of_forall_isDigit (isDigit_leftpad 2 isDigit_digits)⟩
  split <;> rfl

lemma isGraphic_mantissa (p n : ℕ) : ∀ c ∈ mantissa p n, isGraphic c = true := by
  rw [mantissa]
  split
  · exact isGraphic_of_forall_isDigit isDigit_digits
  · exact isGraphic_pointed _ n

lemma isGraphic_generalMagnitude (p : ℕ) (r : ℚ) :
    ∀ c ∈ generalMagnitude p r, isGraphic c = true := by
  rw [generalMagnitude]
  split
  · exact isGraphic_pointed _ _
  · exact List.forall_mem_append.2 ⟨isGraphic_mantissa p _, isGraphic_exponentPart _⟩

lemma isGraphic_nonFinite {F : Format} (x : Floating F) :
    ∀ c ∈ nonFinite x, isGraphic c = true := by
  rw [nonFinite]
  split
  · exact List.all_eq_true.1 rfl
  · exact List.forall_mem_append.2 ⟨isGraphic_sign _, List.all_eq_true.1 rfl⟩

lemma isGraphic_general {F : Format} (p : ℕ) (x : Floating F) :
    ∀ c ∈ general p x, isGraphic c = true := by
  rw [general]
  split
  · exact List.forall_mem_append.2 ⟨isGraphic_sign _, isGraphic_generalMagnitude _ _⟩
  · exact isGraphic_nonFinite x

/-! ### Forms are words -/

lemma integer_ne_nil (n : ℤ) : integer n ≠ [] :=
  List.append_ne_nil_of_right_ne_nil _ (digits_ne_nil _)

/-- A form with a point begins with a digit. -/
lemma exists_head?_pointed (places n : ℕ) (rest : List Char) :
    ∃ c ∈ (pointed places n ++ rest).head?, c.isDigit = true := by
  obtain ⟨whole, fraction, heq, hne, hwhole, -⟩ := pointed_spec places n
  rw [heq]
  cases whole with
  | nil => exact absurd rfl hne
  | cons c cs => exact ⟨c, rfl, hwhole c List.mem_cons_self⟩

lemma exists_head?_text (hp : 2 ≤ p) (d : Significant) :
    ∃ c ∈ (d.text p).head?, c.isDigit = true := by
  rw [Significant.text]
  split
  · have h := exists_head?_pointed ((p : ℤ) - 1 - d.exponent).toNat d.coefficient []
    rwa [List.append_nil] at h
  · rw [mantissa, if_neg (by omega)]
    exact exists_head?_pointed _ _ _

lemma isWord_of_isGraphic {word : List Char} (hne : word ≠ [])
    (h : ∀ c ∈ word, isGraphic c = true) : Text.IsWord word :=
  ⟨hne, fun c hc => Text.isBlank_of_isGraphic (h c hc)⟩

lemma isWord_integer (n : ℤ) : Text.IsWord (integer n) :=
  isWord_of_isGraphic (integer_ne_nil n) (isGraphic_integer n)

/-! ### Lengths -/

lemma length_sign_le (negative : Bool) : (sign negative).length ≤ 1 := by
  cases negative <;> decide

lemma length_pointed (places n : ℕ) :
    (pointed places n).length = max (digits n).length (places + 1) + 1 := by
  obtain ⟨whole, fraction, heq, -, -, -, hfraction, hwhole, -⟩ := pointed_spec places n
  rw [heq, List.length_append, List.length_cons, hwhole, hfraction]
  omega

lemma length_exponentPart_le {e : ℤ} (he : e.natAbs < 100) : (exponentPart e).length ≤ 4 := by
  have hdigits : (digits e.natAbs).length ≤ 2 := Nat.toDigits_length 10 _ 2 (by decide) he
  rw [exponentPart, List.length_cons, List.length_cons, List.length_leftpad]
  omega

lemma length_text_le (hp : 2 ≤ p) {d : Significant} (hcoefficient : d.coefficient < 10 ^ p)
    (hexponent : d.exponent.natAbs < 100) : (d.text p).length ≤ p + 5 := by
  have hdigits : (digits d.coefficient).length ≤ p :=
    Nat.toDigits_length 10 _ p (by omega) hcoefficient
  rw [Significant.text]
  split
  · rename_i hpositional
    rw [length_pointed]
    omega
  · have hpart := length_exponentPart_le hexponent
    rw [mantissa, if_neg (by omega), List.length_append, length_pointed]
    omega

end Seismogram.Decimal
