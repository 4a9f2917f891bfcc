/-
# Rounding on a scale

The numbers that a format can hold are the marks of a scale, and some marks are even.  A
number is rounded to the nearest mark, and to an even one where two are equally near
(`Scale.Nearest`).  If some mark lies between any two even ones, there is only one nearest
mark, and rounding is monotone.

Writing a number in one notation and reading it in another rounds on two scales in turn.
The main result is `Scale.Nearest.again`: a mark that came out of such a double rounding
comes out of it again unchanged.  It asks for little: the gaps of the first scale do not
shrink upwards, and at the place in question one of the scales is as fine above as below.
-/
import Mathlib.Algebra.Order.Field.Rat
import Mathlib.Tactic.Linarith
import Seismogram.Proofs.Number.Rounding

namespace Seismogram.Number

/-- The numbers that a format can hold. -/
structure Scale where
  IsMark : ℚ → Prop
  /-- The marks that are taken where two are equally near. -/
  IsEven : ℚ → Prop

namespace Scale

variable {S : Scale} {r r' p q q' : ℚ}

/-- A number rounded on a scale: the nearest mark, the even one of two equally near. -/
structure Nearest (S : Scale) (r q : ℚ) : Prop where
  mark : S.IsMark q
  le : ∀ p, S.IsMark p → |q - r| ≤ |p - r|
  even : ∀ p, S.IsMark p → p ≠ q → |p - r| = |q - r| → S.IsEven q

/-- Between two even marks there is another mark. -/
def Separated (S : Scale) : Prop :=
  ∀ p q, S.IsEven p → S.IsEven q → p < q → ∃ m, S.IsMark m ∧ p < m ∧ m < q

/-- No gap above a mark is narrower than the gap below it. -/
def GapsGrow (S : Scale) : Prop :=
  ∀ p q s, S.IsMark p → S.IsMark q → S.IsMark s → p < q → q < s →
    ∃ m, S.IsMark m ∧ m < q ∧ q - m ≤ s - q

/-- At a mark the gap above is no wider than the gap below. -/
def FineAbove (S : Scale) (q : ℚ) : Prop :=
  ∀ p, S.IsMark p → p < q → ∃ m, S.IsMark m ∧ q < m ∧ m - q ≤ q - p

/-! ### Half way between two marks -/

/-- Of two numbers the lower is the nearer one exactly up to half way. -/
lemma abs_sub_le_abs_sub_iff (h : p < q) : |p - r| ≤ |q - r| ↔ 2 * r ≤ p + q := by
  rcases abs_cases (p - r) with ⟨hp, hsign⟩ | ⟨hp, hsign⟩ <;>
    rcases abs_cases (q - r) with ⟨hq, hsign'⟩ | ⟨hq, hsign'⟩ <;>
    rw [hp, hq] <;> constructor <;> intro hle <;> linarith

/-- Of two numbers the upper is the nearer one exactly from half way on. -/
lemma abs_sub_ge_abs_sub_iff (h : p < q) : |q - r| ≤ |p - r| ↔ p + q ≤ 2 * r := by
  rcases abs_cases (p - r) with ⟨hp, hsign⟩ | ⟨hp, hsign⟩ <;>
    rcases abs_cases (q - r) with ⟨hq, hsign'⟩ | ⟨hq, hsign'⟩ <;>
    rw [hp, hq] <;> constructor <;> intro hle <;> linarith

lemma Nearest.le_of_lt (h : S.Nearest r q) (hp : S.IsMark p) (hlt : q < p) : 2 * r ≤ q + p :=
  (abs_sub_le_abs_sub_iff hlt).1 (h.le p hp)

lemma Nearest.ge_of_gt (h : S.Nearest r q) (hp : S.IsMark p) (hlt : p < q) : p + q ≤ 2 * r :=
  (abs_sub_ge_abs_sub_iff hlt).1 (h.le p hp)

lemma Nearest.even_of_tie (h : S.Nearest r q) (hp : S.IsMark p) (hne : p ≠ q)
    (htie : 2 * r = p + q) : S.IsEven q := by
  refine h.even p hp hne ?_
  rw [show p - r = -(q - r) by linarith, abs_neg]

/-! ### There is one nearest mark -/

lemma Nearest.mono (hS : S.Separated) (h : S.Nearest r q) (h' : S.Nearest r' q') (hr : r ≤ r') :
    q ≤ q' := by
  by_contra hlt
  have hgt : q' < q := lt_of_not_ge hlt
  have hlow := h.ge_of_gt h'.mark hgt
  have hhigh := h'.le_of_lt h.mark hgt
  -- both numbers are half way between the two marks, which are even, but not neighbours
  have heven := h.even_of_tie h'.mark hgt.ne (by linarith)
  have heven' := h'.even_of_tie h.mark hgt.ne' (by linarith)
  obtain ⟨m, hm, hlt, hlt'⟩ := hS q' q heven' heven hgt
  linarith [h.ge_of_gt hm hlt']

lemma Nearest.unique (hS : S.Separated) (h : S.Nearest r q) (h' : S.Nearest r q') : q = q' :=
  le_antisymm (h.mono hS h' le_rfl) (h'.mono hS h le_rfl)

/-- A mark is its own nearest mark. -/
lemma nearest_self (hq : S.IsMark q) : S.Nearest q q where
  mark := hq
  le p _ := by
    rw [sub_self, abs_zero]
    exact abs_nonneg _
  even p _ hne htie := by
    rw [sub_self, abs_zero, abs_eq_zero, sub_eq_zero] at htie
    exact absurd htie hne

/-! ### Marks that are multiples of a unit -/

lemma abs_mul_sub {u : ℚ} (hu : 0 < u) (c : ℚ) : |c * u - r| = |c - r / u| * u := by
  rw [← abs_of_pos hu, ← abs_mul, sub_mul, abs_of_pos hu, div_mul_cancel₀ r hu.ne']

/-- In a block of marks that are the multiples of a unit, the nearest mark is the nearest
multiple. -/
lemma nearest_roundHalfEven {u : ℚ} (low high : ℕ) (hu : 0 < u) (hlow : low * u ≤ r)
    (hhigh : r ≤ high * u) (hmark : ∀ c : ℕ, low ≤ c → c ≤ high → S.IsMark (c * u))
    (hmultiple : ∀ p, S.IsMark p → low * u ≤ p → ∃ c : ℕ, p = c * u)
    (heven : ∀ c : ℕ, low ≤ c → c ≤ high → c % 2 = 0 → S.IsEven (c * u)) :
    let c := (roundHalfEven (r / u)).toNat
    low ≤ c ∧ c ≤ high ∧ S.Nearest r (c * u) := by
  have hlowc : (low : ℤ) ≤ roundHalfEven (r / u) :=
    le_roundHalfEven ((le_div_iff₀ hu).2 (by exact_mod_cast hlow))
  have hhighc : roundHalfEven (r / u) ≤ (high : ℤ) :=
    roundHalfEven_le ((div_le_iff₀ hu).2 (by exact_mod_cast hhigh))
  obtain ⟨c, hc⟩ : ∃ c : ℕ, roundHalfEven (r / u) = c :=
    ⟨(roundHalfEven (r / u)).toNat, by omega⟩
  -- another multiple is no nearer, which also goes for the ends of the block
  have hnear {n : ℕ} (hne : n ≠ c) := roundHalfEven_nearest (r := r / u) (n := n) (by omega)
  simp only [hc, Int.cast_natCast, Int.toNat_natCast] at hnear ⊢
  have hother (n : ℕ) : |(c : ℚ) * u - r| ≤ |(n : ℚ) * u - r| := by
    by_cases hne : n = c
    · rw [hne]
    · rw [abs_mul_sub hu, abs_mul_sub hu]
      exact mul_le_mul_of_nonneg_right (hnear hne).1 hu.le
  have hbelow {p : ℚ} (hp : p < low * u) : |(c : ℚ) * u - r| < |p - r| := by
    refine lt_of_le_of_lt (hother low) ?_
    rw [abs_of_nonpos (by linarith), abs_of_neg (by linarith)]
    linarith
  refine ⟨by omega, by omega, hmark c (by omega) (by omega), ?_, ?_⟩
  · intro p hp
    rcases lt_or_ge p (low * u) with hlt | hge
    · exact (hbelow hlt).le
    · obtain ⟨n, rfl⟩ := hmultiple p hp hge
      exact hother n
  · intro p hp hne htie
    rcases lt_or_ge p (low * u) with hlt | hge
    · exact absurd htie (hbelow hlt).ne'
    · obtain ⟨n, rfl⟩ := hmultiple p hp hge
      rw [abs_mul_sub hu, abs_mul_sub hu] at htie
      have hn : n ≠ c := fun heq => hne (by rw [heq])
      have hparity := (hnear hn).2 (mul_right_cancel₀ hu.ne' htie)
      exact heven c (by omega) (by omega) (by omega)

/-! ### Rounding on two scales in turn -/

section Again

variable {A B : Scale} {x d y d' y' : ℚ}

/-- A mark above the number that was rounded does not move up, since gaps grow. -/
lemma Nearest.again_le (hA : A.Separated) (hgaps : A.GapsGrow) (hx : A.IsMark x) (hd : B.IsMark d)
    (hy : A.Nearest d y) (hd' : B.Nearest y d') (hy' : A.Nearest d' y') (hlt : x < y)
    (hdd : d < d') : y' ≤ y := by
  by_contra hle
  have hyy : y < y' := lt_of_not_ge hle
  obtain ⟨w, hw, hwy, hgap⟩ := hgaps x y y' hx hy.mark hy'.mark hlt hyy
  have hwd := hy.ge_of_gt hw hwy
  have hdy := hd'.ge_of_gt hd hdd
  have hyd := hy'.ge_of_gt hy.mark hyy
  -- so all of these are equalities, and `y` and `y'` are even
  have heven := hy.even_of_tie hw hwy.ne (by linarith)
  have heven' := hy'.even_of_tie hy.mark hyy.ne (by linarith)
  obtain ⟨m, hm, hym, hmy⟩ := hA y y' heven heven' hyy
  linarith [hy'.ge_of_gt hm hmy]

/-- A mark below the number that was rounded does not move down, if the gap above it or above
the mark of the other scale is no wider than the one below. -/
lemma Nearest.le_again (hA : A.Separated) (hB : B.Separated) (hx : A.IsMark x) (hd : B.Nearest x d)
    (hy : A.Nearest d y) (hd' : B.Nearest y d') (hy' : A.Nearest d' y')
    (hfine : A.FineAbove y ∨ B.FineAbove d) (hgt : y < x) (hdd : d' < d) : y ≤ y' := by
  by_contra hle
  have hyy : y' < y := lt_of_not_ge hle
  have hxd := hy.le_of_lt hx hgt
  have hdy := hd'.le_of_lt hd.mark hdd
  have hyd := hy'.le_of_lt hy.mark hyy
  rcases hfine with hfine | hfine
  · -- again all are equalities, on the scale of `y`
    obtain ⟨w, hw, hyw, hgap⟩ := hfine y' hy'.mark hyy
    have hdw := hy.le_of_lt hw hyw
    have heven := hy.even_of_tie hw hyw.ne' (by linarith)
    have heven' := hy'.even_of_tie hy.mark hyy.ne' (by linarith)
    obtain ⟨m, hm, hym, hmy⟩ := hA y' y heven' heven hyy
    linarith [hy'.le_of_lt hm hym]
  · -- and here on the scale of `d`
    obtain ⟨w, hw, hdw, hgap⟩ := hfine d' hd'.mark hdd
    have hxw := hd.le_of_lt hw hdw
    have heven := hd.even_of_tie hw hdw.ne' (by linarith)
    have heven' := hd'.even_of_tie hd.mark hdd.ne' (by linarith)
    obtain ⟨m, hm, hdm, hmd⟩ := hB d' d heven' heven hdd
    linarith [hd'.le_of_lt hm hdm]

/-- A mark that two roundings in turn give is given again when they are repeated. -/
theorem Nearest.again (hA : A.Separated) (hB : B.Separated) (hgaps : A.GapsGrow) (hx : A.IsMark x)
    (hd : B.Nearest x d) (hy : A.Nearest d y) (hd' : B.Nearest y d') (hy' : A.Nearest d' y')
    (hfine : A.FineAbove y ∨ B.FineAbove d) : y' = y := by
  by_cases hsame : d = d'
  · rw [← hsame] at hy'
    exact hy'.unique hA hy
  rcases lt_trichotomy x y with hlt | rfl | hgt
  · have hdd : d < d' := lt_of_le_of_ne (hd.mono hB hd' hlt.le) hsame
    exact le_antisymm (hy.again_le hA hgaps hx hd.mark hd' hy' hlt hdd) (hy.mono hA hy' hdd.le)
  · exact absurd (hd.unique hB hd') hsame
  · have hdd : d' < d := lt_of_le_of_ne (hd'.mono hB hd hgt.le) (Ne.symm hsame)
    exact le_antisymm (hy'.mono hA hy hdd.le) (hd.le_again hA hB hx hy hd' hy' hfine hgt hdd)

end Again

end Scale

end Seismogram.Number
