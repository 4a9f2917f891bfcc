/-
# Samples and the header that describes them

The least sample is found in one walk, which passes over what is no number: a step keeps the
word that is least so far (`Samples.foldl_lesser`), so the last one is at most every number of
the samples and is one of them, unless there is none.  It does not depend on the order of the
samples, as far as numbers go (`Samples.LeastFrom.same_of_perm`): the two zeros are one number.
Turned signs make the greatest sample of the least one (`Samples.greatest_eq`).

The header that describes samples has these words, their number and the time of the last one,
and is otherwise the header that it was (`Header.Described`).
-/
import Mathlib.Tactic.Common
import Seismogram.Proofs.Number.Order
import Seismogram.Proofs.Trace.Samples
import Seismogram.Trace.Edit

namespace Seismogram

open Seismogram.Number

namespace Samples

variable {x y z w : Single} {samples samples' : List Single}

/-! ### The least sample -/

lemma lesser_eq_or (x y : Single) : lesser x y = x ∨ lesser x y = y := by
  rw [lesser]
  split
  · exact Or.inl rfl
  · exact Or.inr rfl

/-- A step goes down. -/
lemma lesser_le_left (hx : x.isNaN = false) : (lesser x y).le x = true := by
  rw [lesser]
  split
  · exact Floating.le_refl_of_isNaN_eq_false hx
  · rename_i hpassed
    simp only [Bool.or_eq_true, not_or, Bool.not_eq_true y.isNaN] at hpassed
    exact Floating.le_of_not_lt hx hpassed.1 hpassed.2

/-- A step goes down to the sample, if that is a number. -/
lemma lesser_le_right (hy : y.isNaN = false) : (lesser x y).le y = true := by
  rw [lesser]
  split
  · rename_i hkept
    rw [hy, Bool.false_or] at hkept
    exact Floating.le_of_lt hkept
  · exact Floating.le_refl_of_isNaN_eq_false hy

/-- The least of a start and the numbers among samples. -/
structure LeastFrom (start : Single) (samples : List Single) (z : Single) : Prop where
  le_start : z.le start = true
  le_of_mem : ∀ x ∈ samples, x.isNaN = false → z.le x = true
  attained : z = start ∨ z ∈ samples

/-- Induction on the samples, where the word that is least so far is the start of the rest. -/
lemma foldl_lesser (hx : x.isNaN = false) : LeastFrom x samples (samples.foldl lesser x) := by
  induction samples generalizing x with
  | nil => exact ⟨Floating.le_refl_of_isNaN_eq_false hx, by simp, Or.inl rfl⟩
  | cons y samples ih =>
    have hdown := lesser_le_left (y := y) hx
    obtain ⟨hstart, hrest, hattained⟩ := ih (Floating.le_iff.1 hdown).1
    refine ⟨Floating.le_trans_of_le hstart hdown, ?_, ?_⟩
    · intro w hw hnumber
      rcases List.mem_cons.1 hw with rfl | hw
      · exact Floating.le_trans_of_le hstart (lesser_le_right hnumber)
      · exact hrest w hw hnumber
    · rw [List.foldl_cons]
      rcases hattained with hsame | hmem
      · rw [hsame]
        refine (lesser_eq_or x y).imp_right fun heq => ?_
        rw [heq]
        exact List.mem_cons_self
      · exact Or.inr (List.mem_cons_of_mem _ hmem)

lemma leastFrom_least (samples : List Single) :
    LeastFrom (.infinite false) samples (least samples) :=
  foldl_lesser (Floating.isNaN_infinite Format.regular_single false)

lemma LeastFrom.isNaN_eq_false (h : LeastFrom x samples z) : z.isNaN = false :=
  (Floating.le_iff.1 h.le_start).1

lemma LeastFrom.le_of_subset (h : LeastFrom x samples z) (h' : LeastFrom x samples' w)
    (hsub : samples' ⊆ samples) : z.le w = true := by
  rcases h'.attained with rfl | hmem
  · exact h.le_start
  · exact h.le_of_mem w (hsub hmem) h'.isNaN_eq_false

/-- The order of samples does not matter to the number that is least. -/
lemma LeastFrom.same_of_perm (h : LeastFrom x samples z) (h' : LeastFrom x samples' w)
    (hperm : samples.Perm samples') : z.same w = true :=
  Floating.same_of_le_of_le (h.le_of_subset h' hperm.symm.subset)
    (h'.le_of_subset h hperm.subset)

/-- If there is a number among samples, the least one is one of them. -/
lemma exists_same_least (hx : x ∈ samples) (hnumber : x.isNaN = false) :
    ∃ y ∈ samples, (least samples).same y = true := by
  have hleast := leastFrom_least samples
  rcases hleast.attained with htop | hmem
  · refine ⟨x, hx, Floating.same_of_le_of_le (hleast.le_of_mem x hx hnumber) ?_⟩
    rw [htop]
    exact Floating.le_infinite Format.regular_single hnumber
  · exact ⟨_, hmem, Floating.same_refl_of_isNaN_eq_false hleast.isNaN_eq_false⟩

lemma least_of_forall_isNaN (hnone : ∀ x ∈ samples, x.isNaN = true) :
    least samples = .infinite false := by
  have hleast := leastFrom_least samples
  refine hleast.attained.resolve_right fun hmem => ?_
  exact absurd (hnone _ hmem) (by simp [hleast.isNaN_eq_false])

/-! ### The greatest sample -/

lemma greater_eq (x y : Single) : greater x y = (lesser x.neg y.neg).neg := by
  rw [greater, lesser, Floating.isNaN_neg Format.regular_single,
    Floating.lt_neg_neg Format.regular_single]
  split <;> rw [Floating.neg_neg Format.regular_single]

lemma foldl_greater (x : Single) (samples : List Single) :
    samples.foldl greater x = ((samples.map Floating.neg).foldl lesser x.neg).neg := by
  induction samples generalizing x with
  | nil => exact (Floating.neg_neg Format.regular_single).symm
  | cons y samples ih =>
    rw [List.foldl_cons, ih, List.map_cons, List.foldl_cons, greater_eq,
      Floating.neg_neg Format.regular_single]

/-- The greatest sample has the sign of the least one turned, once all signs are turned. -/
lemma greatest_eq (samples : List Single) :
    greatest samples = (least (samples.map Floating.neg)).neg := by
  have hinfinite : (Floating.infinite true : Single).neg = .infinite false := by decide
  rw [greatest, foldl_greater, hinfinite, least]

lemma le_greatest (hx : x ∈ samples) (hnumber : x.isNaN = false) :
    x.le (greatest samples) = true := by
  rw [greatest_eq, Floating.le_neg_right Format.regular_single]
  refine (leastFrom_least _).le_of_mem _ (List.mem_map_of_mem hx) ?_
  rwa [Floating.isNaN_neg Format.regular_single]

lemma exists_same_greatest (hx : x ∈ samples) (hnumber : x.isNaN = false) :
    ∃ y ∈ samples, (greatest samples).same y = true := by
  rw [← Floating.isNaN_neg Format.regular_single] at hnumber
  obtain ⟨w, hw, hsame⟩ := exists_same_least (List.mem_map_of_mem hx) hnumber
  obtain ⟨y, hy, rfl⟩ := List.mem_map.1 hw
  exact ⟨y, hy, by rwa [greatest_eq, Floating.same_neg_left Format.regular_single]⟩

lemma greatest_of_forall_isNaN (hnone : ∀ x ∈ samples, x.isNaN = true) :
    greatest samples = .infinite true := by
  rw [greatest_eq, least_of_forall_isNaN]
  · decide
  · simpa [Floating.isNaN_neg Format.regular_single] using hnone

lemma greatest_same_of_perm (hperm : samples.Perm samples') :
    (greatest samples).same (greatest samples') = true := by
  rw [greatest_eq, greatest_eq, Floating.same_neg_left Format.regular_single,
    Floating.neg_neg Format.regular_single]
  exact (leastFrom_least _).same_of_perm (leastFrom_least _) (hperm.map _)

end Samples

namespace Header

variable {h k : Header} {samples samples' : List Single}

/-! ### The words of a description -/

lemma storedReal_describe_nil {slot : Fin 70} (hslot : slot ∈ [leastSlot, greatestSlot, meanSlot]) :
    (h.describe []).storedReal slot = nullReal := by
  simp only [List.mem_cons, List.not_mem_nil, or_false] at hslot
  simp only [describe_nil, storedReal_setReal, Option.getD_none]
  rcases hslot with rfl | rfl | rfl
  · rfl
  · rfl
  · rfl

lemma storedReal_endSlot_describe_nil :
    (h.describe []).storedReal endSlot = h.storedReal endSlot := by
  simp only [describe_nil, storedReal_setReal]
  rfl

lemma storedReal_leastSlot_describe (hne : samples ≠ []) :
    (h.describe samples).storedReal leastSlot = Samples.least samples := by
  rw [describe_of_ne_nil hne, storedReal_setLastTime _ (by decide)]
  simp only [storedReal_setReal]
  rfl

lemma storedReal_greatestSlot_describe (hne : samples ≠ []) :
    (h.describe samples).storedReal greatestSlot = Samples.greatest samples := by
  rw [describe_of_ne_nil hne, storedReal_setLastTime _ (by decide)]
  simp only [storedReal_setReal]
  rfl

lemma storedReal_endSlot_setLastTime {count : Int32}
    (hmoved : (h.setLastTime count).storedReal endSlot ≠ h.storedReal endSlot) :
    h.storedInteger evenSlot ≠ 0 ∧ h.storedReal beginSlot ≠ nullReal ∧
      h.storedReal deltaSlot ≠ nullReal := by
  rw [setLastTime] at hmoved
  split at hmoved
  · exact absurd rfl hmoved
  · rename_i hbegin hdelta huneven
    refine ⟨fun hzero => ?_, ?_, ?_⟩
    · exact huneven (integer?_eq_some_iff.2 ⟨by decide, hzero⟩)
    · rw [ne_eq, ← real?_eq_none_iff, hbegin]
      exact Option.some_ne_none _
    · rw [ne_eq, ← real?_eq_none_iff, hdelta]
      exact Option.some_ne_none _
  · exact absurd rfl hmoved

/-- The time of the last sample is made of the number of samples and of four fields. -/
lemma storedReal_endSlot_setLastTime_congr {count : Int32}
    (heven : k.storedInteger evenSlot = h.storedInteger evenSlot)
    (hreals : ∀ slot ∈ [beginSlot, deltaSlot, endSlot], k.storedReal slot = h.storedReal slot) :
    (k.setLastTime count).storedReal endSlot = (h.setLastTime count).storedReal endSlot := by
  rw [setLastTime, setLastTime, integer?_congr heven, real?_congr (hreals beginSlot (by decide)),
    real?_congr (hreals deltaSlot (by decide))]
  split
  · exact hreals endSlot (by decide)
  · rw [storedReal_setReal, storedReal_setReal, if_pos rfl, if_pos rfl]
  · exact hreals endSlot (by decide)

lemma storedReal_endSlot_describe (hne : samples ≠ []) :
    (h.describe samples).storedReal endSlot =
      (h.setLastTime (Samples.count samples)).storedReal endSlot := by
  have hsplit : ∀ slot ∈ [beginSlot, deltaSlot, endSlot],
      leastSlot ≠ slot ∧ greatestSlot ≠ slot ∧ meanSlot ≠ slot := by decide
  rw [describe_of_ne_nil hne]
  refine storedReal_endSlot_setLastTime_congr ?_ fun slot hslot => ?_
  · exact (storedInteger_setInteger _ _ _).trans (if_neg (by decide))
  · obtain ⟨hleast, hgreatest, hmean⟩ := hsplit slot hslot
    rw [storedReal_setReal, if_neg hmean, storedReal_setReal, if_neg hgreatest,
      storedReal_setReal, if_neg hleast, storedReal_setInteger]

/-! ### Descriptions -/

/-- What a header says once it describes samples, beside what it said before.  The words are
those that are stored, also where the least or greatest sample is the word of null fields. -/
structure Described (h : Header) (samples : List Single) (k : Header) : Prop where
  count : (k.storedInteger countSlot).toInt = samples.length
  empty : samples = [] → k.storedReal leastSlot = nullReal ∧
    k.storedReal greatestSlot = nullReal ∧ k.storedReal meanSlot = nullReal ∧
    k.storedReal endSlot = h.storedReal endSlot
  least : (∃ x ∈ samples, x.isNaN = false) →
    (∃ x ∈ samples, (k.storedReal leastSlot).same x = true) ∧
      ∀ x ∈ samples, x.isNaN = false → (k.storedReal leastSlot).le x = true
  greatest : (∃ x ∈ samples, x.isNaN = false) →
    (∃ x ∈ samples, (k.storedReal greatestSlot).same x = true) ∧
      ∀ x ∈ samples, x.isNaN = false → x.le (k.storedReal greatestSlot) = true
  noNumber : samples ≠ [] → (∀ x ∈ samples, x.isNaN = true) →
    k.storedReal leastSlot = .infinite false ∧ k.storedReal greatestSlot = .infinite true
  endTime : k.storedReal endSlot ≠ h.storedReal endSlot → samples ≠ [] ∧
    h.storedInteger evenSlot ≠ 0 ∧ h.storedReal beginSlot ≠ nullReal ∧
    h.storedReal deltaSlot ≠ nullReal
  reals : ∀ slot ∉ [leastSlot, greatestSlot, meanSlot, endSlot],
    k.storedReal slot = h.storedReal slot
  integers : ∀ slot ≠ countSlot, k.storedInteger slot = h.storedInteger slot
  text : k.text = h.text

/-- Headers that describe the same numbers, in whichever order. -/
structure SameDescription (h k : Header) : Prop where
  count : k.storedInteger countSlot = h.storedInteger countSlot
  endTime : k.storedReal endSlot = h.storedReal endSlot
  least : (k.storedReal leastSlot).same (h.storedReal leastSlot) = true
  greatest : (k.storedReal greatestSlot).same (h.storedReal greatestSlot) = true

lemma described_describe (h : Header) (hlen : samples.length ≤ 2147483647) :
    h.Described samples (h.describe samples) where
  count := by rw [storedInteger_countSlot_describe, Samples.toInt_count hlen]
  empty := by
    rintro rfl
    exact ⟨storedReal_describe_nil (by decide), storedReal_describe_nil (by decide),
      storedReal_describe_nil (by decide), storedReal_endSlot_describe_nil⟩
  least := by
    rintro ⟨x, hx, hnumber⟩
    rw [storedReal_leastSlot_describe (List.ne_nil_of_mem hx)]
    exact ⟨Samples.exists_same_least hx hnumber, (Samples.leastFrom_least samples).le_of_mem⟩
  greatest := by
    rintro ⟨x, hx, hnumber⟩
    rw [storedReal_greatestSlot_describe (List.ne_nil_of_mem hx)]
    exact ⟨Samples.exists_same_greatest hx hnumber, fun y hy => Samples.le_greatest hy⟩
  noNumber := by
    intro hne hnone
    rw [storedReal_leastSlot_describe hne, storedReal_greatestSlot_describe hne]
    exact ⟨Samples.least_of_forall_isNaN hnone, Samples.greatest_of_forall_isNaN hnone⟩
  endTime := by
    intro hmoved
    have hne : samples ≠ [] := by
      rintro rfl
      exact hmoved storedReal_endSlot_describe_nil
    rw [storedReal_endSlot_describe hne] at hmoved
    exact ⟨hne, storedReal_endSlot_setLastTime hmoved⟩
  reals := fun _ hslot => storedReal_describe hslot
  integers := fun _ hslot => storedInteger_describe hslot
  text := text_describe samples

lemma sameDescription_of_perm (h : Header) (hperm : samples.Perm samples') :
    SameDescription (h.describe samples) (h.describe samples') := by
  have hcount : Samples.count samples' = Samples.count samples := by
    rw [Samples.count, Samples.count, hperm.length_eq]
  by_cases hne : samples = []
  · obtain rfl : samples' = [] := by rwa [hne, List.nil_perm] at hperm
    have hnull {slot : Fin 70} (hslot : slot ∈ [leastSlot, greatestSlot, meanSlot]) :
        ((h.describe []).storedReal slot).same ((h.describe []).storedReal slot) = true := by
      rw [storedReal_describe_nil hslot]
      decide
    rw [hne]
    exact ⟨rfl, rfl, hnull (by decide), hnull (by decide)⟩
  · have hne' : samples' ≠ [] := fun hnil => hne (by rwa [hnil, List.perm_nil] at hperm)
    refine ⟨?_, ?_, ?_, ?_⟩
    · rw [storedInteger_countSlot_describe, storedInteger_countSlot_describe, hcount]
    · rw [storedReal_endSlot_describe hne, storedReal_endSlot_describe hne', hcount]
    · rw [storedReal_leastSlot_describe hne, storedReal_leastSlot_describe hne']
      exact (Samples.leastFrom_least _).same_of_perm (Samples.leastFrom_least _) hperm.symm
    · rw [storedReal_greatestSlot_describe hne, storedReal_greatestSlot_describe hne']
      exact Samples.greatest_same_of_perm hperm.symm

end Header

/-- Samples that are attached to a trace are described by its header, where only the time of the
last one may depend on anything but them, and their order counts for no number of the description
but the mean.  Without samples the header stays as it is. -/
theorem setSamples_described (t : Trace) {samples : List Single}
    (hlen : samples.length ≤ 2147483647) :
    (∃ t', Edit.setSamples (some samples) t = .ok () t' ∧ t'.samples = some samples ∧
      t'.order = t.order ∧ t.header.Described samples t'.header ∧
      ∀ samples', samples.Perm samples' → ∃ t'', Edit.setSamples (some samples') t = .ok () t'' ∧
        Header.SameDescription t'.header t''.header) ∧
    Edit.setSamples none t = .ok () { t with samples := none } ∧
    Edit.takeSamples t = .ok t.samples { t with samples := none } := by
  refine ⟨⟨t.setSamples (some samples), rfl, rfl, rfl, Header.described_describe _ hlen, ?_⟩,
    rfl, rfl⟩
  intro samples' hperm
  exact ⟨_, rfl, Header.sameDescription_of_perm _ hperm⟩

/-- The two zeros beside a word that is no number: which of them is stored as the least sample
depends on their order, but they are the same number. -/
theorem setSamples_described_zeros :
    ∃ t t', Edit.setSamples (some [.nan false, .zero false, .zero true]) .oneSample = .ok () t ∧
      Edit.setSamples (some [.zero true, .nan false, .zero false]) .oneSample = .ok () t' ∧
      t.header.storedReal Header.leastSlot ≠ t'.header.storedReal Header.leastSlot ∧
      (t'.header.storedReal Header.leastSlot).same (t.header.storedReal Header.leastSlot) = true ∧
      (t.header.storedInteger Header.countSlot).toInt = 3 := by
  have hlen : ([.nan false, .zero false, .zero true] : List Single).length ≤ 2147483647 := by decide
  obtain ⟨⟨t, ht, -, -, hdescribed, hperm⟩, -, -⟩ := setSamples_described .oneSample hlen
  obtain ⟨t', ht', hsame⟩ := hperm [.zero true, .nan false, .zero false] (by decide)
  refine ⟨t, t', ht, ht', ?_, hsame.least, hdescribed.count⟩
  injection ht with _ ht
  injection ht' with _ ht'
  rw [← ht, ← ht']
  simp only [Trace.setSamples]
  rw [Header.storedReal_leastSlot_describe (by decide),
    Header.storedReal_leastSlot_describe (by decide)]
  decide

end Seismogram
