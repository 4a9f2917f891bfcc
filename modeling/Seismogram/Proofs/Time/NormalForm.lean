/-
# One vector of normal fields for every millisecond

Taking an instant apart forgets what is less than a millisecond and nothing else: put together
again, its fields are the last whole millisecond that is not after it, also before 1970
(`compose_decompose_of_ordinary`).  Normal fields are always put together to an instant, and
are what that instant is taken apart into.  So the fields that an instant of whole milliseconds
is taken apart into are the only normal ones among all the fields that add up to it
(`decompose_normalForm`).
-/
import Mathlib.Tactic.Common
import Seismogram.Proofs.Time.Composition

namespace Seismogram.Time

open Instant

variable {t u : Instant} {f : ReferenceFields}

/-- The last whole millisecond that is not after an instant. -/
structure Instant.LastMillisecond (t u : Instant) : Prop where
  whole : u.WholeMilliseconds
  le : u.sinceEpoch ≤ t.sinceEpoch
  lt : t.sinceEpoch < u.sinceEpoch + nanosPerMillisecond

/-! ### Less than a millisecond -/

lemma decompose_congr (hday : u.day = t.day) (hsecond : u.second = t.second)
    (hmillisecond : u.nanosecond / nanosPerMillisecond = t.nanosecond / nanosPerMillisecond) :
    decompose u = decompose t := by
  simp only [decompose, hday, hsecond, hmillisecond]

/-- Every second of the calendar has all of its milliseconds, so that what is less than one can
be cut off; the fields do not show it. -/
lemma exists_lastMillisecond (ht : t.inLeapSecond = false) :
    ∃ u, t.LastMillisecond u ∧ decompose u = decompose t := by
  have hlt := inLeapSecond_eq_false_iff.1 ht
  have hcut : t.nanosecond / nanosPerMillisecond * nanosPerMillisecond < nanosPerSecond :=
    Nat.lt_of_le_of_lt (Nat.div_mul_le_self _ _) hlt
  obtain ⟨u, hu, hordinary, hcount⟩ := exists_ofParts? t.day_mem t.second_lt hcut
  obtain ⟨hday, hsecond, hnanosecond⟩ := ofParts?_eq_some_iff.1 hu
  rw [nanosPerMillisecond] at hnanosecond hcount
  refine ⟨u, ⟨⟨hordinary, ?_⟩, ?_, ?_⟩, decompose_congr hday hsecond ?_⟩
  · rw [hnanosecond, nanosPerMillisecond]
    exact Nat.mul_mod_left _ _
  · rw [hcount, sinceEpoch_eq]
    omega
  · rw [hcount, sinceEpoch_eq, nanosPerMillisecond]
    omega
  · rw [hnanosecond, nanosPerMillisecond]
    omega

/-- An instant that is taken apart and put together again is cut off to a millisecond. -/
lemma compose_decompose_of_ordinary (ht : t.inLeapSecond = false) :
    ∃ u, compose (decompose t) = .ok u ∧ t.LastMillisecond u := by
  obtain ⟨u, hlast, hsame⟩ := exists_lastMillisecond ht
  refine ⟨u, ?_, hlast⟩
  rw [← hsame]
  exact compose_decompose hlast.whole

/-! ### Normal fields -/

/-- Milliseconds of normal fields are those of one year. -/
lemma ReferenceFields.Normal.milliseconds_mem (hf : f.Normal) :
    0 ≤ f.milliseconds ∧ f.milliseconds < daysInYear f.year.toInt * 86400000 := by
  obtain ⟨-, hday, hhour, hminute, hsecond, hmillisecond⟩ := hf
  rw [ReferenceFields.milliseconds]
  omega

/-- Normal fields are always put together. -/
lemma exists_compose_of_normal (hf : f.Normal) : ∃ t, compose f = .ok t := by
  obtain ⟨hlow, hhigh⟩ := hf.milliseconds_mem
  have hfirst := daysBefore_mono hf.year.1
  have hlast := daysBefore_mono (show f.year.toInt + 1 ≤ lastYear + 1 from
    Int.add_le_add_right hf.year.2 1)
  rw [daysBefore_succ] at hlast
  -- the sum lies in its year, and the year in the calendar
  obtain ⟨t, hordinary, hcount⟩ := (exists_sinceEpoch_iff
    (n := daysBefore f.year.toInt * 86400 * 1000000000 + f.milliseconds * 1000000)).2 (by
      rw [firstDay, lastDay]
      omega)
  exact ⟨t, (compose_eq_ok_iff hf.year).2 ⟨hordinary, hcount⟩⟩

/-- Of all fields that are put together to an instant, only those that it is taken apart into are
normal. -/
lemma normal_and_compose_iff (ht : t.WholeMilliseconds) :
    f.Normal ∧ compose f = .ok t ↔ f = decompose t := by
  constructor
  · rintro ⟨hf, hcompose⟩
    exact (decompose_compose hf hcompose).symm
  · rintro rfl
    exact ⟨normal_decompose t, compose_decompose ht⟩

/-- Putting together and taking apart are inverse, up to what is less than a millisecond and up to
the form of the fields. -/
theorem decompose_normalForm :
    (∀ t, t.inLeapSecond = false → ∃ u, compose (decompose t) = .ok u ∧ t.LastMillisecond u) ∧
    (∀ f : ReferenceFields, f.Normal → ∃ t, compose f = .ok t ∧ decompose t = f) ∧
    ∀ f t, compose f = .ok t →
      ∀ g : ReferenceFields, g.Normal ∧ compose g = .ok t ↔ g = decompose t := by
  refine ⟨fun t ht => compose_decompose_of_ordinary ht, fun f hf => ?_, fun f t ht g => ?_⟩
  · obtain ⟨t, ht⟩ := exists_compose_of_normal hf
    exact ⟨t, ht, decompose_compose hf ht⟩
  · exact normal_and_compose_iff (wholeMilliseconds_compose ht)

/-- The last nanosecond before 1970 belongs to the last millisecond of 1969, which is also a
millisecond less than none. -/
theorem decompose_normalForm_beforeEpoch :
    ∃ t u : Instant, t.inLeapSecond = false ∧ t.sinceEpoch = -1 ∧
      compose (decompose t) = .ok u ∧ u.sinceEpoch = -1000000 ∧
      compose ⟨1970, 1, 0, 0, 0, -1⟩ = .ok u ∧ decompose u = ⟨1969, 365, 23, 59, 59, 999⟩ := by
  obtain ⟨hcut, -, hunique⟩ := decompose_normalForm
  obtain ⟨t, ht, hcount⟩ := (exists_sinceEpoch_iff (n := -1)).2 (by decide)
  obtain ⟨u, hu, hwhole, hle, hlt⟩ := hcut t ht
  have hlast : u.sinceEpoch = -1000000 := by
    have hdigits := hwhole.whole
    rw [hcount, sinceEpoch_eq] at hle hlt
    rw [nanosPerMillisecond] at hdigits hlt
    rw [sinceEpoch_eq]
    omega
  have hless : compose ⟨1970, 1, 0, 0, 0, -1⟩ = .ok u :=
    compose_eq_ok_iff_sinceEpoch.2 ⟨⟨by decide, by decide⟩, hwhole.ordinary, hlast.trans (by decide)⟩
  have hfields : compose ⟨1969, 365, 23, 59, 59, 999⟩ = .ok u :=
    compose_eq_ok_iff_sinceEpoch.2 ⟨⟨by decide, by decide⟩, hwhole.ordinary, hlast.trans (by decide)⟩
  have hrange : ReferenceFields.Normal ⟨1969, 365, 23, 59, 59, 999⟩ :=
    ⟨by decide, by decide, by decide, by decide, by decide, by decide⟩
  exact ⟨t, u, ht, hcount, hu, hlast, hless, ((hunique _ u hless _).1 ⟨hrange, hfields⟩).symm⟩

end Seismogram.Time
