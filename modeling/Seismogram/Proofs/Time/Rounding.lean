/-
# Rounding to the nearest millisecond

Rounding goes back to the beginning of the second and forward by whole milliseconds.  Both steps
carry into all larger units, so that on the count of nanoseconds from the start of 1970 nothing
is left of the units: the result has the number of the whole millisecond that is nearest to that
of the instant, the later of two equally near (`roundToMillisecond_eq_ok_iff`).  There is such an
instant unless that millisecond is after the last instant (`exists_roundToMillisecond_iff`).

All laws of rounding are laws of the nearest millisecond of a number.  Instants in a leap second
are rounded by their numbers too, which are those of the second that follows.  So a leap second
may be rounded to a later time than an instant of that second, and rounding keeps the order only
from instants outside leap seconds on (`roundToMillisecond_mono`).
-/
import Mathlib.Tactic.Common
import Seismogram.Proofs.Time.Instant
import Seismogram.Time.Reference

namespace Seismogram.Time

open Instant

variable {t u v w : Instant} {m n r s : Int}

/-! ### Whole milliseconds -/

/-- A number of whole milliseconds from the start of 1970, outside leap seconds. -/
structure Instant.WholeMilliseconds (t : Instant) : Prop where
  ordinary : t.inLeapSecond = false
  whole : t.nanosecond % nanosPerMillisecond = 0

lemma wholeMilliseconds_of_sinceEpoch (ht : t.inLeapSecond = false) {n : Int}
    (hn : t.sinceEpoch = n * 1000000) : t.WholeMilliseconds := by
  refine ⟨ht, ?_⟩
  rw [sinceEpoch_eq] at hn
  rw [nanosPerMillisecond]
  omega

lemma Instant.wholeMilliseconds_epoch : epoch.WholeMilliseconds := ⟨rfl, rfl⟩

/-! ### The nearest millisecond of a number -/

/-- The whole millisecond `r` is nearest to the time `n`, the later of two equally near; both are
in nanoseconds. -/
structure NearestMillisecond (n r : Int) : Prop where
  whole : (nanosPerMillisecond : Int) ∣ r
  lt : -(nanosPerMillisecond : Int) < 2 * (r - n)
  le : 2 * (r - n) ≤ nanosPerMillisecond

namespace NearestMillisecond

/-- Later times have later nearest milliseconds. -/
lemma mono (hr : NearestMillisecond m r) (hs : NearestMillisecond n s) (hmn : m ≤ n) : r ≤ s := by
  obtain ⟨hwhole, hlt, hle⟩ := hr
  obtain ⟨hwhole', hlt', hle'⟩ := hs
  rw [nanosPerMillisecond] at hwhole hlt hle hwhole' hlt' hle'
  -- otherwise they would be two milliseconds less than one apart
  omega

lemma unique (hr : NearestMillisecond n r) (hs : NearestMillisecond n s) : r = s :=
  Int.le_antisymm (hr.mono hs (Int.le_refl n)) (hs.mono hr (Int.le_refl n))

/-- A whole millisecond is its own nearest one. -/
lemma self (hn : (nanosPerMillisecond : Int) ∣ n) : NearestMillisecond n n := by
  refine ⟨hn, ?_, ?_⟩ <;> simp [nanosPerMillisecond]

end NearestMillisecond

/-! ### Rounding -/

/-- The beginning of the second and the milliseconds that are added to it make the nearest
millisecond, in a leap second as well. -/
lemma nearestMillisecond_sinceEpoch (t : Instant) :
    NearestMillisecond t.sinceEpoch (t.unixSeconds * nanosPerSecond +
      ((t.nanosecond + nanosPerMillisecond / 2) / nanosPerMillisecond * nanosPerMillisecond : Nat)) := by
  rw [sinceEpoch]
  refine ⟨?_, ?_, ?_⟩ <;> simp only [nanosPerSecond, nanosPerMillisecond] <;> omega

/-- On the count from the start of 1970, an instant is rounded to its nearest millisecond. -/
lemma roundToMillisecond_eq_ok_iff : roundToMillisecond t = .ok u ↔
    u.inLeapSecond = false ∧ NearestMillisecond t.sinceEpoch u.sinceEpoch := by
  obtain ⟨begin, hbegin⟩ := exists_add?_neg_nanosecond t
  obtain ⟨hordinary, hcount⟩ := add?_neg_nanosecond_eq_some_iff.1 hbegin
  have hnearest := nearestMillisecond_sinceEpoch t
  have hsum : roundToMillisecond t = .ok u ↔ begin.add? ((t.nanosecond + nanosPerMillisecond / 2)
      / nanosPerMillisecond * nanosPerMillisecond : Nat) = some u := by
    simp only [roundToMillisecond, hbegin, Option.bind_some]
    split
    · rename_i hsome
      rw [hsome, Except.ok.injEq, Option.some.injEq]
    · rename_i hnone
      rw [hnone]
      exact iff_of_false (by simp) (by simp)
  rw [hsum, add?_eq_some_iff hordinary, hcount, and_congr_right_iff]
  intro _
  constructor
  · intro hu
    rw [hu]
    exact hnearest
  · intro hu
    exact hu.unique hnearest

/-- An instant is rounded, unless its nearest millisecond is after the last instant. -/
lemma exists_roundToMillisecond_iff (hr : NearestMillisecond t.sinceEpoch r) :
    (∃ u, roundToMillisecond t = .ok u) ↔ r ≤ last.sinceEpoch := by
  constructor
  · rintro ⟨u, hu⟩
    obtain ⟨hordinary, hnearest⟩ := roundToMillisecond_eq_ok_iff.1 hu
    rw [hr.unique hnearest]
    exact sinceEpoch_le_of_le hordinary (le_last hordinary)
  · intro hle
    -- the first midnight of the calendar is a whole millisecond
    have hfirst : firstDay * 86400 * 1000000000 ≤ r := by
      refine (NearestMillisecond.self ?_).mono hr ?_
      · rw [nanosPerMillisecond]
        omega
      · have hday := t.day_mem.1
        rw [sinceEpoch_eq]
        omega
    have hlast : r < (lastDay + 1) * 86400 * 1000000000 := by
      rw [sinceEpoch_last] at hle
      omega
    obtain ⟨u, hordinary, hcount⟩ := exists_sinceEpoch_iff.2 ⟨hfirst, hlast⟩
    exact ⟨u, roundToMillisecond_eq_ok_iff.2 ⟨hordinary, hcount ▸ hr⟩⟩

/-- Rounding complains of nothing but the instant. -/
lemma roundToMillisecond_eq_error (hnone : ¬∃ u, roundToMillisecond t = .ok u) :
    roundToMillisecond t = .error (.invalidReferenceTime (.rounding t)) := by
  simp only [roundToMillisecond] at hnone ⊢
  split
  · rename_i u hsome
    rw [hsome] at hnone
    exact absurd ⟨u, rfl⟩ hnone
  · rfl

lemma wholeMilliseconds_roundToMillisecond (hu : roundToMillisecond t = .ok u) :
    u.WholeMilliseconds := by
  obtain ⟨hordinary, ⟨n, hn⟩, -, -⟩ := roundToMillisecond_eq_ok_iff.1 hu
  exact wholeMilliseconds_of_sinceEpoch hordinary (hn.trans (Int.mul_comm _ n))

/-- Whole milliseconds are left as they are. -/
lemma roundToMillisecond_of_whole (ht : t.WholeMilliseconds) : roundToMillisecond t = .ok t := by
  obtain ⟨hordinary, hwhole⟩ := ht
  refine roundToMillisecond_eq_ok_iff.2 ⟨hordinary, .self ?_⟩
  rw [nanosPerMillisecond] at hwhole ⊢
  rw [sinceEpoch_eq]
  omega

/-- Rounding keeps the order from an instant outside leap seconds on. -/
lemma roundToMillisecond_mono (ht : t.inLeapSecond = false) (hle : t ≤ v)
    (hu : roundToMillisecond t = .ok u) (hw : roundToMillisecond v = .ok w) : u ≤ w := by
  obtain ⟨-, hnearest⟩ := roundToMillisecond_eq_ok_iff.1 hu
  obtain ⟨hordinary, hnearest'⟩ := roundToMillisecond_eq_ok_iff.1 hw
  exact le_of_sinceEpoch_le hordinary (hnearest.mono hnearest' (sinceEpoch_le_of_le ht hle))

lemma since_epoch (ht : t.inLeapSecond = false) : t.since .epoch = t.sinceEpoch :=
  (since_eq ht rfl).trans (Int.sub_zero _)

/-- Outside leap seconds, an instant is rounded to the nearest millisecond from the start of 1970
and of two equally near to the later one, unless that is after the last instant.  Rounding what has
been rounded changes nothing, and later instants are not rounded to earlier ones. -/
theorem roundToMillisecond_nearest :
    (∀ t, t.inLeapSecond = false → ∃ r, NearestMillisecond (t.since .epoch) r ∧
      ((∃ u, roundToMillisecond t = .ok u) ↔ r ≤ last.since .epoch) ∧
      (last.since .epoch < r →
        roundToMillisecond t = .error (.invalidReferenceTime (.rounding t))) ∧
      ∀ u, roundToMillisecond t = .ok u → u.inLeapSecond = false ∧ u.since .epoch = r ∧
        (nanosPerMillisecond : Int) ∣ u.since .epoch ∧
        -(nanosPerMillisecond : Int) < 2 * u.since t ∧ 2 * u.since t ≤ nanosPerMillisecond) ∧
    (∀ t u, roundToMillisecond t = .ok u → roundToMillisecond u = .ok u) ∧
    ∀ t v u w, t.inLeapSecond = false → t ≤ v →
      roundToMillisecond t = .ok u → roundToMillisecond v = .ok w → u ≤ w := by
  refine ⟨fun t ht => ?_, fun t u hu => ?_, fun t v u w => roundToMillisecond_mono⟩
  · have hr := nearestMillisecond_sinceEpoch t
    have hexists := exists_roundToMillisecond_iff hr
    rw [since_epoch ht, since_epoch (t := last) rfl]
    refine ⟨_, hr, hexists, fun hlast => ?_, fun u hu => ?_⟩
    · refine roundToMillisecond_eq_error fun hsome => ?_
      exact absurd (hexists.1 hsome) (Int.not_le.2 hlast)
    · obtain ⟨hordinary, hnearest⟩ := roundToMillisecond_eq_ok_iff.1 hu
      rw [since_epoch hordinary, since_eq hordinary ht]
      exact ⟨hordinary, hnearest.unique hr, hnearest.whole, hnearest.lt, hnearest.le⟩
  · exact roundToMillisecond_of_whole (wholeMilliseconds_roundToMillisecond hu)

/-- Half a millisecond before 1970, in the last second of a day. -/
def Instant.halfMillisecondBefore : Instant :=
  { last with
    day := -1
    nanosecond := 999500000
    day_mem := by decide
    nanosecond_lt := by decide
    leap := by decide }

/-- Half a millisecond before 1970 is rounded up, into another second, day and year.  The last
nanosecond of the calendar has no millisecond to be rounded up to. -/
theorem roundToMillisecond_nearest_yearEnd :
    (decompose halfMillisecondBefore = ⟨1969, 365, 23, 59, 59, 999⟩ ∧
      halfMillisecondBefore.inLeapSecond = false ∧ halfMillisecondBefore ≤ .epoch ∧
      halfMillisecondBefore.since .epoch = -500000 ∧
      ∃ u, roundToMillisecond halfMillisecondBefore = .ok u ∧ u.since .epoch = 0 ∧
        roundToMillisecond u = .ok u ∧ u ≤ .epoch) ∧
    roundToMillisecond last = .error (.invalidReferenceTime (.rounding last)) := by
  obtain ⟨hround, hagain, hmono⟩ := roundToMillisecond_nearest
  refine ⟨?_, ?_⟩
  · obtain ⟨r, ⟨⟨millis, hmillis⟩, hlt, hle⟩, hexists, -, hnearest⟩ :=
      hround halfMillisecondBefore rfl
    have hbefore : halfMillisecondBefore.since .epoch = -500000 := by decide
    rw [hbefore, nanosPerMillisecond] at hlt hle
    rw [nanosPerMillisecond] at hmillis
    obtain rfl : r = 0 := by omega
    obtain ⟨u, hu⟩ := hexists.2 (by decide)
    have hfirst : halfMillisecondBefore ≤ .epoch := .inl (by decide)
    have hepoch := roundToMillisecond_of_whole Instant.wholeMilliseconds_epoch
    exact ⟨by decide +kernel, rfl, hfirst, hbefore, u, hu, (hnearest u hu).2.1, hagain _ u hu,
      hmono _ .epoch u .epoch rfl hfirst hu hepoch⟩
  · obtain ⟨r, ⟨⟨millis, hmillis⟩, hlt, -⟩, -, hlast, -⟩ := hround last rfl
    refine hlast ?_
    rw [since_epoch rfl, sinceEpoch_last, nanosPerMillisecond] at hlt
    rw [nanosPerMillisecond] at hmillis
    rw [since_epoch rfl, sinceEpoch_last]
    omega

end Seismogram.Time
