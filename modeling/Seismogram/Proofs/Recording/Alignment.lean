/-
# Relative times beside the samples

A trace that is made into a recording and back keeps its relative times, and so keeps them in
place beside its samples as long as the first sample has the same relative time again.  It has
if the reference time is known.  If it is not, the recording starts as many seconds after the
start of 1970 as the first sample had, and this start becomes the reference time: the first
sample is at zero then, and the other relative times are not moved along
(`relativeTime_aligned_iff`).
-/
import Mathlib.Tactic.Common
import Seismogram.Proofs.Header.Sentinel
import Seismogram.Proofs.Recording.AbsoluteTimes
import Seismogram.Proofs.Recording.Conversion
import Seismogram.Proofs.Time.Seconds

namespace Seismogram

open Seismogram.Number Seismogram.Time Seismogram.Outcome

/-! ### Whole seconds in a header -/

/-- A word is a number of whole seconds, no more than 10^6 of them. -/
structure Number.Floating.IsSeconds (x : Single) (n : ℤ) : Prop where
  finite : x.isFinite = true
  value : x.value = n
  bound : n.natAbs ≤ 1000000

namespace Header

variable {h : Header} {x : Single} {n : ℤ}

/-- The relative time of the first sample, with zero for a null one. -/
def beginning (h : Header) : ℚ := ((h.real? beginSlot).map Floating.value).getD 0

lemma isSeconds_ofInt (hn : n.natAbs ≤ 1000000) : (Floating.ofInt n : Single).IsSeconds n := by
  have hholds : Format.single.Holds (n : ℚ) := Format.holds_single_intCast (by omega)
  obtain ⟨hfinite, hvalue, -⟩ := Floating.ofRat_of_holds Format.regular_single hholds false
  exact ⟨hfinite, hvalue, hn⟩

/-- Only one number of whole seconds is the sentinel. -/
lemma eq_nullReal_iff_of_isSeconds (hx : x.IsSeconds n) : x = nullReal ↔ n = -12345 := by
  rw [← ofInt_eq_nullReal_iff, Floating.ofInt, ofRat_eq_nullReal_iff,
    ← Floating.ofRat_value Format.regular_single hx.finite, ofRat_eq_nullReal_iff, hx.value]

lemma beginning_of_stored (hstored : (h.storedReal beginSlot).IsSeconds n) (hne : n ≠ -12345) :
    h.beginning = n := by
  have hsome : h.real? beginSlot = some (h.storedReal beginSlot) :=
    real?_eq_some_iff.2 ⟨fun hnull => hne ((eq_nullReal_iff_of_isSeconds hstored).1 hnull), rfl⟩
  rw [beginning, hsome, Option.map_some, Option.getD_some, hstored.value]

/-- The first sample at a whole second: the number of seconds that a recording starts after the
reference time. -/
lemma exists_beginning (hwhole : ∀ x, h.real? beginSlot = some x → ∃ n, x.IsSeconds n) :
    ∃ (y : Double) (n : ℤ), ((h.real? beginSlot).map Floating.widen).getD (.zero false) = y ∧
      y.isFinite = true ∧ y.value = n ∧ n.natAbs ≤ 1000000 ∧ n ≠ -12345 ∧ h.beginning = n := by
  rcases hbegin : h.real? beginSlot with _ | x
  · refine ⟨.zero false, 0, rfl, by decide, by decide +kernel, by decide, by decide, ?_⟩
    rw [beginning, hbegin, Option.map_none, Option.getD_none, Int.cast_zero]
  · obtain ⟨n, hx⟩ := hwhole x hbegin
    obtain ⟨hfinite, hvalue, -⟩ := Floating.widen_of_isFinite hx.finite
    refine ⟨x.widen, n, rfl, hfinite, hvalue.trans hx.value, hx.bound, fun hn => ?_, ?_⟩
    · exact (real?_eq_some_iff.1 hbegin).1 ((eq_nullReal_iff_of_isSeconds hx).2 hn)
    · rw [beginning, hbegin, Option.map_some, Option.getD_some, hx.value]

end Header

open Header

/-! ### The start of a recording -/

namespace Trace

variable {t out : Trace} {r : Recording} {values : List (String × Value)}

lemma ordinary_referenceTimeOrEpoch (t : Trace) :
    t.referenceTimeOrEpoch.inLeapSecond = false := by
  rw [referenceTimeOrEpoch]
  split
  · rename_i reference hreference
    exact (wholeMilliseconds_referenceTime hreference).ordinary
  · rfl

lemma referenceTimeOrEpoch_of_unknown (hunknown : ¬t.header.ReferenceKnown) :
    t.referenceTimeOrEpoch = .epoch := by
  rw [referenceTimeOrEpoch]
  split
  · rename_i hreference
    exact absurd (referenceKnown_of_referenceTime hreference) hunknown
  · rfl

/-- A recording starts as many seconds after the reference time as the trace begins. -/
lemma Recorded.exists_start (hr : t.Recorded values r)
    (hwhole : ∀ x, t.header.real? beginSlot = some x → ∃ n, x.IsSeconds n) :
    ∃ n : ℤ, n.natAbs ≤ 1000000 ∧ n ≠ -12345 ∧ t.header.beginning = n ∧
      r.start.inLeapSecond = false ∧
      r.start.sinceEpoch = t.referenceTimeOrEpoch.sinceEpoch + n * 1000000000 := by
  obtain ⟨y, n, hy, hfinite, hvalue, hn, hne, hbegin⟩ := exists_beginning hwhole
  have hstart := hr.start
  rw [hy] at hstart
  exact ⟨n, hn, hne, hbegin,
    shift_wholeSeconds t.ordinary_referenceTimeOrEpoch hfinite hvalue hn hstart⟩

end Trace

namespace Recording

variable {r : Recording} {middle stored updated referred : Header} {reference : Instant}
variable {out : Trace} {n : ℤ}

/-- The trace of a recording begins as many seconds after its reference time as the recording
starts. -/
lemma Built.beginning_eq (hb : Built r stored updated referred reference out)
    (hstart : r.start.inLeapSecond = false) (hreference : reference.inLeapSecond = false)
    (hn : n.natAbs ≤ 1000000) (hne : n ≠ -12345)
    (hcount : r.start.sinceEpoch = reference.sinceEpoch + n * 1000000000) :
    out.header.beginning = n := by
  have hsince : r.start.since reference = n * 1000000000 := by
    rw [Instant.since_eq hstart hreference]
    omega
  refine beginning_of_stored ?_ hne
  rw [hb.storedReal_begin, narrow_secondsBetween hn hsince]
  exact isSeconds_ofInt hn

end Recording

namespace Trace

variable {t out : Trace} {r : Recording}

/-- There and back, the beginning is the same if the reference time is known, and otherwise
zero. -/
lemma beginning_of_toRecording (hrecord : t.toRecording = .ok r) (hout : r.toTrace = .ok out)
    (hwhole : ∀ x, t.header.real? beginSlot = some x → ∃ n, x.IsSeconds n) :
    (t.header.ReferenceKnown → out.header.beginning = t.header.beginning) ∧
      (¬t.header.ReferenceKnown → out.header.beginning = 0) := by
  obtain ⟨values, hr⟩ := exists_recorded hrecord
  obtain ⟨middle, stored, updated, referred, reference, hheld, hb⟩ :=
    Recording.exists_built hr.headers hout
  obtain ⟨n, hn, hne, hbegin, hordinary, hcount⟩ := hr.exists_start hwhole
  have hgives := givesReferenceTime_iff hr.entries
  constructor
  · intro hknown
    have hreference := hb.reference_of_given hr.headers (hgives.2 hknown)
    rw [referenceTime_of_held hr.entries hheld hknown] at hreference
    have hsame : t.referenceTimeOrEpoch = reference := by rw [referenceTimeOrEpoch, hreference]
    rw [hsame] at hcount
    rw [hbegin]
    exact hb.beginning_eq hordinary (hsame ▸ t.ordinary_referenceTimeOrEpoch) hn hne hcount
  · intro hunknown
    have hround := hb.reference_of_start hr.headers
      (Bool.eq_false_iff.2 fun hgiven => hunknown (hgives.1 hgiven))
    -- the start of 1970 and whole seconds: nothing is rounded
    have hzero : Instant.epoch.sinceEpoch = 0 := rfl
    rw [t.referenceTimeOrEpoch_of_unknown hunknown, hzero] at hcount
    have hmillis : r.start.WholeMilliseconds :=
      wholeMilliseconds_of_sinceEpoch hordinary (n := n * 1000) (by omega)
    obtain rfl := Except.ok.inj ((roundToMillisecond_of_whole hmillis).symm.trans hround)
    have hbegin' := hb.beginning_eq (n := 0) hordinary hordinary (by decide) (by decide) (by omega)
    rwa [Int.cast_zero] at hbegin'

/-- There and back, a relative time that is not null is the same word. -/
lemma real?_relativeTime_of_toRecording (hrecord : t.toRecording = .ok r)
    (hout : r.toTrace = .ok out) {name : String} {slot : Fin 70} {x : Single}
    (hname : relativeTimeSlot name = .ok slot) (hbegin : slot ≠ beginSlot) (hend : slot ≠ endSlot)
    (hx : t.header.real? slot = some x) : out.header.real? slot = some x := by
  obtain ⟨values, hr⟩ := exists_recorded hrecord
  obtain ⟨middle, stored, updated, referred, reference, hheld, hb⟩ :=
    Recording.exists_built hr.headers hout
  obtain ⟨f, hfound, hcell⟩ := relativeTimeSlot_eq_ok_iff.1 hname
  obtain ⟨hf, -⟩ := Schema.find?_eq_some hfound
  have hread (h : Header) : h.value? f = .ok ((h.real? slot).map .real) := by
    rw [value?, hcell]
  have hkeeps := keeps_of_held hr.entries hheld hf fun span hspan =>
    absurd (hcell.symm.trans hspan) (by simp)
  have hstored := hkeeps.known (.real x) (by rw [get_of_mem hf, hread, hx]; rfl)
  rw [get_of_mem hf, hread, Except.ok.injEq, Option.map_eq_some_iff] at hstored
  obtain ⟨y, hy, hxy⟩ := hstored
  rw [real?_congr (hb.storedReal_relativeTime hf hcell hbegin hend), hy, Value.real.inj hxy]

end Trace

/-- A trace whose first sample has a relative time of whole seconds, or a null one, that is made
into a recording and back: every other relative time that is not null, besides the end, is the
same word again.  It is as far from the first sample as before exactly if the reference time is
known or the first sample was at zero already; a reference time that is not known is replaced
by the time of the first sample, without moving the others. -/
theorem relativeTime_aligned_iff {t out : Trace} {r : Recording} {name : String}
    {slot : Fin 70} {x : Single}
    (hwhole : ∀ x, t.header.real? beginSlot = some x → ∃ n, x.IsSeconds n)
    (hrecord : t.toRecording = .ok r) (hout : r.toTrace = .ok out)
    (hname : relativeTimeSlot name = .ok slot) (hbegin : slot ≠ beginSlot)
    (hend : slot ≠ endSlot) (hx : t.header.real? slot = some x) :
    out.header.real? slot = some x ∧
      (t.header.ReferenceKnown → out.header.beginning = t.header.beginning) ∧
      (¬t.header.ReferenceKnown → out.header.beginning = 0) ∧
      (x.value - out.header.beginning = x.value - t.header.beginning ↔
        t.header.ReferenceKnown ∨ t.header.beginning = 0) := by
  obtain ⟨hknown, hunknown⟩ := Trace.beginning_of_toRecording hrecord hout hwhole
  refine ⟨Trace.real?_relativeTime_of_toRecording hrecord hout hname hbegin hend hx, hknown,
    hunknown, ?_⟩
  rw [sub_right_inj]
  by_cases hreference : t.header.ReferenceKnown
  · exact iff_of_true (hknown hreference) (Or.inl hreference)
  · rw [hunknown hreference, or_iff_right hreference, eq_comm]

/-! ### Ten seconds before a pick -/

/-- A trace that begins at 10 seconds and has a first arrival at 20 seconds, but no reference
time. -/
def Trace.picked : Trace where
  header := (Header.blank.setReal beginSlot (some (.ofInt 10))).setReal 8 (some (.ofInt 20))
  samples := some []
  order := .little

namespace Trace

lemma integer?_picked (slot : Fin 40) : picked.header.integer? slot = none := by
  rw [integer?_eq_none_iff, storedInteger]
  exact Vector.getElem_replicate _

lemma real?_picked (slot : Fin 70) : picked.header.real? slot =
    if 8 = slot then some (.ofInt 20) else if beginSlot = slot then some (.ofInt 10) else none := by
  have hten : (Floating.ofInt 10 : Single) ≠ nullReal := mt ofInt_eq_nullReal_iff.1 (by decide)
  have htwenty : (Floating.ofInt 20 : Single) ≠ nullReal := mt ofInt_eq_nullReal_iff.1 (by decide)
  have hstored : picked.header.storedReal slot = if 8 = slot then .ofInt 20
      else if beginSlot = slot then .ofInt 10 else nullReal := by
    rw [picked, storedReal_setReal, storedReal_setReal]
    congr 2
    exact Vector.getElem_replicate _
  split_ifs at hstored ⊢
  · exact real?_eq_some_iff.2 ⟨hstored ▸ htwenty, hstored⟩
  · exact real?_eq_some_iff.2 ⟨hstored ▸ hten, hstored⟩
  · exact real?_eq_none_iff.2 hstored

lemma isSeconds_picked {slot : Fin 70} {x : Single} (hx : picked.header.real? slot = some x) :
    ∃ n, x.IsSeconds n := by
  rw [real?_picked] at hx
  split_ifs at hx
  · obtain rfl := Option.some.inj hx
    exact ⟨20, isSeconds_ofInt (by decide)⟩
  · obtain rfl := Option.some.inj hx
    exact ⟨10, isSeconds_ofInt (by decide)⟩

lemma not_referenceKnown_picked : ¬picked.header.ReferenceKnown := fun hknown =>
  hknown ("nzyear", 0) (by decide) (integer?_picked 0)

lemma distancesFollow_picked : picked.header.distancesFollow = .ok none := by
  rw [distancesFollow, logical?, integer?_picked]

lemma exists_toTrace_picked : ∃ r out, picked.toRecording = .ok r ∧ r.toTrace = .ok out := by
  obtain ⟨values, hvalues⟩ := exists_entries_of_null fun slot _ => integer?_picked slot
  have hbegin : picked.header.real? beginSlot = some (.ofInt 10) := real?_picked beginSlot
  have hstart : shift .epoch (Floating.ofInt 10 : Single).widen = .ok (.fromEpoch 10) := by
    decide +kernel
  have hyear : yearOf (Instant.fromEpoch 10).day ≠ -12345 := by decide +kernel
  obtain ⟨r, hrecord, hr⟩ := exists_toRecording hvalues (by
    rw [referenceTimeOrEpoch_of_unknown not_referenceKnown_picked, hbegin, Option.map_some,
      Option.getD_some, hstart])
  obtain ⟨values', hrecorded⟩ := exists_recorded hrecord
  obtain ⟨stored, hheld⟩ := exists_held hrecorded.entries (textWellFormed_of_blank rfl)
  have hkeeps := keepsDistances_of_held hrecorded.entries hheld (by
    rw [distancesFollow_picked]
    simp)
  have hgives : Recording.givesReferenceTime (.ofList values') = false :=
    Bool.eq_false_iff.2 fun hgiven =>
      not_referenceKnown_picked ((givesReferenceTime_iff hrecorded.entries).1 hgiven)
  have hround : roundToMillisecond r.start = .ok r.start := by
    rw [hr, roundToMillisecond_fromEpoch]
  rw [← hr] at hyear
  obtain ⟨out, hout⟩ := Recording.Built.exists_toTrace_of_start hrecorded.headers hheld hkeeps
    hgives hround hyear
  exact ⟨r, out, hrecord, hout⟩

end Trace

theorem relativeTime_aligned_picked :
    ∃ r out, Trace.picked.toRecording = .ok r ∧ r.toTrace = .ok out ∧
      out.header.real? 8 = some (.ofInt 20) ∧ out.header.beginning = 0 := by
  obtain ⟨r, out, hrecord, hout⟩ := Trace.exists_toTrace_picked
  obtain ⟨hkept, -, hunknown, -⟩ := relativeTime_aligned_iff
    (fun x hx => Trace.isSeconds_picked hx) hrecord hout relativeTimeSlot_a (by decide)
    (by decide) (Trace.real?_picked 8)
  exact ⟨r, out, hrecord, hout, hkept, hunknown Trace.not_referenceKnown_picked⟩

/-- The arrival was ten seconds after the first sample, and is twenty seconds after it then. -/
theorem relativeTime_misaligned_picked :
    (∀ f ∈ Schema.fields, ∀ slot, f.cell = .relativeTime slot →
      ∀ x, Trace.picked.header.real? slot = some x → ∃ n, x.IsSeconds n) ∧
    ∃ r out, Trace.picked.toRecording = .ok r ∧ r.toTrace = .ok out ∧
      Trace.picked.header.real? 8 = some (.ofInt 20) ∧ Trace.picked.header.beginning = 10 ∧
      out.header.real? 8 = some (.ofInt 20) ∧ out.header.beginning = 0 := by
  refine ⟨fun _ _ _ _ _ hx => Trace.isSeconds_picked hx, ?_⟩
  obtain ⟨r, out, hrecord, hout⟩ := Trace.exists_toTrace_picked
  have hpick : Trace.picked.header.real? 8 = some (.ofInt 20) := Trace.real?_picked 8
  refine ⟨r, out, hrecord, hout, hpick, ?_,
    Trace.real?_relativeTime_of_toRecording hrecord hout relativeTimeSlot_a (by decide)
      (by decide) hpick,
    (Trace.beginning_of_toRecording hrecord hout fun x hx => Trace.isSeconds_picked hx).2
      Trace.not_referenceKnown_picked⟩
  have hbegin : Trace.picked.header.real? beginSlot = some (.ofInt 10) := Trace.real?_picked _
  have hten := (isSeconds_ofInt (n := 10) (by decide)).value
  rw [beginning, hbegin, Option.map_some, Option.getD_some, hten, Int.cast_ofNat]

end Seismogram
