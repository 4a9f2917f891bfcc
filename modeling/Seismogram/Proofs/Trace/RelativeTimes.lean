/-
# Relative times that become null

A relative time is a word like any other, and one of the words is the sentinel.  A known time
whose distance from the reference time comes near -12345 seconds is therefore stored as null,
and this is the only way in which a move of the reference time, or storing an instant, loses
a time (`relativeTime_null_iff`).
-/
import Mathlib.Tactic.Common
import Seismogram.Proofs.Header.Cells
import Seismogram.Proofs.Header.ReferenceTime
import Seismogram.Proofs.Header.Sentinel
import Seismogram.Proofs.Trace.Encoding

namespace Seismogram

open Seismogram.Number Seismogram.Time Seismogram.Outcome

namespace Header

variable {h k : Header} {slot : Fin 70}

/-! ### The reference time moved -/

lemma movedReal_eq_nullReal_iff (seconds : Double) (x : Single) :
    movedReal seconds x = nullReal ↔ x = nullReal ∨ NearSentinel (x.widen.add seconds) := by
  rw [movedReal]
  split_ifs with hnull
  · exact iff_of_true rfl (Or.inl hnull)
  · rw [narrow_eq_nullReal_iff, or_iff_right hnull]

/-- A relative time is null after a move if it was null, or if it is moved to the sentinel. -/
lemma Moved.real?_eq_none_iff {new : Instant} (hmoved : Moved new h k) {f : Field}
    (hf : f ∈ Schema.fields) (hcell : f.cell = .relativeTime slot) :
    k.real? slot = none ↔ h.real? slot = none ∨
      ∃ old x, h.referenceTime = .ok old ∧ h.real? slot = some x ∧
        NearSentinel (x.widen.add (secondsBetween old new)) := by
  rw [Header.real?_eq_none_iff, Header.real?_eq_none_iff]
  rcases hold : h.referenceTime with e | old
  · -- without an old reference time nothing is moved
    rw [hmoved.unknown e hold slot]
    simp
  · rw [hmoved.known old hold f hf slot hcell, movedReal_eq_nullReal_iff]
    refine or_congr_right' fun hne => ?_
    have hsome : h.real? slot = some (h.storedReal slot) := real?_eq_some_iff.2 ⟨hne, rfl⟩
    simp [hsome]

/-! ### An instant stored -/

lemma setInstant_eq_ok_iff {t : Instant} :
    h.setInstant slot t = .ok k ↔ ∃ reference, h.referenceTime = .ok reference ∧
      k = h.setReal slot (some (secondsBetween t reference).narrow) := by
  simp only [setInstant, bind_eq_ok_iff, Except.ok.injEq]
  exact exists_congr fun _ => and_congr_right fun _ => eq_comm

lemma instantAt_eq_none_iff : h.instantAt slot = .ok none ↔ h.real? slot = none := by
  rw [instantAt]
  cases h.real? slot <;> simp [bind_eq_ok_iff]

/-- An instant that was stored is there unless its distance is near the sentinel. -/
lemma instantAt_setReal_eq_none_iff (y : Double) :
    (h.setReal slot (some y.narrow)).instantAt slot = .ok none ↔ NearSentinel y := by
  rw [instantAt_eq_none_iff, real?_eq_none_iff, storedReal_setReal, if_pos rfl, Option.getD_some,
    narrow_eq_nullReal_iff]

end Header

namespace Edit

lemma setInstant_eq_ok_iff {name : String} {i : Instant} {t t' : Trace} {u : Unit} :
    setInstant name i t = .ok u t' ↔ ∃ slot h, Header.relativeTimeSlot name = .ok slot ∧
      t.header.setInstant slot i = .ok h ∧ t' = { t with header := h } := by
  simp only [setInstant, run_eq_ok_iff, ask_eq_ok_iff, replaceHeader_eq_ok_iff]
  constructor
  · rintro ⟨slot, _, ⟨hslot, rfl⟩, h, hh, rfl⟩
    exact ⟨slot, h, hslot, hh, rfl⟩
  · rintro ⟨slot, h, hslot, hh, rfl⟩
    exact ⟨slot, t, ⟨hslot, rfl⟩, h, hh, rfl⟩

end Edit

open Header

/-- After a move of the reference time a relative time is null if and only if it was null
before or, both reference times being known, is moved to within 1/2048 s of -12345 s.  And an
instant that was stored in a relative time is there if and only if its distance from the
reference time is not as near to that. -/
theorem relativeTime_null_iff {t t' : Trace} {i : Instant} :
    (Edit.setReferenceTime i t = .ok () t' →
      ∀ f ∈ Schema.fields, ∀ slot, f.cell = .relativeTime slot →
        (t'.header.real? slot = none ↔ t.header.real? slot = none ∨
          ∃ old new x, t.header.referenceTime = .ok old ∧ roundToMillisecond i = .ok new ∧
            t.header.real? slot = some x ∧
            NearSentinel (x.widen.add (secondsBetween old new)))) ∧
    ∀ name, Edit.setInstant name i t = .ok () t' →
      ∃ reference, t.header.referenceTime = .ok reference ∧
        (t'.header.getInstant name ≠ .ok none ↔ ¬NearSentinel (secondsBetween i reference)) := by
  constructor
  · intro hmove f hf slot hcell
    obtain ⟨h, hh, rfl⟩ := Edit.replaceHeader_eq_ok_iff.1 hmove
    obtain ⟨new, hnew, hmoved⟩ := moved_of_setReferenceTime hh
    rw [hmoved.real?_eq_none_iff hf hcell]
    refine or_congr_right (exists_congr fun old => ?_)
    simp [hnew]
  · intro name hstore
    obtain ⟨slot, h, hslot, hh, rfl⟩ := Edit.setInstant_eq_ok_iff.1 hstore
    obtain ⟨reference, hreference, rfl⟩ := setInstant_eq_ok_iff.1 hh
    refine ⟨reference, hreference, ?_⟩
    rw [getInstant, hslot, ok_bind, not_iff_not]
    exact instantAt_setReal_eq_none_iff _

/-! ### A time that is lost -/

/-- The instant a number of seconds after the start of 1970. -/
def Time.Instant.fromEpoch (seconds : Int) : Instant :=
  (epoch.add? (seconds * nanosPerSecond)).getD epoch

/-- A trace that begins at its reference time, the start of 1970. -/
def Trace.atEpoch : Trace where
  header := (Header.blank.setReferenceFields
    { year := 1970, day := 1, hour := 0, minute := 0, second := 0, millisecond := 0 }).setReal
    Header.beginSlot (some (.zero false))
  samples := none
  order := .little

lemma Time.Instant.wholeMilliseconds_fromEpoch {seconds : Int} :
    (fromEpoch seconds).WholeMilliseconds := by
  rw [fromEpoch]
  rcases hsum : epoch.add? (seconds * nanosPerSecond) with _ | t
  · exact wholeMilliseconds_epoch
  · obtain ⟨hordinary, hcount⟩ := (add?_eq_some_iff wholeMilliseconds_epoch.ordinary).1 hsum
    have hzero : epoch.sinceEpoch = 0 := rfl
    refine wholeMilliseconds_of_sinceEpoch hordinary (n := seconds * 1000) ?_
    rw [Option.getD_some, hcount, hzero, nanosPerSecond]
    omega

lemma Time.roundToMillisecond_fromEpoch {seconds : Int} :
    roundToMillisecond (.fromEpoch seconds) = .ok (.fromEpoch seconds) :=
  roundToMillisecond_of_whole Instant.wholeMilliseconds_fromEpoch

lemma Trace.storedReference_atEpoch : atEpoch.header.storedReference = decompose .epoch := by
  rw [decompose_epoch]
  exact (storedReference_congr fun _ _ => rfl).trans (storedReference_setReferenceFields _)

lemma Trace.referenceTime_atEpoch : atEpoch.header.referenceTime = .ok .epoch :=
  referenceTime_of_epoch storedReference_atEpoch

lemma Trace.real?_atEpoch : atEpoch.header.real? beginSlot = some (.zero false) := by
  rw [real?_eq_some_iff, atEpoch, storedReal_setReal, if_pos rfl]
  exact ⟨by decide, rfl⟩

lemma Header.relativeTimeSlot_a : relativeTimeSlot "a" = .ok 8 :=
  relativeTimeSlot_eq_ok_iff.2 (Option.map_eq_some_iff.1 (Schema.find?_of_getElem? (i := 8) rfl))

/-- The beginning is a relative time. -/
lemma Header.exists_field_begin : ∃ f ∈ Schema.fields, f.cell = .relativeTime beginSlot :=
  ⟨_, List.mem_of_getElem? (i := 5) rfl, rfl⟩

lemma Edit.setReferenceTime_atEpoch :
    ∃ t, setReferenceTime (.fromEpoch 12345) .atEpoch = .ok () t := by
  have hmove : ∃ h, Trace.atEpoch.header.setReferenceTime (.fromEpoch 12345) = .ok h := by
    rw [Header.setReferenceTime, roundToMillisecond_fromEpoch, ok_bind]
    exact ⟨_, rfl⟩
  obtain ⟨h, hh⟩ := hmove
  exact ⟨_, replaceHeader_eq_ok_iff.2 ⟨h, hh, rfl⟩⟩

lemma Edit.setInstant_atEpoch (i : Instant) :
    setInstant "a" i .atEpoch = .ok () { Trace.atEpoch with
      header := Trace.atEpoch.header.setReal 8 (some (secondsBetween i .epoch).narrow) } :=
  setInstant_eq_ok_iff.2 ⟨8, _, relativeTimeSlot_a,
    Header.setInstant_eq_ok_iff.2 ⟨_, Trace.referenceTime_atEpoch, rfl⟩, rfl⟩

/-- The beginning is at the sentinel's distance from the new reference time. -/
lemma nearSentinel_move :
    NearSentinel ((Floating.zero false : Single).widen.add
      (secondsBetween .epoch (.fromEpoch 12345))) := by
  rw [← narrow_eq_nullReal_iff]
  decide +kernel

lemma nearSentinel_store : NearSentinel (secondsBetween (.fromEpoch (-12345)) .epoch) := by
  rw [← narrow_eq_nullReal_iff]
  decide +kernel

theorem relativeTime_null_atEpoch :
    (∃ t, Edit.setReferenceTime (.fromEpoch 12345) .atEpoch = .ok () t ∧
      t.header.real? beginSlot = none) ∧
    ∃ t, Edit.setInstant "a" (.fromEpoch 12345) .atEpoch = .ok () t ∧
      t.header.getInstant "a" ≠ .ok none := by
  constructor
  · obtain ⟨t, hmove⟩ := Edit.setReferenceTime_atEpoch
    obtain ⟨f, hf, hcell⟩ := exists_field_begin
    have hiff := relativeTime_null_iff.1 hmove f hf beginSlot hcell
    refine ⟨t, hmove, hiff.2 (Or.inr ?_)⟩
    exact ⟨_, _, _, Trace.referenceTime_atEpoch, roundToMillisecond_fromEpoch,
      Trace.real?_atEpoch, nearSentinel_move⟩
  · have hstore := Edit.setInstant_atEpoch (.fromEpoch 12345)
    obtain ⟨reference, hreference, hiff⟩ := relativeTime_null_iff.2 "a" hstore
    obtain rfl := Except.ok.inj (Trace.referenceTime_atEpoch.symm.trans hreference)
    refine ⟨_, hstore, hiff.2 fun hnear => ?_⟩
    rw [← narrow_eq_nullReal_iff] at hnear
    exact absurd hnear (by decide +kernel)

/-- A known time is lost when the reference time is moved 12345 seconds past it, and an instant
12345 seconds before the reference time is not stored. -/
theorem lost_atEpoch :
    (∃ t, Edit.setReferenceTime (.fromEpoch 12345) .atEpoch = .ok () t ∧
      Trace.atEpoch.header.real? beginSlot = some (.zero false) ∧
      t.header.real? beginSlot = none) ∧
    ∃ t, Edit.setInstant "a" (.fromEpoch (-12345)) .atEpoch = .ok () t ∧
      t.header.getInstant "a" = .ok none := by
  constructor
  · obtain ⟨t, hmove⟩ := Edit.setReferenceTime_atEpoch
    refine ⟨t, hmove, Trace.real?_atEpoch, ?_⟩
    obtain ⟨h, hh, rfl⟩ := Edit.replaceHeader_eq_ok_iff.1 hmove
    obtain ⟨new, hnew, hmoved⟩ := moved_of_setReferenceTime hh
    obtain rfl := Except.ok.inj (roundToMillisecond_fromEpoch.symm.trans hnew)
    obtain ⟨f, hf, hcell⟩ := exists_field_begin
    refine (hmoved.real?_eq_none_iff hf hcell).2 (Or.inr ?_)
    exact ⟨_, _, Trace.referenceTime_atEpoch, Trace.real?_atEpoch, nearSentinel_move⟩
  · refine ⟨_, Edit.setInstant_atEpoch (.fromEpoch (-12345)), ?_⟩
    rw [getInstant, relativeTimeSlot_a, ok_bind]
    exact (instantAt_setReal_eq_none_iff _).2 nearSentinel_store

end Seismogram
