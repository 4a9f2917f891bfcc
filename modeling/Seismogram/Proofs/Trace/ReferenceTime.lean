/-
# The reference time moved and moved back

A move of the reference time to an instant fails only if the calendar does not have the nearest
millisecond, and then the trace is as it was.  Otherwise the header holds that millisecond,
taken apart, and reads it back as its reference time.  A move back to the instant that six
normal fields stood for stores just these fields again (`reference_moved`), since that instant
is of whole milliseconds.
-/
import Mathlib.Tactic.Common
import Seismogram.Proofs.Trace.RelativeTimes

namespace Seismogram

open Seismogram.Number Seismogram.Time Seismogram.Outcome

namespace Edit

variable {i new : Instant} {t t' : Trace}

lemma setReferenceTime_of_error {e : Error} (hround : roundToMillisecond i = .error e) :
    setReferenceTime i t = .error e t := by
  rw [setReferenceTime, replaceHeader_eq_error_iff, Header.setReferenceTime, hround]
  exact ⟨rfl, rfl⟩

lemma setReferenceTime_of_ok (hnew : roundToMillisecond i = .ok new) :
    ∃ h, setReferenceTime i t = .ok () { t with header := h } ∧ Header.Moved new t.header h ∧
      h.storedReference = decompose new := by
  obtain ⟨h, hh, hstored⟩ := Header.setReferenceTime_of_round (h := t.header) hnew
  obtain ⟨new', hnew', hmoved⟩ := Header.moved_of_setReferenceTime hh
  obtain rfl := Except.ok.inj (hnew.symm.trans hnew')
  exact ⟨h, replaceHeader_eq_ok_iff.2 ⟨h, hh, rfl⟩, hmoved, hstored⟩

/-- A move to the instant that normal fields stand for stores these fields. -/
lemma setReferenceTime_of_compose {f : ReferenceFields} (hf : f.Normal)
    (hcompose : compose f = .ok i) :
    ∃ t', setReferenceTime i t = .ok () t' ∧ t'.header.storedReference = f := by
  have hround : roundToMillisecond i = .ok i :=
    roundToMillisecond_of_whole (wholeMilliseconds_compose hcompose)
  obtain ⟨h, hmove, -, hstored⟩ := setReferenceTime_of_ok (t := t) hround
  exact ⟨_, hmove, hstored.trans (decompose_compose hf hcompose)⟩

end Edit

open Header

/-- A move of the reference time to an instant whose nearest millisecond the calendar does not
have fails and changes nothing.  Any other move stores that millisecond, taken apart, which is
then the reference time, unless its year is the sentinel; it moves every relative time by the
same number of seconds, if there was a reference time before, and leaves everything else.  And
if six normal fields stood for an instant, a move away and a move to that instant store these
six fields. -/
theorem reference_moved {t : Trace} {i : Instant} :
    (∀ e, roundToMillisecond i = .error e → Edit.setReferenceTime i t = .error e t) ∧
    (∀ new, roundToMillisecond i = .ok new →
      ∃ h, Edit.setReferenceTime i t = .ok () { t with header := h } ∧
        h.storedReference = decompose new ∧
        (yearOf new.day ≠ -12345 → h.referenceTime = .ok new) ∧
        (yearOf new.day = -12345 →
          h.referenceTime = .error (.incompleteReferenceTime "nzyear")) ∧
        Moved new t.header h) ∧
    ∀ old t', t.header.storedReference.Normal → compose t.header.storedReference = .ok old →
      Edit.setReferenceTime i t = .ok () t' →
      ∃ t'', Edit.setReferenceTime old t' = .ok () t'' ∧
        t''.header.storedReference = t.header.storedReference := by
  refine ⟨fun e hround => Edit.setReferenceTime_of_error hround, fun new hnew => ?_,
    fun old t' hnormal hcompose _ => Edit.setReferenceTime_of_compose hnormal hcompose⟩
  obtain ⟨h, hmove, hmoved, hstored⟩ := Edit.setReferenceTime_of_ok (t := t) hnew
  have hwhole : new.WholeMilliseconds := wholeMilliseconds_roundToMillisecond hnew
  obtain ⟨hknown, hunknown⟩ := referenceTime_of_decompose hwhole hstored
  exact ⟨h, hmove, hstored, hknown, hunknown, hmoved⟩

/-- A beginning at zero is a hundred seconds before a reference time that is moved by so many
seconds. -/
theorem reference_moved_atEpoch :
    ∃ t t', Edit.setReferenceTime (.fromEpoch 100) .atEpoch = .ok () t ∧
      t.header.referenceTime = .ok (.fromEpoch 100) ∧
      Trace.atEpoch.header.real? beginSlot = some (.zero false) ∧
      t.header.real? beginSlot = some (.ofInt (-100)) ∧
      Edit.setReferenceTime .epoch t = .ok () t' ∧
      t'.header.storedReference = Trace.atEpoch.header.storedReference := by
  obtain ⟨-, hmoves, hback⟩ := reference_moved (t := .atEpoch) (i := .fromEpoch 100)
  obtain ⟨h, hmove, -, hknown, -, hmoved⟩ := hmoves _ roundToMillisecond_fromEpoch
  obtain ⟨f, hf, hcell⟩ := exists_field_begin
  have hbegin : h.storedReal beginSlot = .ofInt (-100) := by
    rw [hmoved.known _ Trace.referenceTime_atEpoch f hf _ hcell,
      (real?_eq_some_iff.1 Trace.real?_atEpoch).2]
    decide +kernel
  have hnormal : Trace.atEpoch.header.storedReference.Normal := by
    rw [Trace.storedReference_atEpoch]
    exact normal_decompose _
  have hcompose : compose Trace.atEpoch.header.storedReference = .ok .epoch := by
    rw [Trace.storedReference_atEpoch]
    exact compose_decompose Time.Instant.wholeMilliseconds_epoch
  obtain ⟨t', hmove', hstored⟩ := hback _ _ hnormal hcompose hmove
  exact ⟨_, t', hmove, hknown (by decide +kernel), Trace.real?_atEpoch,
    real?_eq_some_iff.2 ⟨by decide +kernel, hbegin⟩, hmove', hstored⟩

end Seismogram
