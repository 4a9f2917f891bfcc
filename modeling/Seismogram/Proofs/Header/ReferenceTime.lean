/-
# What moving the reference time changes

Moving the reference time stores its six integers and moves every relative time once
(`moved_of_setReferenceTime`); nothing else in the header changes.  What is stored is read back
as the reference time, unless its year is the sentinel.
-/
import Mathlib.Data.List.Nodup
import Mathlib.Tactic.Common
import Seismogram.Header.ReferenceTime
import Seismogram.Proofs.Header.Fields
import Seismogram.Proofs.Header.Slots
import Seismogram.Proofs.Outcome
import Seismogram.Proofs.Time.Reference

namespace Seismogram.Header

open Seismogram.Number Seismogram.Time Seismogram.Outcome

variable {h k : Header}

/-! ### The fields of the reference time -/

lemma reals_setReferenceFields (f : ReferenceFields) : (h.setReferenceFields f).reals = h.reals :=
  rfl

lemma text_setReferenceFields (f : ReferenceFields) : (h.setReferenceFields f).text = h.text := rfl

/-- The reference time has the first six integers. -/
lemma storedInteger_setReferenceFields (f : ReferenceFields) {slot : Fin 40} (hslot : 6 ≤ slot) :
    (h.setReferenceFields f).storedInteger slot = h.storedInteger slot := by
  have hfields : h.setReferenceFields f =
      (((((h.setInteger 0 (some f.year)).setInteger 1 (some f.day)).setInteger 2
        (some f.hour)).setInteger 3 (some f.minute)).setInteger 4 (some f.second)).setInteger 5
        (some f.millisecond) := rfl
  have hne {first : Fin 40} (hfirst : first < 6) : first ≠ slot :=
    Fin.ne_of_lt (Nat.lt_of_lt_of_le hfirst hslot)
  rw [hfields]
  simp only [storedInteger_setInteger, if_neg (hne (by decide : (0 : Fin 40) < 6)),
    if_neg (hne (by decide : (1 : Fin 40) < 6)), if_neg (hne (by decide : (2 : Fin 40) < 6)),
    if_neg (hne (by decide : (3 : Fin 40) < 6)), if_neg (hne (by decide : (4 : Fin 40) < 6)),
    if_neg (hne (by decide : (5 : Fin 40) < 6))]

/-- The six integers of the reference time, null ones included. -/
def storedReference (h : Header) : ReferenceFields where
  year := h.storedInteger 0
  day := h.storedInteger 1
  hour := h.storedInteger 2
  minute := h.storedInteger 3
  second := h.storedInteger 4
  millisecond := h.storedInteger 5

lemma storedReference_setReferenceFields (f : ReferenceFields) :
    (h.setReferenceFields f).storedReference = f := by
  simp [storedReference, setReferenceFields, referenceSlots, ReferenceFields.toList,
    storedInteger_setInteger]

/-- The reference time is read from its own slots. -/
lemma referenceTime_congr
    (heq : ∀ field ∈ referenceSlots, k.storedInteger field.2 = h.storedInteger field.2) :
    k.referenceTime = h.referenceTime := by
  simp only [referenceSlots, List.forall_mem_cons] at heq
  obtain ⟨hyear, hday, hhour, hminute, hsecond, hmillisecond, -⟩ := heq
  simp only [referenceTime, referenceFields, referenceField, integer?, hyear, hday, hhour, hminute,
    hsecond, hmillisecond]

lemma storedReference_congr
    (heq : ∀ field ∈ referenceSlots, k.storedInteger field.2 = h.storedInteger field.2) :
    k.storedReference = h.storedReference := by
  simp only [referenceSlots, List.forall_mem_cons] at heq
  obtain ⟨hyear, hday, hhour, hminute, hsecond, hmillisecond, -⟩ := heq
  simp only [storedReference, hyear, hday, hhour, hminute, hsecond, hmillisecond]

/-- None of the six integers of the reference time is null. -/
def ReferenceKnown (h : Header) : Prop :=
  ∀ field ∈ referenceSlots, h.integer? field.2 ≠ none

lemma referenceField_eq_ok_iff {field : String × Fin 40} {n : Int32} :
    h.referenceField field = .ok n ↔ h.integer? field.2 = some n := by
  rw [referenceField]
  cases h.integer? field.2 <;> simp

lemma referenceField_of_ne_none {field : String × Fin 40} (hfield : h.integer? field.2 ≠ none) :
    h.referenceField field = .ok (h.storedInteger field.2) := by
  rw [referenceField_eq_ok_iff, integer?_eq_some_iff]
  exact ⟨fun hnull => hfield (integer?_eq_none_iff.2 hnull), rfl⟩

/-- A reference time of six fields that are not null is put together from them. -/
lemma referenceTime_of_known (hknown : h.ReferenceKnown) :
    h.referenceTime = compose h.storedReference := by
  simp only [ReferenceKnown, referenceSlots, List.forall_mem_cons] at hknown
  obtain ⟨hyear, hday, hhour, hminute, hsecond, hmillisecond, -⟩ := hknown
  rw [referenceTime, referenceFields, referenceField_of_ne_none hyear,
    referenceField_of_ne_none hday, referenceField_of_ne_none hhour,
    referenceField_of_ne_none hminute, referenceField_of_ne_none hsecond,
    referenceField_of_ne_none hmillisecond]
  rfl

/-- Where a field is null there is no reference time. -/
lemma referenceKnown_of_referenceTime {t : Instant} (ht : h.referenceTime = .ok t) :
    h.ReferenceKnown := by
  simp only [referenceTime, referenceFields, bind_eq_ok_iff, referenceField_eq_ok_iff] at ht
  obtain ⟨_, ⟨_, hyear, _, hday, _, hhour, _, hminute, _, hsecond, _, hmillisecond, -⟩, -⟩ := ht
  simp [ReferenceKnown, referenceSlots, hyear, hday, hhour, hminute, hsecond, hmillisecond]

lemma wholeMilliseconds_referenceTime {t : Instant} (ht : h.referenceTime = .ok t) :
    t.WholeMilliseconds := by
  rw [referenceTime_of_known (referenceKnown_of_referenceTime ht)] at ht
  exact wholeMilliseconds_compose ht

/-- Of the fields that an instant is taken apart into only the year can be the sentinel. -/
lemma referenceKnown_of_decompose {t : Instant} (hstored : h.storedReference = decompose t)
    (hyear : yearOf t.day ≠ -12345) : h.ReferenceKnown := by
  have hnormal := normal_decompose t
  have hword := toInt_year_decompose t
  rw [← hstored] at hnormal hword
  obtain ⟨-, hday, hhour, hminute, hsecond, hmillisecond⟩ := hnormal
  have hnull : nullInteger.toInt = -12345 := rfl
  have hne {slot : Fin 40} (hslot : (h.storedInteger slot).toInt ≠ -12345) :
      h.integer? slot ≠ none := fun hnone => hslot (integer?_eq_none_iff.1 hnone ▸ hnull)
  simp only [storedReference] at hword hday hhour hminute hsecond hmillisecond
  simp only [ReferenceKnown, referenceSlots, List.forall_mem_cons]
  refine ⟨hne (hword ▸ hyear), hne ?_, hne ?_, hne ?_, hne ?_, hne ?_, by simp⟩ <;> omega

/-- An instant of whole milliseconds that was stored is the reference time, unless it is in the
year of the sentinel. -/
lemma referenceTime_of_decompose {t : Instant} (ht : t.WholeMilliseconds)
    (hstored : h.storedReference = decompose t) :
    (yearOf t.day ≠ -12345 → h.referenceTime = .ok t) ∧
      (yearOf t.day = -12345 → h.referenceTime = .error (.incompleteReferenceTime "nzyear")) := by
  constructor
  · intro hyear
    rw [referenceTime_of_known (referenceKnown_of_decompose hstored hyear), hstored,
      compose_decompose ht]
  · intro hyear
    have hword : h.storedInteger 0 = nullInteger := by
      rw [← Int32.toInt_inj]
      have hyear' := toInt_year_decompose t
      rw [← hstored, hyear] at hyear'
      exact hyear'
    rw [referenceTime, referenceFields, referenceField, integer?_eq_none_iff.2 hword]
    rfl

lemma referenceTime_of_epoch (hstored : h.storedReference = decompose .epoch) :
    h.referenceTime = .ok .epoch :=
  have hyear : yearOf Instant.epoch.day ≠ -12345 := by decide +kernel
  (referenceTime_of_decompose Instant.wholeMilliseconds_epoch hstored).1 hyear

/-! ### Relative times -/

/-- The word of a relative time moved by a number of seconds; the sentinel stays. -/
def movedReal (seconds : Double) (x : Single) : Single :=
  if x = nullReal then nullReal else (x.widen.add seconds).narrow

lemma integers_moveRelativeTime (seconds : Double) (slot : Fin 70) :
    (moveRelativeTime seconds h slot).integers = h.integers := by
  rw [moveRelativeTime]
  cases h.real? slot <;> rfl

lemma text_moveRelativeTime (seconds : Double) (slot : Fin 70) :
    (moveRelativeTime seconds h slot).text = h.text := by
  rw [moveRelativeTime]
  cases h.real? slot <;> rfl

lemma storedReal_moveRelativeTime (seconds : Double) (a b : Fin 70) :
    (moveRelativeTime seconds h a).storedReal b =
      if a = b then movedReal seconds (h.storedReal b) else h.storedReal b := by
  rw [moveRelativeTime]
  rcases hx : h.real? a with _ | x
  · have hnull := real?_eq_none_iff.1 hx
    split_ifs with hab
    · rw [← hab, hnull, movedReal, if_pos rfl]
    · rfl
  · obtain ⟨hne, hstored⟩ := real?_eq_some_iff.1 hx
    dsimp only
    rw [storedReal_setReal]
    split_ifs with hab
    · rw [← hab, hstored, movedReal, if_neg hne, Option.getD_some]
    · rfl

lemma integers_foldl_moveRelativeTime (seconds : Double) (slots : List (Fin 70)) :
    (slots.foldl (moveRelativeTime seconds) h).integers = h.integers := by
  induction slots generalizing h with
  | nil => rfl
  | cons first slots ih => rw [List.foldl_cons, ih, integers_moveRelativeTime]

lemma text_foldl_moveRelativeTime (seconds : Double) (slots : List (Fin 70)) :
    (slots.foldl (moveRelativeTime seconds) h).text = h.text := by
  induction slots generalizing h with
  | nil => rfl
  | cons first slots ih => rw [List.foldl_cons, ih, text_moveRelativeTime]

lemma storedReal_foldl_moveRelativeTime_of_notMem (seconds : Double) {slots : List (Fin 70)}
    {slot : Fin 70} (hslot : slot ∉ slots) :
    (slots.foldl (moveRelativeTime seconds) h).storedReal slot = h.storedReal slot := by
  induction slots generalizing h with
  | nil => rfl
  | cons first slots ih =>
      rw [List.mem_cons, not_or] at hslot
      rw [List.foldl_cons, ih hslot.2, storedReal_moveRelativeTime, if_neg (Ne.symm hslot.1)]

lemma storedReal_foldl_moveRelativeTime_of_mem (seconds : Double) {slots : List (Fin 70)}
    {slot : Fin 70} (hdistinct : slots.Nodup) (hslot : slot ∈ slots) :
    (slots.foldl (moveRelativeTime seconds) h).storedReal slot =
      movedReal seconds (h.storedReal slot) := by
  induction slots generalizing h with
  | nil => exact absurd hslot List.not_mem_nil
  | cons first slots ih =>
      obtain ⟨hfirst, hdistinct⟩ := List.nodup_cons.1 hdistinct
      rw [List.foldl_cons]
      rcases List.mem_cons.1 hslot with rfl | hlater
      · rw [storedReal_foldl_moveRelativeTime_of_notMem seconds hfirst,
          storedReal_moveRelativeTime, if_pos rfl]
      · have hne : first ≠ slot := fun heq => hfirst (heq ▸ hlater)
        rw [ih hdistinct hlater, storedReal_moveRelativeTime, if_neg hne]

/-- They are the slots of the fields of that kind. -/
lemma mem_relativeTimeSlots {slot : Fin 70} :
    slot ∈ relativeTimeSlots ↔ ∃ f ∈ Schema.fields, f.cell = .relativeTime slot := by
  rw [relativeTimeSlots, List.mem_filterMap]
  refine exists_congr fun f => and_congr_right fun _ => ?_
  cases f.cell <;> simp

lemma nodup_relativeTimeSlots : relativeTimeSlots.Nodup := by
  have hfields : Schema.fields.Nodup := List.Nodup.of_map _ Schema.names_nodup
  rw [relativeTimeSlots, List.Nodup, List.pairwise_filterMap]
  refine hfields.pairwise_of_forall_ne fun f hf g hg hne slot hslot slot' hslot' heq => hne ?_
  subst heq
  refine Schema.eq_of_realSlot? hf hg (?_ : _ = some slot) ?_
  · cases hcell : f.cell <;> simp_all [Cell.realSlot?]
  · cases hcell : g.cell <;> simp_all [Cell.realSlot?]

/-! ### The reference time moved -/

/-- A header and the header with its reference time moved to an instant: every field of a
relative time is moved with it, if it was known, and nothing else but its six integers is
different. -/
structure Moved (new : Instant) (h k : Header) : Prop where
  integers : ∀ slot : Fin 40, 6 ≤ slot → k.storedInteger slot = h.storedInteger slot
  text : k.text = h.text
  others : ∀ slot, (∀ f ∈ Schema.fields, f.cell ≠ .relativeTime slot) →
    k.storedReal slot = h.storedReal slot
  known : ∀ old, h.referenceTime = .ok old →
    ∀ f ∈ Schema.fields, ∀ slot, f.cell = .relativeTime slot →
      k.storedReal slot = movedReal (secondsBetween old new) (h.storedReal slot)
  unknown : ∀ e, h.referenceTime = .error e → ∀ slot, k.storedReal slot = h.storedReal slot

lemma moved_of_setReferenceTime {t : Instant} (hk : h.setReferenceTime t = .ok k) :
    ∃ new, roundToMillisecond t = .ok new ∧ Moved new h k := by
  rw [setReferenceTime, bind_eq_ok_iff] at hk
  obtain ⟨new, hnew, hk⟩ := hk
  rw [Except.ok.injEq] at hk
  subst hk
  refine ⟨new, hnew, ?_⟩
  rcases hold : h.referenceTime with e | old
  · exact
      { integers := fun slot hslot => storedInteger_setReferenceFields _ hslot
        text := text_setReferenceFields _
        others := fun slot _ => storedReal_congr (reals_setReferenceFields _) slot
        known := fun _ hknown => absurd (hold.symm.trans hknown) (by simp)
        unknown := fun _ _ slot => storedReal_congr (reals_setReferenceFields _) slot }
  · refine
      { integers := fun slot hslot => ?_
        text := (text_setReferenceFields _).trans (text_foldl_moveRelativeTime _ _)
        others := fun slot hslot => ?_
        known := fun old' hold' f hf slot hcell => ?_
        unknown := fun _ hunknown => absurd (hold.symm.trans hunknown) (by simp) }
    · rw [storedInteger_setReferenceFields _ hslot,
        storedInteger_congr (integers_foldl_moveRelativeTime _ _)]
    · have hother : slot ∉ relativeTimeSlots := fun hmem =>
        have ⟨f, hf, hcell⟩ := mem_relativeTimeSlots.1 hmem
        hslot f hf hcell
      rw [storedReal_congr (reals_setReferenceFields _),
        storedReal_foldl_moveRelativeTime_of_notMem _ hother]
    · obtain rfl := Except.ok.inj (hold.symm.trans hold')
      rw [storedReal_congr (reals_setReferenceFields _),
        storedReal_foldl_moveRelativeTime_of_mem _ nodup_relativeTimeSlots
          (mem_relativeTimeSlots.2 ⟨f, hf, hcell⟩)]

lemma setReferenceTime_of_round {t new : Instant} (hnew : roundToMillisecond t = .ok new) :
    ∃ k, h.setReferenceTime t = .ok k ∧ k.storedReference = decompose new := by
  rw [setReferenceTime, hnew]
  exact ⟨_, rfl, storedReference_setReferenceFields _⟩

end Seismogram.Header
