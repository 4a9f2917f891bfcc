/-
# Values given in any order

A trace is made of named values in two rounds, since absolute times are stored after all other
values.  Within a round the values of distinct names are stored in different fields, and none
of them changes what another one is measured from: two that follow each other can change places
(`storeAll_swap`).  Values of distinct names therefore make the same trace in whatever order
they are given (`ofValues_perm`).
-/
import Mathlib.Data.List.Perm.Basic
import Mathlib.Tactic.Common
import Seismogram.Proofs.Header.Content
import Seismogram.Proofs.Recording.Stages
import Seismogram.Proofs.Trace.Values

namespace Seismogram

open Seismogram.Number Seismogram.Time Seismogram.Outcome

namespace Header

variable {h k a : Header} {f g : Field} {v w : Value} {values values' : List (String × Value)}

/-! ### Two values -/

/-- An absolute time that is stored leaves the reference time. -/
lemma referenceTime_store {t : Instant} (hk : h.store f (.time t) = .ok k) :
    k.referenceTime = h.referenceTime := by
  obtain ⟨slot, -, hset⟩ := store_time_eq_ok_iff.1 hk
  obtain ⟨_, -, rfl⟩ := setInstant_eq_ok_iff.1 hset
  exact referenceTime_congr fun _ _ => rfl

/-- Two values of which both are absolute times or neither is can be stored in different fields
in either order. -/
lemma store_comm (hf : f ∈ Schema.fields) (hg : g ∈ Schema.fields) (hne : f ≠ g)
    (hkind : v.isTime = w.isTime) (hfirst : h.store f v = .ok a) (hsecond : a.store g w = .ok k) :
    ∃ b, h.store g w = .ok b ∧ b.store f v = .ok k := by
  obtain ⟨b, hb, hgb⟩ := (store_eq_ok_iff.1 hsecond).again (l := h) fun t ht => by
    subst ht
    cases v with
    | time s => exact (referenceTime_store hfirst).symm
    | real | integer | logical | text => exact absurd hkind (by simp [Value.isTime])
  rw [← store_eq_ok_iff] at hb
  obtain ⟨k', hk', hfk⟩ := (store_eq_ok_iff.1 hfirst).again (l := b) fun t ht => by
    subst ht
    cases w with
    | time s => exact referenceTime_store hb
    | real | integer | logical | text => exact absurd hkind (by simp [Value.isTime])
  rw [← store_eq_ok_iff] at hk'
  refine ⟨b, hb, ?_⟩
  -- both ways lead to the same in the cells of the two fields, and change no other cell
  have happart {e e' : Field} (he : e ∈ Schema.fields) (he' : e' ∈ Schema.fields) (hother : e ≠ e')
      {x : Value} {l m : Header} (hm : l.store e' x = .ok m) : SameCell e.cell l m :=
    (eqExceptCell_store hm).sameCell (Schema.apart he he' hother)
  suffices hsame : k' = k by rw [hk', hsame]
  refine eq_of_sameCell fun e he => ?_
  by_cases hef : e = f
  · rw [hef]
    exact (happart hf hg hne hsecond).symm.trans hfk
  by_cases heg : e = g
  · rw [heg]
    exact hgb.trans (happart hg hf (Ne.symm hne) hk')
  · have hone := (happart he hf hef hfirst).trans (happart he hg heg hsecond)
    exact hone.symm.trans ((happart he hg heg hb).trans (happart he hf hef hk'))

/-! ### A round of values -/

/-- Two values of distinct names that follow each other can change places. -/
lemma storeAll_swap {e e' : String × Value} (hname : e.1 ≠ e'.1)
    (hkind : e.2.isTime = e'.2.isTime) (hk : h.storeAll (e :: e' :: values) = .ok k) :
    h.storeAll (e' :: e :: values) = .ok k := by
  obtain ⟨f, a, hf, hfirst, hrest⟩ := storeAll_cons_eq_ok_iff.1 hk
  obtain ⟨g, l, hg, hsecond, hrest⟩ := storeAll_cons_eq_ok_iff.1 hrest
  obtain ⟨hfmem, hfname⟩ := Schema.find?_eq_some hf
  obtain ⟨hgmem, hgname⟩ := Schema.find?_eq_some hg
  have hne : f ≠ g := fun heq => hname (by rw [← hfname, ← hgname, heq])
  obtain ⟨b, hb, hbl⟩ := store_comm hfmem hgmem hne hkind hfirst hsecond
  exact storeAll_cons_eq_ok_iff.2 ⟨g, b, hg, hb, storeAll_cons_eq_ok_iff.2 ⟨f, l, hf, hbl, hrest⟩⟩

/-- Values of distinct names, all of them absolute times or none, are stored in any order. -/
theorem storeAll_perm (hperm : values.Perm values') (hnodup : (values.map Prod.fst).Nodup)
    {time : Bool} (hkind : ∀ e ∈ values, e.2.isTime = time) :
    h.storeAll values = .ok k ↔ h.storeAll values' = .ok k := by
  induction hperm generalizing h with
  | nil => rfl
  | @cons e rest rest' _ ih =>
      rw [storeAll_cons_eq_ok_iff, storeAll_cons_eq_ok_iff]
      rw [List.map_cons, List.nodup_cons] at hnodup
      have hrest (l : Header) : l.storeAll rest = .ok k ↔ l.storeAll rest' = .ok k :=
        ih hnodup.2 fun e he => hkind e (List.mem_cons_of_mem _ he)
      simp only [hrest]
  | swap e e' rest =>
      rw [List.map_cons, List.map_cons, List.nodup_cons, List.mem_cons, not_or] at hnodup
      have hsame : e'.2.isTime = e.2.isTime :=
        (hkind e' (by simp)).trans (hkind e (by simp)).symm
      exact ⟨storeAll_swap hnodup.1.1 hsame, storeAll_swap (Ne.symm hnodup.1.1) hsame.symm⟩
  | trans hfirst _ ih ih' =>
      exact (ih hnodup hkind).trans (ih' ((hfirst.map Prod.fst).nodup hnodup)
        fun e he => hkind e (hfirst.mem_iff.2 he))

end Header

namespace Trace

open Header

variable {h k : Header} {t : Trace} {values values' : List (String × Value)}

/-! ### Both rounds -/

lemma storeOthers_perm (hperm : values.Perm values') (hnodup : (values.map Prod.fst).Nodup) :
    storeOthers h values = .ok k ↔ storeOthers h values' = .ok k := by
  have hkind : ∀ e ∈ values.filter (fun e => !e.2.isTime), e.2.isTime = false := fun e he => by
    simpa using (List.mem_filter.1 he).2
  have hround := storeAll_perm (h := h) (k := k) (hperm.filter fun e => !e.2.isTime)
    ((List.filter_sublist.map Prod.fst).nodup hnodup) hkind
  rw [storeOthers_eq_ok_iff, storeOthers_eq_ok_iff, hround]
  simp only [hperm.mem_iff]

lemma storeTimes_perm (hperm : values.Perm values') (hnodup : (values.map Prod.fst).Nodup) :
    storeTimes h values = .ok k ↔ storeTimes h values' = .ok k := by
  rw [storeTimes_eq, storeTimes_eq]
  exact storeAll_perm (hperm.filter fun e => e.2.isTime)
    ((List.filter_sublist.map Prod.fst).nodup hnodup) fun e he => (List.mem_filter.1 he).2

/-- Values of distinct names make a trace if they do in any other order, and then they make the
same one. -/
theorem ofValues_perm (hperm : values.Perm values') (hnodup : (values.map Prod.fst).Nodup)
    (samples : Option (List Single)) :
    ofValues values samples = .ok t ↔ ofValues values' samples = .ok t := by
  simp only [ofValues, bind_eq_ok_iff, storeOthers_perm hperm hnodup,
    storeTimes_perm hperm hnodup]

/-- A first arrival 110 seconds after the start of 1970, given before a part of the reference
time that it is measured from. -/
def arrivalFirst : List (String × Value) := [("a", .time (.fromEpoch 110)), ("nzmin", .integer 1)]

/-- A new header with its reference time a minute later. -/
def minuteLater : Header := fresh.setInteger 3 (some 1)

lemma referenceTime_minuteLater : minuteLater.referenceTime = .ok (.fromEpoch 60) := by
  have hstored : minuteLater.storedReference = { fresh.storedReference with minute := 1 } := by
    simp [minuteLater, storedReference, storedInteger_setInteger]
  rw [storedReference_fresh] at hstored
  have hminute : { decompose .epoch with minute := 1 } = decompose (.fromEpoch 60) := by
    decide +kernel
  exact (referenceTime_of_decompose Instant.wholeMilliseconds_fromEpoch
    (hstored.trans hminute)).1 (by decide +kernel)

lemma exists_ofValues_arrivalFirst :
    ∃ t, ofValues arrivalFirst none = .ok t ∧ t.header.storedReal 8 = ⟨0x42480000⟩ := by
  obtain ⟨f, hf, hcell⟩ := relativeTimeSlot_eq_ok_iff.1 relativeTimeSlot_a
  obtain ⟨g, hg, hgcell⟩ := Option.map_eq_some_iff.1 IntegerName.nzmin.find?_name
  have hminute : fresh.store g (.integer 1) = .ok minuteLater :=
    store_eq_ok_iff.2 (hgcell ▸ .integer)
  have hothers : storeOthers fresh arrivalFirst = .ok minuteLater :=
    storeOthers_cons_eq_ok_iff.2 ⟨f, fresh, hf, by simp [Value.isTime],
      storeOthers_cons_eq_ok_iff.2 ⟨g, minuteLater, hg, hminute, rfl⟩⟩
  let x := (secondsBetween (.fromEpoch 110) (.fromEpoch 60)).narrow
  have harrival : minuteLater.store f (.time (.fromEpoch 110)) =
      .ok (minuteLater.setReal 8 (some x)) :=
    store_time_eq_ok_iff.2 ⟨8, hcell, setInstant_eq_ok_iff.2 ⟨_, referenceTime_minuteLater, rfl⟩⟩
  have htimes : storeTimes minuteLater arrivalFirst = .ok (minuteLater.setReal 8 (some x)) :=
    storeTimes_eq.trans (storeAll_cons_eq_ok_iff.2 ⟨f, _, hf, harrival, rfl⟩)
  have hkeeps : (minuteLater.setReal 8 (some x)).KeepsDistances := by
    have hflag : minuteLater.storedInteger distancesFollowSlot = 0 := by
      rw [minuteLater, storedInteger_setInteger, if_neg (by decide),
        storedInteger_fresh_distancesFollow]
    exact Or.inl hflag
  refine ⟨⟨minuteLater.setReal 8 (some x), none, .little⟩, ?_, ?_⟩
  · rw [ofValues, hothers, ok_bind, htimes, ok_bind]
    dsimp only
    rw [updateDistances_of_keeps hkeeps, ok_bind]
  · rw [storedReal_setReal, if_pos rfl, Option.getD_some]
    decide +kernel

/-- It does not matter that the arrival is given first. -/
theorem ofValues_perm_arrivalFirst :
    ∃ t, ofValues [("nzmin", .integer 1), ("a", .time (.fromEpoch 110))] none = .ok t ∧
      t.header.storedReal 8 = ⟨0x42480000⟩ := by
  obtain ⟨t, ht, hstored⟩ := exists_ofValues_arrivalFirst
  exact ⟨t, (ofValues_perm (.swap _ _ []) (by decide) none).1 ht, hstored⟩

end Trace

end Seismogram
