/-
# Absolute times in the values of a recording

The values of a recording are stored before it is given a reference time of its own.  An
absolute time among them is measured from the reference time that the values give, each of
its six fields that they do not give being that of a new trace.  Where they do not give all
six, the start of the recording is then stored as the reference time, and the distance that
was measured stays as it is (`toTrace_time`).
-/
import Mathlib.Tactic.Common
import Seismogram.Proofs.Recording.Stages
import Seismogram.Proofs.Time.Seconds

namespace Seismogram

open Seismogram.Number Seismogram.Time Seismogram.Outcome

/-- The fields of a reference time that values give, and those of a new trace for the others. -/
def HeaderMap.referenceGiven (m : HeaderMap) : ReferenceFields :=
  let given (name : String) (other : Int32) : Int32 :=
    ((m.get? name).bind Value.integer?).getD other
  { year := given "nzyear" 1970, day := given "nzjday" 1, hour := given "nzhour" 0,
    minute := given "nzmin" 0, second := given "nzsec" 0, millisecond := given "nzmsec" 0 }

open Header

namespace Recording

variable {r : Recording} {m : HeaderMap} {h k middle stored updated referred : Header}
variable {f : Field} {v : Value} {slot : Fin 70} {reference : Instant} {out : Trace}

/-! ### The reference time that values give -/

/-- A field of integers takes nothing but an integer. -/
lemma store_integer {slot : Fin 40} (hcell : f.cell = .integer slot) (hk : h.store f v = .ok k) :
    ∃ n, v = .integer n ∧ k = h.setInteger slot (some n) := by
  unfold store at hk
  rw [hcell] at hk
  cases v <;> simp at hk
  exact ⟨_, rfl, hk.symm⟩

lemma storedInteger_of_held (hheld : Held m middle stored) (n : IntegerName) :
    stored.storedInteger n.slot =
      ((m.get? n.name).bind Value.integer?).getD (fresh.storedInteger n.slot) := by
  obtain ⟨f, hfound, hcell⟩ := Option.map_eq_some_iff.1 n.find?_name
  obtain ⟨hf, hname⟩ := Schema.find?_eq_some hfound
  obtain ⟨habsent, hpresent, hinstant⟩ := hheld.stored_field hf
  rw [← hname]
  rcases hv : m.get? f.name with _ | v
  · have hsame := habsent fun v hmem =>
      absurd (hv.symm.trans (HeaderMap.get?_eq_some_iff.2 hmem)) (by simp)
    exact hsame.integers n.slot (by rw [hcell]; rfl)
  · have hmem := HeaderMap.get?_eq_some_iff.1 hv
    cases htime : v.isTime
    · obtain ⟨g, k, hk, hsame⟩ := hpresent v hmem htime
      obtain ⟨x, rfl, rfl⟩ := store_integer hcell hk
      rw [hsame.integers n.slot (by rw [hcell]; rfl), storedInteger_setInteger, if_pos rfl]
      rfl
    · -- an integer cannot be given as a time
      cases v with
      | time t =>
          obtain ⟨slot, -, hother, -⟩ := hinstant t hmem
          exact absurd (hcell.symm.trans hother) (by simp)
      | real | integer | logical | text => exact absurd htime (by simp [Value.isTime])

lemma storedReference_of_held (hheld : Held m middle stored) :
    middle.storedReference = m.referenceGiven := by
  have hintegers := Trace.integers_storeTimes hheld.times
  have hfresh := storedReference_fresh
  simp only [storedReference, decompose_epoch, ReferenceFields.mk.injEq] at hfresh
  obtain ⟨hyear, hday, hhour, hminute, hsecond, hmillisecond⟩ := hfresh
  have hgiven (n : IntegerName) {other : Int32} (hother : fresh.storedInteger n.slot = other) :
      middle.storedInteger n.slot = ((m.get? n.name).bind Value.integer?).getD other := by
    rw [← hother, ← storedInteger_congr hintegers]
    exact storedInteger_of_held hheld n
  rw [storedReference, HeaderMap.referenceGiven, ReferenceFields.mk.injEq]
  exact ⟨hgiven .nzyear hyear, hgiven .nzjday hday, hgiven .nzhour hhour, hgiven .nzmin hminute,
    hgiven .nzsec hsecond, hgiven .nzmsec hmillisecond⟩

/-! ### The reference time of the trace -/

namespace Built

/-- The reference time that the values give stays if they give all of it. -/
lemma reference_of_given (hm : r.headers = some m)
    (hb : Built r stored updated referred reference out)
    (hgiven : givesReferenceTime m = true) : stored.referenceTime = .ok reference := by
  have hrefer := refer_eq_ok_iff.1 hb.refer
  rw [hm, Option.any_some, hgiven] at hrefer
  obtain rfl : referred = r.identify updated := by simpa using hrefer
  have hupdate := eqExceptFields_of_eqExceptDistances (eqExceptDistances_of_update hb.update)
  have hstages := hupdate.trans (eqExceptFields_identify (r := r) updated)
  rw [← hstages.referenceTime_eq (by decide), hb.known]

/-- Otherwise it is the start of the recording. -/
lemma reference_of_start (hm : r.headers = some m)
    (hb : Built r stored updated referred reference out)
    (hgiven : givesReferenceTime m = false) : roundToMillisecond r.start = .ok reference := by
  have hrefer := refer_eq_ok_iff.1 hb.refer
  rw [hm, Option.any_some, hgiven] at hrefer
  obtain ⟨start, hstart, hsymbol⟩ : ∃ start, roundToMillisecond r.start = .ok start ∧ _ := by
    simpa using hrefer
  have hwritten : referred.storedReference = decompose start := by
    rw [← storedReference_setReferenceFields (h := r.identify updated) (decompose start)]
    have hsame := eqExceptFields_of_cell SymbolName.iztype.find?_name (eqExceptCell_setSymbol hsymbol)
    exact storedReference_congr (hsame.storedInteger_reference (by decide))
  have hreference := hb.known
  rw [referenceTime_of_known (referenceKnown_of_referenceTime hreference), hwritten,
    compose_decompose (wholeMilliseconds_roundToMillisecond hstart)] at hreference
  rw [hstart, hreference]

/-- A recording whose values give no reference time and do not ask for distances can be made
into a trace, if its start can be stored as a reference time. -/
lemma exists_toTrace_of_start {start : Instant} (hm : r.headers = some m)
    (hheld : Held m middle stored) (hkeeps : stored.KeepsDistances)
    (hgiven : givesReferenceTime m = false) (hstart : roundToMillisecond r.start = .ok start)
    (hyear : yearOf start.day ≠ -12345) : ∃ out, r.toTrace = .ok out := by
  have hcode : (Symbol.code? "ib").bind Symbol.ofCode? = some "ib" := by decide +kernel
  have haccepted : SymbolName.iztype.accepted.contains "ib" = true := by decide +kernel
  obtain ⟨referred, hsymbol, -⟩ := setSymbol_of_accepted
    ((r.identify stored).setReferenceFields (decompose start)) SymbolName.iztype.name
    SymbolName.iztype.slot hcode haccepted
  have hrefer : r.refer (r.identify stored) = .ok referred :=
    refer_eq_ok_iff.2 (Or.inr ⟨by rw [hm, Option.any_some, hgiven], _, hstart, hsymbol⟩)
  have hreference := (eqExceptFields_of_cell SymbolName.iztype.find?_name
    (eqExceptCell_setSymbol hsymbol)).referenceTime_eq (by decide)
  rw [(referenceTime_of_decompose (wholeMilliseconds_roundToMillisecond hstart)
    (storedReference_setReferenceFields _)).1 hyear] at hreference
  exact exists_toTrace_of_refer hm hheld hkeeps hrefer hreference

end Built

/-! ### Relative times -/

/-- No stage writes a relative time besides the beginning and the end. -/
lemma notMem_of_relativeTime (hf : f ∈ Schema.fields) (hcell : f.cell = .relativeTime slot)
    (hbegin : slot ≠ beginSlot) (hend : slot ≠ endSlot) :
    f.name ∉ Built.writtenNames ++ distanceNames ++ (referenceNames ++ ["iztype"]) := by
  have hall : ∀ f ∈ Schema.fields, f.kind = .relativeTime →
      f.cell = .relativeTime beginSlot ∨ f.cell = .relativeTime endSlot ∨
        f.name ∉ Built.writtenNames ++ distanceNames ++ (referenceNames ++ ["iztype"]) := by
    decide +kernel
  rcases hall f hf (by rw [Field.kind, hcell, Cell.kind]) with heq | heq | hname
  · exact absurd (Cell.relativeTime.inj (hcell.symm.trans heq)) hbegin
  · exact absurd (Cell.relativeTime.inj (hcell.symm.trans heq)) hend
  · exact hname

lemma Built.storedReal_relativeTime (hb : Built r stored updated referred reference out)
    (hf : f ∈ Schema.fields) (hcell : f.cell = .relativeTime slot) (hbegin : slot ≠ beginSlot)
    (hend : slot ≠ endSlot) : out.header.storedReal slot = stored.storedReal slot := by
  have hsame := hb.eqExceptFields (eqExceptFields_refer hb.refer) f hf
    (notMem_of_relativeTime hf hcell hbegin hend)
  exact hsame.reals slot (by rw [hcell]; rfl)

/-- An absolute time is measured from the reference time that the values give. -/
lemma exists_given {name : String} {t : Instant} (hm : r.headers = some m)
    (hname : Header.relativeTimeSlot name = .ok slot) (hbegin : slot ≠ beginSlot)
    (hend : slot ≠ endSlot) (hvalue : m.get? name = some (.time t)) (hout : r.toTrace = .ok out) :
    ∃ given reference, compose m.referenceGiven = .ok given ∧
      out.header.referenceTime = .ok reference ∧
      out.header.storedReal slot = (secondsBetween t given).narrow ∧
      (givesReferenceTime m = true → reference = given) ∧
      (givesReferenceTime m = false → roundToMillisecond r.start = .ok reference) := by
  obtain ⟨middle, stored, updated, referred, reference, hheld, hb⟩ := exists_built hm hout
  obtain ⟨f, hfound, hcell⟩ := relativeTimeSlot_eq_ok_iff.1 hname
  obtain ⟨hf, rfl⟩ := Schema.find?_eq_some hfound
  obtain ⟨slot', given, hcell', hgiven, hmeasured⟩ :=
    (hheld.stored_field hf).instant t (HeaderMap.get?_eq_some_iff.1 hvalue)
  obtain rfl : slot = slot' := Cell.relativeTime.inj (hcell.symm.trans hcell')
  refine ⟨given, reference, ?_, hb.referenceTime_eq, ?_, fun hgives => ?_,
    hb.reference_of_start hm⟩
  · rw [← storedReference_of_held hheld, ← hgiven,
      referenceTime_of_known (referenceKnown_of_referenceTime hgiven)]
  · rw [hb.storedReal_relativeTime hf hcell hbegin hend, hmeasured]
  · have hsame : stored.referenceTime = middle.referenceTime := referenceTime_congr fun _ _ =>
      storedInteger_congr (Trace.integers_storeTimes hheld.times) _
    rw [hb.reference_of_given hm hgives, hgiven] at hsame
    exact Except.ok.inj hsame

end Recording

/-- An absolute time among the values of a recording, in a field of relative times that is not
the beginning or the end: the field holds its distance from the reference time that the values
give, the fields that they do not give being those of a new trace.  The reference time of the
trace is the same one if the values give all of it, and is otherwise the start of the
recording, to the millisecond.  Where both are whole seconds from the time, no more than 10^6 of
them, the field then holds the distance from the reference time of the trace only if that is the
one that the values give. -/
theorem toTrace_time {r : Recording} {m : HeaderMap} {out : Trace} {name : String}
    {slot : Fin 70} {t : Instant} (hm : r.headers = some m)
    (hname : Header.relativeTimeSlot name = .ok slot) (hbegin : slot ≠ beginSlot)
    (hend : slot ≠ endSlot) (hvalue : m.get? name = some (.time t)) (hout : r.toTrace = .ok out) :
    ∃ given reference, compose m.referenceGiven = .ok given ∧
      out.header.referenceTime = .ok reference ∧
      out.header.storedReal slot = (secondsBetween t given).narrow ∧
      (Recording.givesReferenceTime m = true → reference = given) ∧
      (Recording.givesReferenceTime m = false → roundToMillisecond r.start = .ok reference) ∧
      ∀ a b : ℤ, t.inLeapSecond = false → a.natAbs ≤ 1000000 → b.natAbs ≤ 1000000 →
        t.since given = a * 1000000000 → t.since reference = b * 1000000000 →
        (out.header.storedReal slot = (secondsBetween t reference).narrow ↔ reference = given) := by
  obtain ⟨given, reference, hgiven, hreference, hstored, hsame, hstart⟩ :=
    Recording.exists_given hm hname hbegin hend hvalue hout
  refine ⟨given, reference, hgiven, hreference, hstored, hsame, hstart, ?_⟩
  intro a b ht ha hb hsince hsince'
  have hordinary : given.inLeapSecond = false := (wholeMilliseconds_compose hgiven).ordinary
  have hordinary' : reference.inLeapSecond = false :=
    (wholeMilliseconds_referenceTime hreference).ordinary
  rw [hstored, narrow_secondsBetween_inj ht hordinary hordinary' ha hb hsince hsince', eq_comm]

/-! ### An arrival ten seconds after the start -/

/-- A recording that starts 100 seconds after the start of 1970.  Among its values is a first
arrival ten seconds later, but no reference time. -/
def Recording.arrival : Recording where
  network := ""
  station := ""
  location := ""
  channel := ""
  start := .fromEpoch 100
  interval := .ofInt 1
  count := 0
  headers := some (HeaderMap.empty.insert "a" (.time (.fromEpoch 110)))
  samples := []

namespace Recording

lemma roundToMillisecond_arrival : roundToMillisecond arrival.start = .ok (.fromEpoch 100) := by
  rw [arrival, roundToMillisecond_fromEpoch]

/-- The values give no field of a reference time, which leaves that of a new trace. -/
lemma compose_referenceGiven_arrival :
    compose (HeaderMap.empty.insert "a" (.time (.fromEpoch 110))).referenceGiven = .ok .epoch := by
  decide +kernel

lemma not_givesReferenceTime_arrival :
    givesReferenceTime (HeaderMap.empty.insert "a" (.time (.fromEpoch 110))) = false := by
  decide +kernel

lemma held_arrival : ∃ stored, Held (HeaderMap.empty.insert "a" (.time (.fromEpoch 110))) fresh
    stored ∧ stored.KeepsDistances := by
  obtain ⟨f, hf, hcell⟩ := relativeTimeSlot_eq_ok_iff.1 relativeTimeSlot_a
  have hstore : fresh.store f (.time (.fromEpoch 110)) = .ok
      (fresh.setReal 8 (some (secondsBetween (.fromEpoch 110) .epoch).narrow)) :=
    store_time_eq_ok_iff.2 ⟨8, hcell, setInstant_eq_ok_iff.2 ⟨.epoch, referenceTime_fresh, rfl⟩⟩
  have hfield := Schema.field_eq_ok_iff.2 hf
  refine ⟨fresh.setReal 8 (some (secondsBetween (.fromEpoch 110) .epoch).narrow), ⟨?_, ?_⟩,
    Or.inl ((storedInteger_congr rfl _).trans storedInteger_fresh_distancesFollow)⟩
  · show Trace.storeOthers fresh [("a", .time (.fromEpoch 110))] = .ok fresh
    simp only [Trace.storeOthers, List.foldlM_cons, List.foldlM_nil, hfield, ok_bind]
    rfl
  · show Trace.storeTimes fresh [("a", .time (.fromEpoch 110))] = .ok _
    simp only [Trace.storeTimes, List.foldlM_cons, List.foldlM_nil, hfield, ok_bind, hstore]
    rfl

lemma exists_toTrace_arrival : ∃ out, arrival.toTrace = .ok out := by
  obtain ⟨stored, hheld, hkeeps⟩ := held_arrival
  exact Built.exists_toTrace_of_start rfl hheld hkeeps not_givesReferenceTime_arrival
    roundToMillisecond_arrival (by decide +kernel)

lemma get?_arrival : (HeaderMap.empty.insert "a" (.time (.fromEpoch 110))).get? "a" =
    some (.time (.fromEpoch 110)) := rfl

end Recording

theorem toTrace_time_arrival :
    ∃ out, Recording.arrival.toTrace = .ok out ∧
      out.header.referenceTime = .ok (.fromEpoch 100) ∧
      out.header.storedReal 8 = (secondsBetween (.fromEpoch 110) .epoch).narrow ∧
      out.header.storedReal 8 ≠ (secondsBetween (.fromEpoch 110) (.fromEpoch 100)).narrow := by
  obtain ⟨out, hout⟩ := Recording.exists_toTrace_arrival
  obtain ⟨given, reference, hgiven, hreference, hstored, -, hstart, hwhole⟩ :=
    toTrace_time rfl relativeTimeSlot_a (by decide) (by decide) Recording.get?_arrival hout
  obtain rfl := Except.ok.inj (Recording.compose_referenceGiven_arrival.symm.trans hgiven)
  obtain rfl := Except.ok.inj (Recording.roundToMillisecond_arrival.symm.trans
    (hstart Recording.not_givesReferenceTime_arrival))
  refine ⟨out, hout, hreference, hstored, fun hsame => ?_⟩
  have hreplaced := (hwhole 110 10 (by decide) (by decide) (by decide) (by decide +kernel)
    (by decide +kernel)).1 hsame
  exact absurd hreplaced (by decide +kernel)

/-- The arrival is stored 110 seconds after a reference time that it is ten seconds after. -/
theorem toTrace_time_lateArrival :
    ∃ out reference, Recording.arrival.toTrace = .ok out ∧
      out.header.referenceTime = .ok reference ∧
      out.header.storedReal 8 = ⟨0x42DC0000⟩ ∧
      (secondsBetween (.fromEpoch 110) reference).narrow = ⟨0x41200000⟩ := by
  obtain ⟨out, hout⟩ := Recording.exists_toTrace_arrival
  obtain ⟨given, reference, hgiven, hreference, hstored, -, hstart⟩ :=
    Recording.exists_given rfl relativeTimeSlot_a (by decide) (by decide)
      Recording.get?_arrival hout
  obtain rfl := Except.ok.inj (Recording.compose_referenceGiven_arrival.symm.trans hgiven)
  obtain rfl := Except.ok.inj (Recording.roundToMillisecond_arrival.symm.trans
    (hstart Recording.not_givesReferenceTime_arrival))
  refine ⟨out, _, hout, hreference, ?_, ?_⟩
  · rw [hstored]
    decide +kernel
  · decide +kernel

end Seismogram
