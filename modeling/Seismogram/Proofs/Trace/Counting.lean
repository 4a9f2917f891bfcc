/-
# The number of samples in a header

Attaching samples stores their number, and reading a file yields as many samples as its header
counts.  No operation breaks this but one that stores something else in `npts`
(`samplesCounted_after`).  A trace of the version that is read can therefore be read back
whenever it could be written, with the samples that it has (`counted_after`).
-/
import Mathlib.Tactic.Common
import Seismogram.Proofs.Header.ReferenceTime
import Seismogram.Proofs.Layout.Reading
import Seismogram.Proofs.Trace.Effect
import Seismogram.Proofs.Trace.RoundTrip
import Seismogram.Proofs.Trace.Samples

namespace Seismogram

open Seismogram.Number Seismogram.Time Seismogram.Outcome

/-! ### The samples of a trace -/

namespace Trace

/-- The samples of the trace, if it has any, are counted by its header, as far as a header can
count. -/
def SamplesCounted (t : Trace) : Prop :=
  ∀ samples, t.samples = some samples → samples.length ≤ 2147483647 →
    t.header.sampleCount = .ok samples.length

variable {t t' : Trace}

lemma samplesCounted_of_none (hnone : t.samples = none) : t.SamplesCounted :=
  fun _ hsome => absurd (hnone.symm.trans hsome) (by simp)

lemma SamplesCounted.congr (ht : t.SamplesCounted) (hsamples : t'.samples = t.samples)
    (hcount : t'.header.storedInteger Header.countSlot
      = t.header.storedInteger Header.countSlot) : t'.SamplesCounted := by
  intro samples hsome hlen
  rw [Header.sampleCount_congr hcount]
  exact ht samples (hsamples ▸ hsome) hlen

/-- Samples that were described stay counted while the number in the header stays. -/
lemma samplesCounted_describe {h k : Header} {samples : List Single} {o : ByteOrder}
    (hcount : k.storedInteger Header.countSlot
      = (h.describe samples).storedInteger Header.countSlot) :
    SamplesCounted ⟨k, some samples, o⟩ := by
  intro samples' hsome hlen
  obtain rfl := Option.some.inj hsome
  rw [Header.sampleCount_congr hcount]
  exact Header.sampleCount_describe hlen

lemma samplesCounted_setSamples (t : Trace) (samples : Option (List Single)) :
    (t.setSamples samples).SamplesCounted := by
  cases samples with
  | none => exact samplesCounted_of_none rfl
  | some samples => exact samplesCounted_describe rfl

/-! ### Where traces come from -/

lemma samplesCounted_ofBytes {data : List UInt8} {options : ReadOptions}
    (hread : ofBytes data options = .ok t) : t.SamplesCounted := by
  obtain ⟨asked, headerOnly, alphanumeric, exact⟩ := options
  cases alphanumeric
  · cases headerOnly
    · obtain ⟨hstorable, -⟩ := ofBytes_eq_ok_iff.1 hread
      obtain ⟨samples, hsamples, hcount⟩ := hstorable.counted
      intro samples' hsome _
      obtain rfl := Option.some.inj (hsamples.symm.trans hsome)
      exact hcount
    · simp only [ofBytes, Bool.false_eq_true, if_false, if_true, bind_eq_ok_iff,
        Except.ok.injEq] at hread
      obtain ⟨_, -, rfl⟩ := hread
      exact samplesCounted_of_none rfl
  · simp only [ofBytes, if_true, bind_eq_ok_iff, Except.ok.injEq] at hread
    obtain ⟨⟨h, samples⟩, hdecode, rfl⟩ := hread
    cases headerOnly
    · obtain ⟨-, n, v, hcount, -, rfl⟩ := Alphanumeric.decode_eq_ok_iff.1 hdecode
      intro samples' hsome _
      obtain rfl := Option.some.inj hsome
      rwa [Vector.length_toList]
    · obtain ⟨-, rfl⟩ := Alphanumeric.decode_headerOnly_eq_ok_iff.1 hdecode
      exact samplesCounted_of_none rfl

lemma samplesCounted_toTrace {r : Recording} (hconvert : r.toTrace = .ok t) :
    t.SamplesCounted := by
  simp only [Recording.toTrace, bind_eq_ok_iff, Except.ok.injEq] at hconvert
  obtain ⟨_, -, _, -, _, -, _, hupdate, rfl⟩ := hconvert
  exact samplesCounted_describe
    ((Header.eqExceptDistances_of_update hupdate).storedInteger_eq _)

lemma samplesCounted_ofValues {pairs : List (String × Value)} {samples : Option (List Single)}
    (hvalues : ofValues pairs samples = .ok t) : t.SamplesCounted := by
  simp only [ofValues, bind_eq_ok_iff, Except.ok.injEq] at hvalues
  obtain ⟨_, -, _, -, _, hupdate, rfl⟩ := hvalues
  cases samples with
  | none => exact samplesCounted_of_none rfl
  | some samples =>
      exact samplesCounted_describe
        ((Header.eqExceptDistances_of_update hupdate).storedInteger_eq _)

lemma samplesCounted_origin {origin : Origin} (hbegin : origin.trace = .ok t) :
    t.SamplesCounted := by
  cases origin with
  | new =>
      obtain rfl := Except.ok.inj hbegin
      exact samplesCounted_of_none rfl
  | values pairs samples => exact samplesCounted_ofValues hbegin
  | recording r => exact samplesCounted_toTrace hbegin
  | bytes data options => exact samplesCounted_ofBytes hbegin
  | file d path options =>
      rw [Origin.trace, Folder.read, bind_eq_ok_iff] at hbegin
      obtain ⟨_, -, hread⟩ := hbegin
      exact samplesCounted_ofBytes hread

/-! ### Operations and histories -/

/-- An operation keeps the samples counted unless it is asked to store in `npts`. -/
lemma SamplesCounted.effect {op : Operation} (ht : t.SamplesCounted)
    (heffect : op.Effect t t') (hop : op.field? ≠ some "npts") : t'.SamplesCounted := by
  -- a field that is not `npts` has another cell than the number of samples
  have hother {name : String} {f : Field} (hname : op.field? = some name)
      (hfield : Schema.find? name = some f) : f.cell.integerSlot? ≠ some Header.countSlot := by
    obtain ⟨hmem, rfl⟩ := Schema.find?_eq_some hfield
    exact fun hslot => hop (by rw [hname, Schema.name_of_countSlot f hmem hslot])
  cases heffect with
  | kept => exact ht
  | stored hname hfield _ hcell => exact ht.congr rfl (hcell.integers _ (hother hname hfield))
  | located hname hfield _ hcell =>
      refine ht.congr rfl ?_
      rw [← hcell.integers _ (hother hname hfield)]
      exact (Header.eqExceptDistances_refreshed _).storedInteger_eq _
  | refreshed => exact ht.congr rfl ((Header.eqExceptDistances_refreshed _).storedInteger_eq _)
  | computed hupdate =>
      obtain ⟨_, _, l, -, -, rfl⟩ := Header.updateDistances_demanded_inv hupdate
      exact ht.congr rfl ((Header.eqExceptDistances_setLine l).storedInteger_eq _)
  | moved hmove =>
      obtain ⟨_, -, hmoved⟩ := Header.moved_of_setReferenceTime hmove
      exact ht.congr rfl (hmoved.integers _ (by decide))
  | sampled samples => exact samplesCounted_setSamples _ samples
  | ordered o => exact ht.congr rfl rfl
  | read _ hread => exact samplesCounted_ofBytes hread
  | converted hconvert => exact samplesCounted_toTrace hconvert

theorem samplesCounted_after {origin : Origin} {history : List Operation}
    (hbegin : origin.trace = .ok t) (hother : ∀ op ∈ history, op.field? ≠ some "npts") :
    (t.after history).SamplesCounted :=
  after_induction (samplesCounted_origin hbegin) fun op hop _ _ heffect ht =>
    ht.effect heffect (hother op hop)

/-! ### Reading what was written -/

/-- A trace without samples is written only if its header counts none. -/
lemma sampleCount_of_checkWritable {asked : Option ByteOrder} (hnone : t.samples = none)
    (hcheck : t.checkWritable { order := asked } = .ok ()) : t.header.sampleCount = .ok 0 := by
  rw [checkWritable, hnone] at hcheck
  simp only [Bool.and_false, Bool.false_eq_true, if_false, Option.isSome_none, Bool.or_self]
    at hcheck
  rw [Header.sampleCount_eq_ok_iff]
  split at hcheck
  · rename_i npts hnpts
    split_ifs at hcheck with hzero
    exact Or.inr ⟨npts, hnpts, by rw [hzero]; rfl⟩
  · rename_i hnull
    exact Or.inl ⟨hnull, rfl⟩

end Trace

open Trace Header

/-- A trace whose samples are counted is read back from what was written of it. -/
lemma ofBytes_of_toBytes_counted {t t' : Trace} {asked again : Option ByteOrder} {exact : Bool}
    {out : List UInt8} (hversion : t.header.storedInteger Header.versionSlot = 6)
    (hcounted : t.SamplesCounted) (hlen : (t.samples.getD []).length ≤ 2147483647)
    (hwrite : Edit.toBytes { order := asked } t = .ok out t')
    (hagain : again = none ∨ again = some (asked.getD t.order)) :
    ofBytes out { order := again, exactSize := exact } =
      .ok ⟨t'.header, some (t.samples.getD []), asked.getD t.order⟩ := by
  obtain ⟨heq, hsamples, horder⟩ := Edit.eqExceptDistances_of_toBytes hwrite
  obtain ⟨hcheck, -, -, rfl⟩ := Edit.toBytes_eq_ok_iff.1 hwrite
  have hcount : t.header.sampleCount = .ok (t.samples.getD []).length := by
    rcases hsome : t.samples with _ | samples
    · exact sampleCount_of_checkWritable hsome hcheck
    · rw [hsome] at hlen
      exact hcounted samples hsome hlen
  -- a trace without samples is read back as one with no sample, so it is this one that is storable
  have hstorable : Storable ⟨t'.header, some (t.samples.getD []), asked.getD t.order⟩ :=
    ⟨(heq.storedInteger_eq _).trans hversion, _, rfl, heq.sampleCount_eq.trans hcount⟩
  have hencode : t'.encode { order := asked }
      = Trace.encode ⟨t'.header, some (t.samples.getD []), asked.getD t.order⟩ {} := by
    rw [← hsamples, ← horder]
    rfl
  rw [hencode]
  exact ofBytes_encode hstorable exact hagain

/-- Writing a whole trace puts its bytes at the path. -/
lemma FileEdit.write_whole_eq_ok {path : String} {asked : Option ByteOrder} {s s' : Desk}
    (h : write path { order := asked } s = .ok () s') :
    ∃ name out, Edit.toBytes { order := asked } s.trace = .ok out s'.trace ∧
      s'.folder.locate path = .file name out := by
  simp only [write, Bool.false_and, Bool.false_eq_true, if_false, run_eq_ok_iff, ofEdit_eq_ok_iff,
    replaceFolder_eq_ok_iff] at h
  obtain ⟨out, _, ⟨_, hwrite, rfl⟩, d, hput, rfl⟩ := h
  obtain ⟨name, hplace⟩ := Folder.locate_of_putAt hput
  exact ⟨name, out, hwrite, hplace⟩

/-- However a trace came about and whatever was done to it since, but for storing in `npts`:
if it has samples, their number is in its header or is zero there, null meaning zero.  A trace
of the version that is read can then be read back whenever it could be written, as bytes or as
a file, with exactly its samples. -/
theorem counted_after {origin : Origin} {t : Trace} {history : List Operation}
    (hbegin : origin.trace = .ok t) (hother : ∀ op ∈ history, op.field? ≠ some "npts")
    (hlen : ((t.after history).samples.getD []).length ≤ 2147483647) :
    let now := t.after history
    (∀ samples, now.samples = some samples →
      (∃ n, now.header.integer? Header.countSlot = some n ∧ n.toInt = samples.length) ∨
        (now.header.integer? Header.countSlot = none ∧ samples = [])) ∧
    (now.header.storedInteger Header.versionSlot = 6 →
      ∀ asked again exact, again = none ∨ again = some (asked.getD now.order) →
        (∀ out t', Edit.toBytes { order := asked } now = .ok out t' →
          ofBytes out { order := again, exactSize := exact } =
            .ok ⟨t'.header, some (now.samples.getD []), asked.getD now.order⟩) ∧
        ∀ d path s, FileEdit.write path { order := asked } ⟨now, d⟩ = .ok () s →
          s.folder.read path { order := again, exactSize := exact } =
            .ok ⟨s.trace.header, some (now.samples.getD []), asked.getD now.order⟩) := by
  intro now
  have hcounted : now.SamplesCounted := samplesCounted_after hbegin hother
  refine ⟨fun samples hsamples => ?_, fun hversion asked again exact hagain => ⟨?_, ?_⟩⟩
  · have hshort : samples.length ≤ 2147483647 := by
      rw [show (t.after history).samples = some samples from hsamples] at hlen
      exact hlen
    rcases Header.sampleCount_eq_ok_iff.1 (hcounted samples hsamples hshort) with
      ⟨hnull, hzero⟩ | hcount
    · exact Or.inr ⟨hnull, List.eq_nil_of_length_eq_zero hzero⟩
    · exact Or.inl hcount
  · intro out t' hwrite
    exact ofBytes_of_toBytes_counted hversion hcounted hlen hwrite hagain
  · intro d path s hwrite
    obtain ⟨name, out, hbytes, hplace⟩ := FileEdit.write_whole_eq_ok hwrite
    rw [Folder.read_of_locate hplace]
    exact ofBytes_of_toBytes_counted hversion hcounted hlen hbytes hagain

theorem counted_after_twoZeros :
    let now := oneSample.after [.takeSamples, .setSamples (some [.zero false, .zero true])]
    (∃ n, now.header.integer? Header.countSlot = some n ∧ n.toInt = 2) ∧
      ∃ out back, Edit.toBytes { order := none } now = .ok out now ∧
        ofBytes out { order := none, exactSize := true } = .ok back ∧
        back.samples = some [.zero false, .zero true] := by
  intro now
  have hbegin : (Origin.bytes (oneSample.encode {}) {}).trace = .ok oneSample :=
    ofBytes_encode storable_oneSample false (Or.inl rfl)
  have hkept (slot : Fin 40) (hslot : slot ≠ Header.countSlot) :
      now.header.storedInteger slot = oneSample.header.storedInteger slot :=
    storedInteger_describe hslot
  have hwrite : Edit.toBytes { order := none } now = .ok (now.encode { order := none }) now :=
    Edit.toBytes_eq_ok_iff.2
      ⟨rfl, updateDistances_of_keeps (Or.inr (Or.inl (hkept _ (by decide)))), rfl, rfl⟩
  have hother : ∀ op ∈ [Operation.takeSamples, .setSamples (some [.zero false, .zero true])],
      op.field? ≠ some "npts" := by
    decide
  obtain ⟨hcount, hread⟩ := counted_after hbegin hother (by decide)
  obtain ⟨hbytes, -⟩ := hread (hkept _ (by decide)) none none true (Or.inl rfl)
  refine ⟨(hcount _ rfl).resolve_right (by simp), _, _, hwrite, hbytes _ _ hwrite, rfl⟩

end Seismogram
