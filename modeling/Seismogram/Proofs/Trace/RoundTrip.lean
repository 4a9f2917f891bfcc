/-
# Round trips through binary files

A trace that was read is written back as the bytes that it was read from, and a trace that
was written is read back as it is.  The one thing that writing changes is what follows from
the coordinates, and a second writing changes nothing more.  The main results are

* `toBytes_of_ofBytes`: reading, and then writing in either order any number of times;
* `ofBytes_of_toBytes`: writing in either order, and then reading.
-/
import Mathlib.Tactic.Common
import Seismogram.Proofs.Trace.Encoding

namespace Seismogram

open Seismogram.Number Seismogram.Outcome

namespace Trace

variable {data : List UInt8} {t t' : Trace} {o : ByteOrder}

/-- The header counts the samples that there are: their number, or null if it is zero. -/
def Counted (t : Trace) : Prop :=
  match t.samples with
  | some samples =>
    (∃ n, t.header.integer? Header.countSlot = some n ∧ n.toInt = samples.length) ∨
      (t.header.integer? Header.countSlot = none ∧ samples = [])
  | none =>
    t.header.integer? Header.countSlot = some 0 ∨ t.header.integer? Header.countSlot = none

lemma Counted.sampleCount_eq (ht : t.Counted) :
    t.header.sampleCount = .ok (t.samples.getD []).length := by
  obtain ⟨h, samples, o⟩ := t
  rw [Header.sampleCount_eq_ok_iff]
  rcases samples with _ | samples
  · rcases ht with hzero | hnull
    · exact Or.inr ⟨0, hzero, rfl⟩
    · exact Or.inl ⟨hnull, rfl⟩
  · rcases ht with ⟨n, hn, hlen⟩ | ⟨hnull, rfl⟩
    · exact Or.inr ⟨n, hn, hlen⟩
    · exact Or.inl ⟨hnull, rfl⟩

/-! ### Encodings -/

lemma encode_order : t.encode { order := some o } = { t with order := o }.encode {} := rfl

lemma length_encode_default :
    (t.encode {}).length = Binary.headerSize + 4 * (t.samples.getD []).length := by
  rw [encode_default, List.length_append, Binary.length_encodeHeader, Binary.length_encodeSamples]

/-- The order in which a trace is stored has no part in what a file can say of it. -/
lemma Storable.order (ht : t.Storable) (o : ByteOrder) : { t with order := o }.Storable :=
  ⟨ht.version, ht.counted⟩

/-- Bytes outside the words that follow from the coordinates do not depend on these. -/
lemma getElem?_encode_congr (h : Header.EqExceptDistances t.header t'.header)
    (hsamples : t'.samples = t.samples) (horder : t'.order = t.order) {i : Nat}
    (hi : ∀ slot ∈ Header.distanceSlots, ¬ ByteOrder.InWord (4 * slot.val) i) :
    (t'.encode {})[i]? = (t.encode {})[i]? := by
  have hheader : (Binary.encodeHeader t.order t'.header)[i]?
      = (Binary.encodeHeader t.order t.header)[i]? := by
    refine Binary.getElem?_encodeHeader_congr t.order (fun slot hslot => ?_)
      (fun slot _ => h.storedInteger_eq slot) fun _ => h.text
    exact h.reals slot fun hmem => hi slot hmem hslot
  rw [encode_default, encode_default, hsamples, horder]
  simp only [List.getElem?_append, Binary.length_encodeHeader, hheader]

end Trace

/-! ### Writing again -/

namespace Edit

variable {t t' : Trace} {o : ByteOrder} {options : WriteOptions} {out : List UInt8}

/-- What writing changes in a trace. -/
lemma eqExceptDistances_of_toBytes (hwrite : toBytes options t = .ok out t') :
    Header.EqExceptDistances t.header t'.header ∧ t'.samples = t.samples ∧ t'.order = t.order := by
  obtain ⟨-, hupdate, heq, -⟩ := toBytes_eq_ok_iff.1 hwrite
  refine ⟨Header.eqExceptDistances_of_update hupdate, ?_, ?_⟩
  · rw [heq]
  · rw [heq]

lemma storable_of_toBytes (ht : t.Storable) (hwrite : toBytes options t = .ok out t') :
    t'.Storable := by
  obtain ⟨heq, hsamples, -⟩ := eqExceptDistances_of_toBytes hwrite
  refine ⟨(heq.storedInteger_eq _).trans ht.version, ?_⟩
  rw [hsamples, heq.sampleCount_eq]
  exact ht.counted

/-- In the other order the same trace is written. -/
lemma toBytes_order {asked : Option ByteOrder} (hwrite : toBytes { order := asked } t = .ok out t')
    (p : Option ByteOrder) :
    toBytes { order := p } t = .ok (t'.encode { order := p }) t' := by
  obtain ⟨hcheck, hupdate, heq, -⟩ := toBytes_eq_ok_iff.1 hwrite
  exact toBytes_eq_ok_iff.2 ⟨hcheck, hupdate, heq, rfl⟩

/-- A trace that was written is written again as it is, whatever its own order is by then. -/
lemma toBytes_again (hwrite : toBytes options t = .ok out t') (o : ByteOrder) :
    toBytes options { t' with order := o } =
      .ok ({ t' with order := o }.encode options) { t' with order := o } := by
  obtain ⟨heq, hsamples, -⟩ := eqExceptDistances_of_toBytes hwrite
  obtain ⟨hcheck, hupdate, -, -⟩ := toBytes_eq_ok_iff.1 hwrite
  refine toBytes_eq_ok_iff.2 ⟨?_, Header.updateDistances_idem hupdate, rfl, rfl⟩
  rw [Trace.checkWritable] at hcheck ⊢
  rwa [hsamples, heq.integer?_eq]

end Edit

/-! ### The round trips -/

open Trace Edit

/-- A file that was read is written back bit for bit where the distances are to be kept, and
otherwise but for the words that follow from the coordinates.  What was written is read and
written again as the same bytes, also by way of the other order. -/
theorem toBytes_of_ofBytes {data : List UInt8} {asked : Option ByteOrder} {exact : Bool}
    {t : Trace} (hread : ofBytes data { order := asked, exactSize := exact } = .ok t) :
    ∃ samples, t.samples = some samples ∧
      Binary.headerSize + 4 * samples.length ≤ data.length ∧
      (t.header.KeepsDistances →
        toBytes {} t = .ok (data.take (Binary.headerSize + 4 * samples.length)) t) ∧
      ∀ out t', toBytes {} t = .ok out t' →
        out.length = Binary.headerSize + 4 * samples.length ∧
        (∀ i < out.length, (∀ slot ∈ Header.distanceSlots, ¬ ByteOrder.InWord (4 * slot.val) i) →
          out[i]? = data[i]?) ∧
        (∀ again check, again = none ∨ again = some t.order →
          ofBytes out { order := again, exactSize := check } = .ok t' ∧
          toBytes {} t' = .ok out t') ∧
        ∃ swapped, toBytes { order := some t.order.other } t = .ok swapped t' ∧
          ∀ again check, again = none ∨ again = some t.order.other → ∃ back,
            ofBytes swapped { order := again, exactSize := check } = .ok back ∧
            toBytes { order := some t.order } back = .ok out back := by
  obtain ⟨hstorable, -, rest, rfl, -⟩ := ofBytes_eq_ok_iff.1 hread
  obtain ⟨samples, hsamples, hcount⟩ := hstorable.counted
  have hlen : (t.encode {}).length = Binary.headerSize + 4 * samples.length := by
    rw [length_encode_default, hsamples, Option.getD_some]
  refine ⟨samples, hsamples, ?_, ?_, ?_⟩
  · rw [List.length_append, hlen]
    exact Nat.le_add_right _ _
  · intro hkeep
    rw [← hlen, List.take_left]
    refine toBytes_eq_ok_iff.2 ⟨?_, Header.updateDistances_of_keeps hkeep, rfl, rfl⟩
    simp [checkWritable, hsamples]
  · intro out t' hwrite
    obtain ⟨heq, hsamples', horder⟩ := eqExceptDistances_of_toBytes hwrite
    have hstorable' := storable_of_toBytes hstorable hwrite
    obtain ⟨-, -, -, rfl⟩ := toBytes_eq_ok_iff.1 hwrite
    have hlen' : (t'.encode {}).length = Binary.headerSize + 4 * samples.length := by
      rw [length_encode_default, hsamples', hsamples, Option.getD_some]
    refine ⟨hlen', ?_, ?_, ?_⟩
    · intro i hi houtside
      rw [List.getElem?_append_left (by omega)]
      exact getElem?_encode_congr heq hsamples' horder houtside
    · intro again check hagain
      exact ⟨ofBytes_encode hstorable' check (by rwa [horder]), toBytes_again hwrite t'.order⟩
    · -- what is read back differs from what was written in nothing but the order
      refine ⟨_, toBytes_order hwrite _, fun again check hagain => ?_⟩
      refine ⟨{ t' with order := t.order.other }, ?_, ?_⟩
      · rw [encode_order]
        exact ofBytes_encode (hstorable'.order _) check hagain
      · rw [toBytes_again (toBytes_order hwrite (some t.order)), encode_order, ← horder]

theorem toBytes_of_ofBytes_oneSample :
    ofBytes (oneSample.encode {} ++ [0]) { order := none, exactSize := false } = .ok oneSample ∧
      ∃ out, toBytes {} oneSample = .ok out oneSample ∧ out.length = 636 ∧
        ofBytes out {} = .ok oneSample := by
  have hread : ofBytes (oneSample.encode {} ++ [0]) { order := none, exactSize := false }
      = .ok oneSample :=
    ofBytes_eq_ok_iff.2 ⟨storable_oneSample, Or.inl rfl, [0], rfl, by simp⟩
  obtain ⟨samples, hsamples, -, hkeep, hwritten⟩ := toBytes_of_ofBytes hread
  have hwrite := hkeep (Or.inr (Or.inl (by decide)))
  obtain ⟨hlen, -, hagain, -⟩ := hwritten _ _ hwrite
  refine ⟨hread, _, hwrite, ?_, (hagain none false (Or.inl rfl)).1⟩
  obtain rfl : [⟨0x7FA00000⟩] = samples := Option.some.inj hsamples
  exact hlen

/-- A trace whose samples are counted is read back from what was written of it, with the
header that it has then, in the order that it was written in and in no other. -/
theorem ofBytes_of_toBytes {t t' : Trace} {o : ByteOrder} {out : List UInt8}
    (hversion : t.header.storedInteger Header.versionSlot = 6) (hcounted : t.Counted)
    (hwrite : toBytes { order := some o } t = .ok out t') :
    (∀ asked exact, asked = none ∨ asked = some o →
      ofBytes out { order := asked, exactSize := exact } =
        .ok ⟨t'.header, some (t.samples.getD []), o⟩) ∧
    (∀ exact, ofBytes out { order := some o.other, exactSize := exact } =
      .error (.invalidByteOrder (some o.other))) ∧
    ∃ swapped, toBytes { order := some o.other } t = .ok swapped t' ∧
      ∀ asked exact, asked = none ∨ asked = some o.other →
        ofBytes swapped { order := asked, exactSize := exact } =
          .ok ⟨t'.header, some (t.samples.getD []), o.other⟩ := by
  obtain ⟨heq, hsamples, -⟩ := eqExceptDistances_of_toBytes hwrite
  obtain ⟨-, -, -, rfl⟩ := toBytes_eq_ok_iff.1 hwrite
  have hencode (p : ByteOrder) : t'.encode { order := some p }
      = Trace.encode ⟨t'.header, some (t.samples.getD []), p⟩ {} := by
    rw [encode_order, encode_default, encode_default, hsamples]
    rfl
  have hstorable (p : ByteOrder) : Storable ⟨t'.header, some (t.samples.getD []), p⟩ := by
    refine ⟨(heq.storedInteger_eq _).trans hversion, _, rfl, ?_⟩
    rw [heq.sampleCount_eq]
    exact hcounted.sampleCount_eq
  refine ⟨?_, ?_, _, toBytes_order hwrite _, ?_⟩
  · intro asked exact hasked
    rw [hencode]
    exact ofBytes_encode (hstorable o) exact hasked
  · intro exact
    rw [hencode]
    exact ofBytes_encode_other (hstorable o) exact
  · intro asked exact hasked
    rw [hencode]
    exact ofBytes_encode (hstorable o.other) exact hasked

theorem ofBytes_of_toBytes_oneSample :
    ∃ out, toBytes { order := some .big } oneSample = .ok out oneSample ∧
      ofBytes out {} = .ok { oneSample with order := .big } := by
  have hwrite : toBytes { order := some .big } oneSample
      = .ok (oneSample.encode { order := some .big }) oneSample :=
    toBytes_eq_ok_iff.2
      ⟨rfl, Header.updateDistances_of_keeps (Or.inr (Or.inl (by decide))), rfl, rfl⟩
  have hcounted : oneSample.Counted := Or.inl ⟨1, by decide, rfl⟩
  obtain ⟨hread, -⟩ := ofBytes_of_toBytes (by decide) hcounted hwrite
  exact ⟨_, hwrite, hread none false (Or.inl rfl)⟩

end Seismogram
