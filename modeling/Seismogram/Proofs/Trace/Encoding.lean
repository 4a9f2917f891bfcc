/-
# The traces of binary files

A binary file holds a trace and then whatever follows it.  `ofBytes_eq_ok_iff` says so of
reading: a trace is read from exactly those files that begin with its encoding, if its
version is one that is read and its header counts its samples.  Writing, by
`toBytes_eq_ok_iff`, gives the encoding of the trace with its distances brought up to date.
-/
import Mathlib.Tactic.Common
import Seismogram.Trace.Encoding
import Seismogram.Proofs.Header.Distances
import Seismogram.Proofs.Layout.Binary

namespace Seismogram

open Seismogram.Number Seismogram.Outcome

/-! ### Edits -/

namespace Edit

variable {t t' : Trace}

lemma ask_eq_ok_iff {α : Type} {answer : Trace → Except Error α} {a : α} :
    ask answer t = .ok a t' ↔ answer t = .ok a ∧ t' = t := by
  rw [ask]
  cases answer t <;> simp [eq_comm]

lemma ask_eq_error_iff {α : Type} {answer : Trace → Except Error α} {e : Error} :
    ask answer t = .error e t' ↔ answer t = .error e ∧ t' = t := by
  rw [ask]
  cases answer t <;> simp [eq_comm]

lemma replaceHeader_eq_ok_iff {change : Header → Except Error Header} {u : Unit} :
    replaceHeader change t = .ok u t' ↔
      ∃ h, change t.header = .ok h ∧ t' = { t with header := h } := by
  rw [replaceHeader]
  cases change t.header <;> simp [eq_comm]

lemma replaceHeader_eq_error_iff {change : Header → Except Error Header} {e : Error} :
    replaceHeader change t = .error e t' ↔ change t.header = .error e ∧ t' = t := by
  rw [replaceHeader]
  cases change t.header <;> simp [eq_comm]

lemma updateDistances_eq_ok_iff {u : Unit} :
    updateDistances false t = .ok u t' ↔
      ∃ h, t.header.updateDistances false = .ok h ∧ t' = { t with header := h } :=
  replaceHeader_eq_ok_iff

lemma updateDistances_eq_error_iff {e : Error} :
    updateDistances false t = .error e t' ↔ t.header.updateDistances false = .error e ∧ t' = t :=
  replaceHeader_eq_error_iff

end Edit

/-! ### The number of samples -/

lemma Header.sampleCount_eq_ok_iff {h : Header} {n : Nat} :
    h.sampleCount = .ok n ↔
      (h.integer? countSlot = none ∧ n = 0) ∨
        ∃ w, h.integer? countSlot = some w ∧ w.toInt = n := by
  rw [sampleCount]
  rcases h.integer? countSlot with _ | w
  · simp [eq_comm]
  · simp only [Int32.lt_iff_toInt_lt, reduceCtorEq, false_and, Option.some.injEq,
      exists_eq_left', false_or]
    have hzero : (0 : Int32).toInt = 0 := by decide
    rw [hzero]
    split
    · simp only [reduceCtorEq, false_iff]
      omega
    · rw [Except.ok.injEq]
      omega

/-- The sentinel is negative, and so the stored number counts the samples unless it is that. -/
lemma Header.sampleCount_eq_ok_iff_stored {h : Header} {n : Nat} :
    h.sampleCount = .ok n ↔
      (h.storedInteger countSlot = nullInteger ∧ n = 0) ∨
        (h.storedInteger countSlot).toInt = n := by
  rw [sampleCount_eq_ok_iff, integer?_eq_none_iff]
  refine or_congr_right ?_
  constructor
  · rintro ⟨w, hw, hn⟩
    rw [(integer?_eq_some_iff.1 hw).2, hn]
  · intro hn
    refine ⟨_, integer?_eq_some_iff.2 ⟨?_, rfl⟩, hn⟩
    intro hnull
    have hnegative : nullInteger.toInt < 0 := by decide
    rw [← hnull, hn] at hnegative
    omega

namespace Trace

variable {data : List UInt8} {asked : Option ByteOrder} {exact : Bool} {t t' : Trace}

/-- What a binary file says of a trace: its version is one that is read, and its samples are
there and counted. -/
structure Storable (t : Trace) : Prop where
  version : t.header.storedInteger Header.versionSlot = 6
  counted : ∃ samples, t.samples = some samples ∧ t.header.sampleCount = .ok samples.length

/-- A trace with one sample, a signalling word that is no number. -/
def oneSample : Trace where
  header :=
    (Header.blank.setInteger Header.versionSlot (some 6)).setInteger Header.countSlot (some 1)
  samples := some [⟨0x7FA00000⟩]
  order := .little

lemma storable_oneSample : oneSample.Storable :=
  ⟨by decide, _, rfl, by decide⟩

/-! ### Reading -/

/-- The samples that are read are as many as the header counts, and are followed by nothing
where the size has to be exact. -/
lemma binarySamples_eq_ok_iff {h : Header} {o : ByteOrder} {samples : List Single}
    (hlen : Binary.headerSize ≤ data.length) :
    binarySamples data h o exact = .ok samples ↔
      h.sampleCount = .ok samples.length ∧
        ∃ rest, data.drop Binary.headerSize = Binary.encodeSamples o samples ++ rest ∧
          (exact = true → rest = []) := by
  rw [binarySamples, bind_eq_ok_iff]
  simp only [Binary.checkLength_bind_eq_ok_iff]
  constructor
  · rintro ⟨n, hcount, hlong, hread⟩
    split at hread
    · simp at hread
    · rename_i hexact
      rw [Binary.decodeSamples_eq_ok_iff] at hread
      obtain ⟨rfl, rest, hrest⟩ := hread
      refine ⟨hcount, rest, hrest, fun hx => ?_⟩
      have hsize := congrArg List.length hrest
      rw [List.length_drop, List.length_append, Binary.length_encodeSamples] at hsize
      rw [not_and] at hexact
      have hend := hexact hx
      exact List.eq_nil_of_length_eq_zero (by omega)
  · rintro ⟨hcount, rest, hrest, hexact⟩
    have hsize := congrArg List.length hrest
    rw [List.length_drop, List.length_append, Binary.length_encodeSamples] at hsize
    refine ⟨samples.length, hcount, by omega, ?_⟩
    rw [if_neg]
    · rw [Binary.decodeSamples_eq_ok_iff]
      exact ⟨rfl, rest, hrest⟩
    · rintro ⟨hx, hlong⟩
      rw [hexact hx, List.length_nil] at hsize
      omega

lemma encode_default :
    t.encode {} = Binary.encodeHeader t.order t.header
      ++ Binary.encodeSamples t.order (t.samples.getD []) := rfl

lemma headerSize_le_encode (t : Trace) (rest : List UInt8) :
    Binary.headerSize ≤ (t.encode {} ++ rest).length := by
  rw [encode_default, List.length_append, List.length_append, Binary.length_encodeHeader]
  omega

/-- The header at the beginning of an encoding is that of the trace. -/
lemma readHeader_encode {o : ByteOrder} {rest : List UInt8} (ho : t.order = o) :
    Binary.readHeader o (t.encode {} ++ rest) = t.header := by
  rw [encode_default, List.append_assoc, ho, Binary.readHeader_encodeHeader]

/-- After the header of an encoding come the samples of the trace. -/
lemma drop_encode (t : Trace) (rest : List UInt8) :
    (t.encode {} ++ rest).drop Binary.headerSize
      = Binary.encodeSamples t.order (t.samples.getD []) ++ rest := by
  rw [encode_default, List.append_assoc, ← Binary.length_encodeHeader t.order t.header,
    List.drop_left]

lemma isValidOrder_encode (ht : t.Storable) (rest : List UInt8) :
    Binary.isValidOrder (t.encode {} ++ rest) t.order = true := by
  rw [Binary.isValidOrder_iff t.order (headerSize_le_encode t rest), readHeader_encode rfl]
  exact ht.version

/-- A trace is read from the files that begin with its encoding. -/
theorem ofBytes_eq_ok_iff :
    ofBytes data { order := asked, exactSize := exact } = .ok t ↔
      t.Storable ∧ (asked = none ∨ asked = some t.order) ∧
        ∃ rest, data = t.encode {} ++ rest ∧ (exact = true → rest = []) := by
  simp only [ofBytes, Bool.false_eq_true, if_false, bind_eq_ok_iff, Prod.exists, Except.ok.injEq]
  constructor
  · rintro ⟨h, o, hheader, samples, hsamples, rfl⟩
    -- the header's record and the samples' bytes are what the file begins with
    rw [Binary.decodeHeader_eq_ok_iff] at hheader
    obtain ⟨hlen, hvalid, hasked, rfl⟩ := hheader
    rw [binarySamples_eq_ok_iff hlen] at hsamples
    obtain ⟨hcount, rest, hrest, hexact⟩ := hsamples
    refine ⟨⟨(Binary.isValidOrder_iff o hlen).1 hvalid, samples, rfl, hcount⟩, hasked, rest, ?_,
      hexact⟩
    rw [encode_default, List.append_assoc, Option.getD_some, ← hrest]
    rw [Binary.encodeHeader_readHeader o hlen, List.take_append_drop]
  · rintro ⟨hstorable, hasked, rest, rfl, hexact⟩
    obtain ⟨samples, hsamples, hcount⟩ := hstorable.counted
    have hlen := headerSize_le_encode t rest
    have hvalid := isValidOrder_encode hstorable rest
    refine ⟨t.header, t.order, ?_, samples, ?_, ?_⟩
    · rw [Binary.decodeHeader_eq_ok_iff]
      exact ⟨hlen, hvalid, hasked, (readHeader_encode rfl).symm⟩
    · rw [binarySamples_eq_ok_iff hlen, drop_encode, hsamples]
      exact ⟨hcount, rest, rfl, hexact⟩
    · rw [← hsamples]

/-- A trace is read back from its encoding. -/
lemma ofBytes_encode (ht : t.Storable) (exact : Bool)
    (hasked : asked = none ∨ asked = some t.order) :
    ofBytes (t.encode {}) { order := asked, exactSize := exact } = .ok t :=
  ofBytes_eq_ok_iff.2 ⟨ht, hasked, [], (List.append_nil _).symm, fun _ => rfl⟩

/-- The encoding of a trace is refused in the other order. -/
lemma ofBytes_encode_other (ht : t.Storable) (exact : Bool) :
    ofBytes (t.encode {}) { order := some t.order.other, exactSize := exact } =
      .error (.invalidByteOrder (some t.order.other)) := by
  have hlen := headerSize_le_encode t []
  have hvalid := isValidOrder_encode ht []
  rw [List.append_nil] at hlen hvalid
  simp [ofBytes, Binary.decodeHeader_other t.order hlen hvalid]

end Trace

/-! ### Writing -/

/-- What is written is the encoding of the trace with its distances brought up to date. -/
theorem Edit.toBytes_eq_ok_iff {options : WriteOptions} {t t' : Trace} {out : List UInt8} :
    Edit.toBytes options t = .ok out t' ↔
      t.checkWritable options = .ok () ∧ t.header.updateDistances false = .ok t'.header ∧
        t' = { t with header := t'.header } ∧ out = t'.encode options := by
  simp only [toBytes, run_eq_ok_iff, ask_eq_ok_iff, updateDistances_eq_ok_iff, Except.ok.injEq]
  constructor
  · rintro ⟨_, _, ⟨hcheck, rfl⟩, _, _, ⟨h, hupdate, rfl⟩, rfl, rfl⟩
    exact ⟨hcheck, hupdate, rfl, rfl⟩
  · rintro ⟨hcheck, hupdate, heq, rfl⟩
    exact ⟨(), t, ⟨hcheck, rfl⟩, (), t', ⟨t'.header, hupdate, heq⟩, rfl, rfl⟩

lemma Edit.toBytes_eq_error_iff {options : WriteOptions} {t t' : Trace} {e : Error} :
    Edit.toBytes options t = .error e t' ↔
      (t.checkWritable options = .error e ∨
        t.checkWritable options = .ok () ∧ t.header.updateDistances false = .error e) ∧ t' = t := by
  simp only [toBytes, run_eq_error_iff, ask_eq_ok_iff, ask_eq_error_iff,
    updateDistances_eq_error_iff, reduceCtorEq, false_and, and_false, exists_false, or_false]
  constructor
  · rintro (⟨hcheck, rfl⟩ | ⟨_, _, ⟨hcheck, rfl⟩, hupdate, rfl⟩)
    · exact ⟨Or.inl hcheck, rfl⟩
    · exact ⟨Or.inr ⟨hcheck, hupdate⟩, rfl⟩
  · rintro ⟨hcheck | ⟨hcheck, hupdate⟩, rfl⟩
    · exact Or.inl ⟨hcheck, rfl⟩
    · exact Or.inr ⟨(), _, ⟨hcheck, rfl⟩, hupdate, rfl⟩

/-- Nothing is changed where nothing is written. -/
lemma Edit.eq_of_toBytes_error {options : WriteOptions} {t t' : Trace} {e : Error}
    (h : Edit.toBytes options t = .error e t') : t' = t :=
  (toBytes_eq_error_iff.1 h).2

end Seismogram
