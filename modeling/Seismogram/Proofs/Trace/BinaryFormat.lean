/-
# The binary format

What a binary file is, said of its bytes alone.  A word is held by a file where all of its four
bytes are there (`HoldsWord`), and so a file that holds a word is long enough for it.  From the
words that a file holds follow its order, its number of samples and the trace that it holds.

A file is read if and only if it is one of the format, as the trace that it holds, and is refused
for its first fault otherwise (`ofBytes_binaryFormat`).
-/
import Mathlib.Tactic.IntervalCases
import Seismogram.Proofs.Header.Slots
import Seismogram.Proofs.Trace.Encoding

namespace Seismogram

open Seismogram.Number Seismogram.Outcome

/-! ### Words that a file holds -/

namespace ByteOrder

/-- Where the byte of weight `256 ^ k` of the word at an offset stands. -/
def place : ByteOrder → ℕ → ℕ → ℕ
  | little, offset, k => offset + k
  | big, offset, k => offset + (3 - k)

/-- The four bytes of a word stand in a file from an offset on. -/
def HoldsWord (o : ByteOrder) (data : List UInt8) (offset : ℕ) (w : BitVec 32) : Prop :=
  ∀ k < 4, data[o.place offset k]? = some (.ofNat (w.toNat / 256 ^ k))

variable {o : ByteOrder} {data rest : List UInt8} {offset : ℕ} {w v : BitVec 32}

/-- A word is held where its bytes begin. -/
lemma holdsWord_of_drop (h : data.drop offset = o.bytes w ++ rest) : o.HoldsWord data offset w := by
  have hbyte (j : ℕ) : data[offset + j]? = (o.bytes w ++ rest)[j]? := by
    rw [← h, List.getElem?_drop]
  intro k hk
  cases o <;> rw [place, hbyte] <;> interval_cases k <;> simp [bytes, littleBytes]

lemma HoldsWord.le_length (h : o.HoldsWord data offset w) : offset + 4 ≤ data.length := by
  have hleast := (List.getElem?_eq_some_iff.1 (h 0 (by decide))).1
  have hmost := (List.getElem?_eq_some_iff.1 (h 3 (by decide))).1
  cases o <;> simp only [place] at hleast hmost <;> omega

/-- A file holds no two words at one place. -/
lemma HoldsWord.unique (hw : o.HoldsWord data offset w) (hv : o.HoldsWord data offset v) :
    w = v := by
  have hbyte (k : ℕ) (hk : k < 4) : w.toNat / 256 ^ k % 256 = v.toNat / 256 ^ k % 256 := by
    have heq := congrArg UInt8.toNat (Option.some.inj ((hw k hk).symm.trans (hv k hk)))
    rwa [UInt8.toNat_ofNat', UInt8.toNat_ofNat'] at heq
  have hzero := hbyte 0 (by decide)
  have hone := hbyte 1 (by decide)
  have htwo := hbyte 2 (by decide)
  have hthree := hbyte 3 (by decide)
  have hwlt := w.isLt
  have hvlt := v.isLt
  apply BitVec.eq_of_toNat_eq
  omega

lemma drop_eq_bytes_append (h : offset + 4 ≤ data.length) :
    data.drop offset = o.bytes (o.wordAt data offset) ++ (data.drop offset).drop 4 := by
  rw [o.bytes_wordAt h, List.take_append_drop]

/-- The word that is read at an offset is the one that is held there. -/
lemma holdsWord_iff :
    o.HoldsWord data offset w ↔ offset + 4 ≤ data.length ∧ o.wordAt data offset = w := by
  constructor
  · intro h
    have hread := holdsWord_of_drop (drop_eq_bytes_append (o := o) h.le_length)
    exact ⟨h.le_length, hread.unique h⟩
  · rintro ⟨hlen, rfl⟩
    exact holdsWord_of_drop (drop_eq_bytes_append hlen)

lemma holdsWord_iff_drop :
    o.HoldsWord data offset w ↔ ∃ rest, data.drop offset = o.bytes w ++ rest := by
  constructor
  · rw [holdsWord_iff]
    rintro ⟨hlen, rfl⟩
    exact ⟨_, drop_eq_bytes_append hlen⟩
  · rintro ⟨rest, h⟩
    exact holdsWord_of_drop h

/-- Consecutive words are held where the bytes of all of them begin. -/
lemma forall_holdsWord_iff {ws : List (BitVec 32)} :
    (∀ i w, ws[i]? = some w → o.HoldsWord data (offset + 4 * i) w) ↔
      ∃ rest, data.drop offset = o.allBytes ws ++ rest := by
  induction ws generalizing offset with
  | nil => simp [allBytes]
  | cons w ws ih =>
      have hsplit : (∀ i v, (w :: ws)[i]? = some v → o.HoldsWord data (offset + 4 * i) v) ↔
          o.HoldsWord data offset w ∧
            ∀ i v, ws[i]? = some v → o.HoldsWord data (offset + 4 + 4 * i) v := by
        constructor
        · intro h
          refine ⟨h 0 w rfl, fun i v hv => ?_⟩
          have hlater := h (i + 1) v (by simpa using hv)
          rwa [Nat.mul_succ, Nat.add_comm (4 * i), ← Nat.add_assoc] at hlater
        · rintro ⟨hfirst, hlater⟩ i v hv
          cases i with
          | zero =>
              obtain rfl : w = v := by simpa using hv
              exact hfirst
          | succ i =>
              rw [Nat.mul_succ, Nat.add_comm (4 * i), ← Nat.add_assoc]
              exact hlater i v (by simpa using hv)
      rw [hsplit, holdsWord_iff_drop, ih, ← List.drop_drop]
      constructor
      · rintro ⟨⟨rest, hrest⟩, later, hlater⟩
        rw [hrest, List.drop_left' (length_bytes o w)] at hlater
        exact ⟨later, by rw [hrest, hlater, allBytes_cons, List.append_assoc]⟩
      · rintro ⟨later, hlater⟩
        rw [allBytes_cons, List.append_assoc] at hlater
        exact ⟨⟨_, hlater⟩, later, by rw [hlater, List.drop_left' (length_bytes o w)]⟩

end ByteOrder

/-! ### Files of the format -/

section Format

variable (data : List UInt8) (asked : Option ByteOrder) (exact : Bool)

/-- A file that is long enough for a header and has an order: the one that is asked for, if any
is, and one in which its version is 6. -/
structure HasOrder (o : ByteOrder) : Prop where
  header : 632 ≤ data.length
  asked : asked = none ∨ asked = some o
  version : o.HoldsWord data 304 6

/-- The number of samples that a file promises: none if that is null. -/
def PromisesSamples (o : ByteOrder) (n : ℕ) : Prop :=
  (o.HoldsWord data 316 nullInteger.toBitVec ∧ n = 0) ∨
    ∃ npts : Int32, o.HoldsWord data 316 npts.toBitVec ∧ npts.toInt = n

/-- A binary file in an order, with as many samples as it promises. -/
structure IsBinaryFile (o : ByteOrder) (n : ℕ) : Prop extends HasOrder data asked o where
  promised : PromisesSamples data o n
  samples : 632 + 4 * n ≤ data.length
  size : exact = true → data.length = 632 + 4 * n

/-- What is wrong with a file that is not one of the format.  Each fault supposes that there is
none of those before it. -/
inductive BinaryFault : Error → Prop
  | header (hshort : data.length < 632) : BinaryFault (.tooShort 632 data.length)
  | version (hheader : 632 ≤ data.length)
      (hversion : ∀ o, asked = none ∨ asked = some o → ¬o.HoldsWord data 304 6) :
      BinaryFault (.invalidByteOrder asked)
  | promised {o : ByteOrder} {npts : Int32} (horder : HasOrder data asked o)
      (hnpts : o.HoldsWord data 316 npts.toBitVec) (hset : npts ≠ nullInteger)
      (hnegative : npts.toInt < 0) : BinaryFault (.invalidSampleCount npts)
  | samples {o : ByteOrder} {n : ℕ} (horder : HasOrder data asked o)
      (hpromised : PromisesSamples data o n) (hshort : data.length < 632 + 4 * n) :
      BinaryFault (.tooShort (632 + 4 * n) data.length)
  | size {o : ByteOrder} {n : ℕ} (horder : HasOrder data asked o)
      (hpromised : PromisesSamples data o n) (hlong : 632 + 4 * n < data.length)
      (hexact : exact = true) : BinaryFault (.sizeMismatch (632 + 4 * n) data.length)

/-- A file holds every word and every text byte of a header, each at its offset. -/
structure HoldsHeader (o : ByteOrder) (h : Header) : Prop where
  reals : ∀ slot : Fin 70, o.HoldsWord data (4 * slot.val) (h.storedReal slot).bits
  integers : ∀ slot : Fin 40,
    o.HoldsWord data (280 + 4 * slot.val) (h.storedInteger slot).toBitVec
  text : ∀ i < 192, data[440 + i]? = h.text[i]?

/-- A file holds samples one after the other from the end of the header on. -/
def HoldsSamples (o : ByteOrder) (samples : List Single) : Prop :=
  ∀ i x, samples[i]? = some x → o.HoldsWord data (632 + 4 * i) x.bits

/-- A file holds a trace of `n` samples, in the order of the trace. -/
structure HoldsTrace (n : ℕ) (t : Trace) : Prop where
  header : HoldsHeader data t.order t.header
  samples : ∃ samples, t.samples = some samples ∧ samples.length = n ∧
    HoldsSamples data t.order samples

end Format

/-! ### What the reader finds -/

section Reading

variable {data : List UInt8} {asked : Option ByteOrder} {exact : Bool} {o : ByteOrder} {h : Header}

lemma isValidOrder_iff_holdsWord :
    Binary.isValidOrder data o = true ↔ o.HoldsWord data 304 6 := by
  have hsix (w : BitVec 32) : Binary.integerOfWord w = 6 ↔ w = 6 :=
    ⟨fun h => congrArg Int32.toBitVec h, fun h => h ▸ rfl⟩
  have hoffset : Binary.versionOffset = 304 := rfl
  simp [Binary.isValidOrder, validVersions, ByteOrder.holdsWord_iff, hsix, hoffset]

/-- A file has at most one order. -/
lemma not_holdsWord_version_both :
    ¬(ByteOrder.little.HoldsWord data 304 6 ∧ ByteOrder.big.HoldsWord data 304 6) := by
  rintro ⟨hlittle, hbig⟩
  rw [← isValidOrder_iff_holdsWord] at hlittle hbig
  exact absurd (Binary.eq_of_isValidOrder .little hlittle hbig) (by decide)

lemma decodeHeader_eq_ok_iff_hasOrder :
    Binary.decodeHeader data asked = .ok (h, o) ↔
      HasOrder data asked o ∧ h = Binary.readHeader o data := by
  rw [Binary.decodeHeader_eq_ok_iff, isValidOrder_iff_holdsWord, Binary.headerSize_eq]
  constructor
  · rintro ⟨hlen, hversion, hasked, heq⟩
    exact ⟨⟨hlen, hasked, hversion⟩, heq⟩
  · rintro ⟨⟨hlen, hasked, hversion⟩, heq⟩
    exact ⟨hlen, hversion, hasked, heq⟩

/-- A file holds no two headers. -/
lemma HoldsHeader.unique {k : Header} (hh : HoldsHeader data o h) (hk : HoldsHeader data o k) :
    h = k := by
  refine Header.ext_slots (fun slot => ?_) (fun slot => ?_) ?_
  · have hbits : (h.storedReal slot).bits = (k.storedReal slot).bits :=
      (hh.reals slot).unique (hk.reals slot)
    exact congrArg Floating.mk hbits
  · exact Int32.toBitVec_inj.1 ((hh.integers slot).unique (hk.integers slot))
  · refine Vector.ext fun i hi => ?_
    have hsame : h.text[i]? = k.text[i]? := (hh.text i hi).symm.trans (hk.text i hi)
    rwa [Vector.getElem?_eq_getElem hi, Vector.getElem?_eq_getElem hi, Option.some.injEq] at hsame

/-- The header that is read is the one that the file holds. -/
lemma holdsHeader_readHeader (hlen : 632 ≤ data.length) :
    HoldsHeader data o (Binary.readHeader o data) := by
  obtain ⟨hr, hi, -⟩ := Binary.sizes_eq
  refine ⟨fun slot => ?_, fun slot => ?_, fun i hbyte => ?_⟩
  · have hslot := slot.isLt
    refine ByteOrder.holdsWord_iff.2 ⟨by omega, ?_⟩
    simp [Binary.readHeader, Header.storedReal]
  · have hslot := slot.isLt
    refine ByteOrder.holdsWord_iff.2 ⟨by omega, ?_⟩
    simp [Binary.readHeader, Header.storedInteger, Binary.integerOfWord, hr]
  · simp only [Binary.readHeader, hr, hi, Vector.getElem?_ofFn, dif_pos hbyte,
      List.getD_eq_getElem?_getD]
    rw [List.getElem?_eq_getElem (by omega), Option.getD_some]

lemma HoldsHeader.holdsWord_npts (hh : HoldsHeader data o h) {npts : Int32} :
    o.HoldsWord data 316 npts.toBitVec ↔ h.storedInteger Header.countSlot = npts := by
  have hcount : o.HoldsWord data 316 (h.storedInteger Header.countSlot).toBitVec :=
    hh.integers Header.countSlot
  constructor
  · intro hnpts
    exact Int32.toBitVec_inj.1 (hcount.unique hnpts)
  · rintro rfl
    exact hcount

lemma HoldsHeader.sampleCount_eq_ok_iff (hh : HoldsHeader data o h) {n : ℕ} :
    h.sampleCount = .ok n ↔ PromisesSamples data o n := by
  rw [Header.sampleCount_eq_ok_iff_stored, PromisesSamples]
  simp only [hh.holdsWord_npts, exists_eq_left']

lemma Header.sampleCount_of_negative {npts : Int32} (hnpts : h.integer? countSlot = some npts)
    (hnegative : npts.toInt < 0) : h.sampleCount = .error (.invalidSampleCount npts) := by
  have hlt : npts < 0 := Int32.lt_iff_toInt_lt.2 hnegative
  rw [sampleCount, hnpts]
  exact if_pos hlt

lemma holdsSamples_iff {samples : List Single} :
    HoldsSamples data o samples ↔
      ∃ rest, data.drop 632 = Binary.encodeSamples o samples ++ rest := by
  rw [Binary.encodeSamples, ← ByteOrder.forall_holdsWord_iff]
  simp [HoldsSamples]

end Reading

/-! ### Files that are read and files that are refused -/

namespace Trace

variable {data : List UInt8} {asked : Option ByteOrder} {exact : Bool} {o : ByteOrder} {n : ℕ}
  {t : Trace} {e : Error}

/-- In a file that has an order nothing can fail but the samples. -/
lemma ofBytes_of_hasOrder (ho : HasOrder data asked o) :
    ofBytes data { order := asked, exactSize := exact } =
      (binarySamples data (Binary.readHeader o data) o exact >>= fun samples =>
        .ok ⟨Binary.readHeader o data, some samples, o⟩) := by
  have hheader := decodeHeader_eq_ok_iff_hasOrder.2 ⟨ho, rfl⟩
  simp [ofBytes, hheader]

lemma binarySamples_of_promised (ho : HasOrder data asked o) (hn : PromisesSamples data o n) :
    binarySamples data (Binary.readHeader o data) o exact =
      if data.length < Binary.headerSize + 4 * n then
        .error (.tooShort (Binary.headerSize + 4 * n) data.length)
      else if exact = true ∧ Binary.headerSize + 4 * n < data.length then
        .error (.sizeMismatch (Binary.headerSize + 4 * n) data.length)
      else Binary.decodeSamples o n (data.drop Binary.headerSize) := by
  have hcount := (holdsHeader_readHeader ho.header).sampleCount_eq_ok_iff.2 hn
  by_cases hshort : data.length < Binary.headerSize + 4 * n
  · simp only [binarySamples, hcount, ok_bind, Binary.checkLength_of_lt hshort, error_bind,
      if_pos hshort]
  · have hlong := Binary.checkLength_eq_ok_iff.2 (Nat.le_of_not_lt hshort)
    simp only [binarySamples, hcount, ok_bind, hlong, if_neg hshort, error_bind]

/-- The samples of a file of the format are there to be read. -/
lemma exists_binarySamples (hfile : IsBinaryFile data asked exact o n) :
    ∃ samples, binarySamples data (Binary.readHeader o data) o exact = .ok samples := by
  have hsamples := hfile.samples
  have hheader := Binary.headerSize_eq
  have hlen : 4 * n ≤ (data.drop Binary.headerSize).length := by
    rw [List.length_drop]
    omega
  rw [binarySamples_of_promised hfile.toHasOrder hfile.promised, if_neg (by omega), if_neg]
  · exact ⟨_, Binary.checkLength_bind_eq_ok_iff.2 ⟨hlen, rfl⟩⟩
  · rintro ⟨hx, hlong⟩
    have hsize := hfile.size hx
    omega

lemma exists_ofBytes (hfile : IsBinaryFile data asked exact o n) :
    ∃ t, ofBytes data { order := asked, exactSize := exact } = .ok t := by
  obtain ⟨samples, hsamples⟩ := exists_binarySamples hfile
  exact ⟨_, by rw [ofBytes_of_hasOrder hfile.toHasOrder, hsamples, ok_bind]⟩

/-- What is read is a file of the format with the trace that it holds. -/
lemma ofBytes_eq_ok_iff_holdsTrace :
    ofBytes data { order := asked, exactSize := exact } = .ok t ↔
      ∃ n, IsBinaryFile data asked exact t.order n ∧ HoldsTrace data n t := by
  simp only [ofBytes, Bool.false_eq_true, if_false, bind_eq_ok_iff, Prod.exists, Except.ok.injEq,
    decodeHeader_eq_ok_iff_hasOrder]
  constructor
  · rintro ⟨h, o, ⟨ho, rfl⟩, samples, hread, rfl⟩
    have hlen := ho.header
    have hheader : HoldsHeader data o (Binary.readHeader o data) := holdsHeader_readHeader hlen
    obtain ⟨hcount, rest, hrest, hexact⟩ := (binarySamples_eq_ok_iff hlen).1 hread
    have hsize := congrArg List.length hrest
    rw [List.length_drop, List.length_append, Binary.length_encodeSamples,
      Binary.headerSize_eq] at hsize
    refine ⟨samples.length, ⟨ho, hheader.sampleCount_eq_ok_iff.1 hcount, ?_, ?_⟩, hheader, samples,
      rfl, rfl, holdsSamples_iff.2 ⟨rest, hrest⟩⟩
    · omega
    · intro hx
      rw [hexact hx, List.length_nil] at hsize
      omega
  · rintro ⟨n, hfile, hheader, samples, hsamples, rfl, hheld⟩
    have hheq := hheader.unique (holdsHeader_readHeader hfile.header)
    obtain ⟨rest, hrest⟩ := holdsSamples_iff.1 hheld
    refine ⟨t.header, t.order, ⟨hfile.toHasOrder, hheq⟩, samples, ?_, ?_⟩
    · refine (binarySamples_eq_ok_iff hfile.header).2 ⟨?_, rest, hrest, fun hx => ?_⟩
      · exact hheader.sampleCount_eq_ok_iff.2 hfile.promised
      · have hsize := congrArg List.length hrest
        rw [List.length_drop, List.length_append, Binary.length_encodeSamples] at hsize
        have hexact := hfile.size hx
        exact List.eq_nil_of_length_eq_zero (by omega)
    · rw [← hsamples]

lemma ofBytes_of_binaryFault (hfault : BinaryFault data asked exact e) :
    ofBytes data { order := asked, exactSize := exact } = .error e := by
  cases hfault with
  | header hshort =>
      simp [ofBytes, Binary.decodeHeader, Binary.headerSize_eq, Binary.checkLength_of_lt hshort]
  | version hheader hversion =>
      have hlen := Binary.checkLength_eq_ok_iff.2 hheader
      simp only [← isValidOrder_iff_holdsWord, Bool.not_eq_true] at hversion
      cases asked with
      | none =>
          simp [ofBytes, Binary.decodeHeader, Binary.detectOrder, Binary.headerSize_eq, hlen,
            hversion]
      | some p => simp [ofBytes, Binary.decodeHeader, Binary.headerSize_eq, hlen, hversion]
  | promised ho hnpts hset hnegative =>
      have hstored := (holdsHeader_readHeader ho.header).holdsWord_npts.1 hnpts
      have hcount := Header.sampleCount_of_negative
        (Header.integer?_eq_some_iff.2 ⟨hset, hstored⟩) hnegative
      rw [ofBytes_of_hasOrder ho, binarySamples, hcount, error_bind, error_bind]
  | samples ho hn hshort =>
      rw [← Binary.headerSize_eq] at hshort ⊢
      rw [ofBytes_of_hasOrder ho, binarySamples_of_promised ho hn, if_pos hshort, error_bind]
  | size ho hn hlong hexact =>
      rw [← Binary.headerSize_eq] at hlong ⊢
      rw [ofBytes_of_hasOrder ho, binarySamples_of_promised ho hn, if_neg (by omega),
        if_pos ⟨hexact, hlong⟩, error_bind]

/-- A file that promises a number of samples promises one that can be or one that cannot. -/
lemma exists_promised (ho : HasOrder data asked o) :
    (∃ n, PromisesSamples data o n) ∨
      ∃ npts : Int32, o.HoldsWord data 316 npts.toBitVec ∧ npts ≠ nullInteger ∧ npts.toInt < 0 := by
  have hheader : HoldsHeader data o (Binary.readHeader o data) := holdsHeader_readHeader ho.header
  obtain ⟨npts, hnpts⟩ : ∃ npts : Int32, o.HoldsWord data 316 npts.toBitVec :=
    ⟨_, hheader.integers Header.countSlot⟩
  by_cases hnull : npts = nullInteger
  · exact Or.inl ⟨0, Or.inl ⟨hnull ▸ hnpts, rfl⟩⟩
  · rcases Int.lt_or_le npts.toInt 0 with hneg | hpos
    · exact Or.inr ⟨npts, hnpts, hnull, hneg⟩
    · exact Or.inl ⟨npts.toInt.toNat, Or.inr ⟨npts, hnpts, (Int.toNat_of_nonneg hpos).symm⟩⟩

/-- A file is of the format or has a fault. -/
lemma isBinaryFile_or_binaryFault (data : List UInt8) (asked : Option ByteOrder) (exact : Bool) :
    (∃ o n, IsBinaryFile data asked exact o n) ∨ ∃ e, BinaryFault data asked exact e := by
  by_cases hheader : data.length < 632
  · exact Or.inr ⟨_, .header hheader⟩
  by_cases hversion : ∃ o, (asked = none ∨ asked = some o) ∧ o.HoldsWord data 304 6
  · obtain ⟨o, hasked, hsix⟩ := hversion
    have ho : HasOrder data asked o := ⟨Nat.le_of_not_lt hheader, hasked, hsix⟩
    rcases exists_promised ho with ⟨n, hn⟩ | ⟨npts, hnpts, hset, hnegative⟩
    · rcases Nat.lt_or_ge data.length (632 + 4 * n) with hshort | hlong
      · exact Or.inr ⟨_, .samples ho hn hshort⟩
      · by_cases hsize : exact = true ∧ 632 + 4 * n < data.length
        · exact Or.inr ⟨_, .size ho hn hsize.2 hsize.1⟩
        · exact Or.inl ⟨o, n, ho, hn, hlong, fun hx => by
            have := not_and.1 hsize hx
            omega⟩
    · exact Or.inr ⟨_, .promised ho hnpts hset hnegative⟩
  · refine Or.inr ⟨_, .version (Nat.le_of_not_lt hheader) fun o hasked hsix => ?_⟩
    exact hversion ⟨o, hasked, hsix⟩

lemma ofBytes_eq_error_iff_binaryFault :
    ofBytes data { order := asked, exactSize := exact } = .error e ↔
      BinaryFault data asked exact e := by
  constructor
  · intro herror
    rcases isBinaryFile_or_binaryFault data asked exact with ⟨o, n, hfile⟩ | ⟨e', hfault⟩
    · obtain ⟨t, hread⟩ := exists_ofBytes hfile
      exact absurd (hread.symm.trans herror) (by simp)
    · obtain rfl : e' = e := Except.error.inj ((ofBytes_of_binaryFault hfault).symm.trans herror)
      exact hfault
  · exact ofBytes_of_binaryFault

/-- A file is read if and only if it is one of the format, and then as the trace that it holds:
every word and every text byte of it is there.  Otherwise the first fault is the error.  A version
is valid in one order at most, and bytes after the samples change nothing. -/
theorem ofBytes_binaryFormat (data : List UInt8) (asked : Option ByteOrder) (exact : Bool) :
    ¬(ByteOrder.little.HoldsWord data 304 6 ∧ ByteOrder.big.HoldsWord data 304 6) ∧
    ((∃ t, ofBytes data { order := asked, exactSize := exact } = .ok t) ↔
      ∃ o n, IsBinaryFile data asked exact o n) ∧
    (∀ t, ofBytes data { order := asked, exactSize := exact } = .ok t ↔
      ∃ n, IsBinaryFile data asked exact t.order n ∧ HoldsTrace data n t) ∧
    (∀ e, ofBytes data { order := asked, exactSize := exact } = .error e ↔
      BinaryFault data asked exact e) ∧
    ∀ t rest, ofBytes data { order := asked } = .ok t →
      ofBytes (data ++ rest) { order := asked } = .ok t := by
  refine ⟨not_holdsWord_version_both, ⟨?_, ?_⟩, fun t => ofBytes_eq_ok_iff_holdsTrace,
    fun e => ofBytes_eq_error_iff_binaryFault, ?_⟩
  · rintro ⟨t, hread⟩
    obtain ⟨n, hfile, -⟩ := ofBytes_eq_ok_iff_holdsTrace.1 hread
    exact ⟨t.order, n, hfile⟩
  · rintro ⟨o, n, hfile⟩
    exact exists_ofBytes hfile
  · intro t rest hread
    obtain ⟨hstorable, hasked, more, rfl, -⟩ := ofBytes_eq_ok_iff.1 hread
    refine ofBytes_eq_ok_iff.2 ⟨hstorable, hasked, more ++ rest, List.append_assoc _ _ _, ?_⟩
    simp

theorem ofBytes_binaryFormat_oneSample :
    ofBytes (oneSample.encode {}) {} = .ok oneSample ∧
      (∃ n, IsBinaryFile (oneSample.encode {}) none false .little n) ∧
      ofBytes (oneSample.encode {} ++ [0]) {} = .ok oneSample := by
  obtain ⟨-, -, hread, -, hlonger⟩ := ofBytes_binaryFormat (oneSample.encode {}) none false
  have hone : ofBytes (oneSample.encode {}) {} = .ok oneSample :=
    ofBytes_encode storable_oneSample false (Or.inl rfl)
  obtain ⟨n, hfile, -⟩ := (hread oneSample).1 hone
  exact ⟨hone, ⟨n, hfile⟩, hlonger oneSample [0] hone⟩

end Trace

end Seismogram
