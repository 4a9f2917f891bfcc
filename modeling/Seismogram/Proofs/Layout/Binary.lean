/-
# The binary header, read and written

A header record and a header say the same: `encodeHeader_readHeader` and
`readHeader_encodeHeader` take either to the other and back, bit for bit.  The version word
fixes the order of a record, since no version is valid in both orders, and so
`decodeHeader_eq_ok_iff` can say of every record which order and header are read from it.
-/
import Mathlib.Tactic.Common
import Seismogram.Layout.Binary
import Seismogram.Proofs.Layout.Words
import Seismogram.Proofs.Outcome

namespace Seismogram.Binary

open Seismogram.Number Seismogram.Outcome

variable (o : ByteOrder) (h : Header) {data : List UInt8}

lemma sizes_eq : realBlockSize = 280 ∧ integerBlockSize = 160 ∧ textBlockSize = 192 := by
  decide

lemma headerSize_eq : headerSize = 632 := rfl

/-! ### Written and read back -/

/-- A header is read back from its record, whatever follows. -/
lemma readHeader_encodeHeader (rest : List UInt8) :
    readHeader o (encodeHeader o h ++ rest) = h := by
  obtain ⟨hr, hi, -⟩ := sizes_eq
  obtain ⟨reals, integers, text⟩ := h
  have hreals : (o.allBytes (reals.toList.map Floating.bits)).length = 280 := by simp
  have hintegers : (o.allBytes (integers.toList.map Int32.toBitVec)).length = 160 := by simp
  simp only [readHeader, encodeHeader, Header.mk.injEq]
  refine ⟨?_, ?_, ?_⟩
  · ext i hlt
    have hw := o.wordAt_allBytes [] (o.allBytes (integers.toList.map Int32.toBitVec)
      ++ (text.toList ++ rest)) (reals.toList.map Floating.bits) (i := i) (by simpa using hlt)
    simp only [List.nil_append, List.length_nil, Nat.zero_add, List.getElem_map,
      Vector.getElem_toList] at hw
    simp only [Vector.getElem_ofFn, List.append_assoc, hw]
  · ext i hlt
    have hw := o.wordAt_allBytes (o.allBytes (reals.toList.map Floating.bits))
      (text.toList ++ rest) (integers.toList.map Int32.toBitVec) (i := i) (by simpa using hlt)
    simp only [hreals, List.getElem_map, Vector.getElem_toList] at hw
    simp only [Vector.getElem_ofFn, List.append_assoc, hr, hw, integerOfWord, Int32.ofBitVec_toBitVec]
  · ext i hlt
    rw [Vector.getElem_ofFn, hr, hi, List.getD_eq_getElem?_getD, List.append_assoc,
      List.getElem?_append_right (by simp)]
    simp [hreals, hintegers, List.getElem?_append_left, hlt]

lemma allBytes_reals_readHeader (hlen : headerSize ≤ data.length) :
    o.allBytes ((readHeader o data).reals.toList.map Floating.bits) = data.take 280 := by
  have hlong : 0 + 4 * 70 ≤ data.length := Nat.le_trans (by decide) hlen
  have hb := o.allBytes_wordAt 0 70 hlong
  simp only [Nat.zero_add, List.drop_zero] at hb
  rw [← hb, readHeader, Vector.toList_ofFn, List.map_ofFn]
  rfl

lemma allBytes_integers_readHeader (hlen : headerSize ≤ data.length) :
    o.allBytes ((readHeader o data).integers.toList.map Int32.toBitVec)
      = (data.drop 280).take 160 := by
  have hlong : 280 + 4 * 40 ≤ data.length := Nat.le_trans (by decide) hlen
  have hb := o.allBytes_wordAt 280 40 hlong
  rw [← hb, readHeader, Vector.toList_ofFn, List.map_ofFn]
  rfl

lemma toList_text_readHeader (hlen : headerSize ≤ data.length) :
    (readHeader o data).text.toList = (data.drop 440).take 192 := by
  rw [headerSize_eq] at hlen
  obtain ⟨hr, hi, -⟩ := sizes_eq
  apply List.ext_getElem
  · simp
    omega
  · intro i hlt hlt'
    simp only [readHeader, Vector.getElem_toList, Vector.getElem_ofFn, hr, hi, List.getElem_take,
      List.getElem_drop]
    rw [Vector.length_toList] at hlt
    rw [List.getD_eq_getElem?_getD, List.getElem?_eq_getElem (by omega), Option.getD_some]

/-- The record of a header that was read is the record that it was read from. -/
lemma encodeHeader_readHeader (hlen : headerSize ≤ data.length) :
    encodeHeader o (readHeader o data) = data.take headerSize := by
  rw [encodeHeader, allBytes_reals_readHeader o hlen, allBytes_integers_readHeader o hlen,
    toList_text_readHeader o hlen]
  rw [show 440 = 280 + 160 from rfl, ← List.take_add, ← List.take_add]
  rfl

lemma readHeader_take : readHeader o (data.take headerSize) = readHeader o data := by
  obtain ⟨hr, hi, -⟩ := sizes_eq
  simp only [readHeader, Header.mk.injEq, hr, hi, headerSize_eq]
  refine ⟨?_, ?_, ?_⟩
  · ext i hlt
    simp only [Vector.getElem_ofFn]
    rw [o.wordAt_take (by omega)]
  · ext i hlt
    simp only [Vector.getElem_ofFn]
    rw [o.wordAt_take (by omega)]
  · ext i hlt
    simp only [Vector.getElem_ofFn, List.getD_eq_getElem?_getD]
    rw [List.getElem?_take_of_lt (by omega)]

/-! ### The version and the order -/

lemma isValidOrder_iff (hlen : headerSize ≤ data.length) :
    isValidOrder data o = true ↔ (readHeader o data).storedInteger Header.versionSlot = 6 := by
  have hword : (readHeader o data).storedInteger Header.versionSlot
      = integerOfWord (o.wordAt data versionOffset) := by
    simp [Header.storedInteger, readHeader, versionOffset]
  have hlong : versionOffset + 4 ≤ data.length := Nat.le_trans (by decide) hlen
  rw [hword, isValidOrder, decide_eq_true hlong, Bool.true_and, validVersions]
  simp

/-- No version is valid in both orders. -/
lemma isValidOrder_other (hvalid : isValidOrder data o = true) :
    isValidOrder data o.other = false := by
  simp only [isValidOrder, validVersions, Bool.and_eq_true, decide_eq_true_eq,
    List.contains_cons, List.contains_nil, Bool.or_false, beq_iff_eq] at hvalid ⊢
  obtain ⟨hlong, hsix⟩ := hvalid
  obtain ⟨a, b, c, d, rest, hd⟩ := ByteOrder.exists_drop_eq hlong
  have hword : o.word a b c d = 6 := by
    rw [← o.wordAt_of_drop hd]
    exact congrArg Int32.toBitVec hsix
  have hbytes : [a, b, c, d] = o.bytes 6 := by
    rw [← hword, ByteOrder.bytes_word]
  have hother : integerOfWord (o.other.word a b c d) ≠ 6 := by
    cases o <;>
    · simp only [ByteOrder.bytes, ByteOrder.littleBytes, List.reverse_cons, List.reverse_nil,
        List.nil_append, List.cons_append, List.cons.injEq, and_true] at hbytes
      obtain ⟨rfl, rfl, rfl, rfl⟩ := hbytes
      decide
  rw [o.other.wordAt_of_drop hd]
  simpa [hlong] using hother

lemma eq_of_isValidOrder {p : ByteOrder} (ho : isValidOrder data o = true)
    (hp : isValidOrder data p = true) : p = o := by
  rcases o.eq_or_eq_other p with rfl | rfl
  · rfl
  · rw [isValidOrder_other o ho] at hp
    exact absurd hp (by decide)

lemma isValidOrder_take : isValidOrder (data.take headerSize) o = isValidOrder data o := by
  have hlong : versionOffset + 4 ≤ headerSize := by decide
  rw [isValidOrder, isValidOrder, o.wordAt_take hlong]
  congr 2
  rw [List.length_take, Nat.le_min]
  simp [hlong]

/-! ### Records as they are decoded -/

lemma checkLength_eq_ok_iff {n : Nat} : checkLength data n = .ok () ↔ n ≤ data.length := by
  unfold checkLength
  split
  · rename_i hlt
    simp only [reduceCtorEq, false_iff]
    omega
  · rename_i hle
    simp only [true_iff]
    omega

lemma checkLength_of_lt {n : Nat} (hshort : data.length < n) :
    checkLength data n = .error (.tooShort n data.length) := by
  rw [checkLength, if_pos hshort]

lemma checkLength_bind_eq_ok_iff {α : Type} {f : Unit → Except Error α} {n : Nat} {a : α} :
    (checkLength data n >>= f) = .ok a ↔ n ≤ data.length ∧ f () = .ok a := by
  rw [bind_eq_ok_iff, ← checkLength_eq_ok_iff]
  exact ⟨fun ⟨_, hcheck, hf⟩ => ⟨hcheck, hf⟩, fun ⟨hcheck, hf⟩ => ⟨(), hcheck, hf⟩⟩

/-- The order that is found out is the one in which the version is valid. -/
lemma detectOrder_eq_ok_iff :
    detectOrder data = .ok o ↔ headerSize ≤ data.length ∧ isValidOrder data o = true := by
  by_cases hlen : headerSize ≤ data.length
  · have hother : isValidOrder data .big = true → isValidOrder data .little = false :=
      isValidOrder_other .big
    simp only [detectOrder, checkLength_eq_ok_iff.2 hlen, hlen, true_and, ok_bind]
    cases o <;> grind [ByteOrder.other]
  · simp [detectOrder, checkLength_of_lt (Nat.lt_of_not_le hlen), hlen]

/-- What is read from a record: the header in the one order in which the version is valid,
unless the other order is asked for. -/
lemma decodeHeader_eq_ok_iff {asked : Option ByteOrder} {h : Header} :
    decodeHeader data asked = .ok (h, o) ↔
      headerSize ≤ data.length ∧ isValidOrder data o = true ∧
        (asked = none ∨ asked = some o) ∧ h = readHeader o data := by
  by_cases hlen : headerSize ≤ data.length
  · cases asked with
    | none =>
        simp only [decodeHeader, checkLength_eq_ok_iff.2 hlen, ok_bind, bind_eq_ok_iff,
          detectOrder_eq_ok_iff, Except.ok.injEq, Prod.mk.injEq, hlen, true_and, true_or]
        constructor
        · rintro ⟨p, hp, rfl, rfl⟩
          exact ⟨hp, rfl⟩
        · rintro ⟨hp, rfl⟩
          exact ⟨o, hp, rfl, rfl⟩
    | some p =>
        simp only [decodeHeader, checkLength_eq_ok_iff.2 hlen, ok_bind, hlen, true_and,
          reduceCtorEq, Option.some.injEq, false_or]
        by_cases hp : isValidOrder data p = true
        · simp only [hp, if_true, Except.ok.injEq, Prod.mk.injEq]
          constructor
          · rintro ⟨rfl, rfl⟩
            exact ⟨hp, rfl, rfl⟩
          · rintro ⟨-, rfl, rfl⟩
            exact ⟨rfl, rfl⟩
        · simp only [hp, if_false, error_bind, reduceCtorEq, false_iff]
          rintro ⟨ho, rfl, -⟩
          exact hp ho
  · simp [decodeHeader, checkLength_of_lt (Nat.lt_of_not_le hlen), hlen]

/-- Nothing after the record has a part in how it is decoded. -/
lemma decodeHeader_take {asked : Option ByteOrder} :
    decodeHeader (data.take headerSize) asked = decodeHeader data asked := by
  rcases Nat.lt_or_ge data.length headerSize with hshort | hlong
  · rw [List.take_of_length_le (Nat.le_of_lt hshort)]
  · have hcheck : checkLength (data.take headerSize) headerSize = checkLength data headerSize := by
      have hkept : headerSize ≤ (data.take headerSize).length := by
        rw [List.length_take]
        exact Nat.le_min.2 ⟨Nat.le_refl _, hlong⟩
      rw [checkLength_eq_ok_iff.2 hkept, checkLength_eq_ok_iff.2 hlong]
    simp only [decodeHeader, detectOrder, hcheck, isValidOrder_take, readHeader_take]

/-- A record whose version is valid in one order is refused in the other. -/
lemma decodeHeader_other (hlen : headerSize ≤ data.length) (hvalid : isValidOrder data o = true) :
    decodeHeader data (some o.other) = .error (.invalidByteOrder (some o.other)) := by
  simp [decodeHeader, checkLength_eq_ok_iff.2 hlen, isValidOrder_other o hvalid]

/-! ### Samples -/

/-- The samples that are read are those whose bytes come first. -/
lemma decodeSamples_eq_ok_iff {n : Nat} {samples : List Single} :
    decodeSamples o n data = .ok samples ↔
      samples.length = n ∧ ∃ rest, data = encodeSamples o samples ++ rest := by
  simp only [decodeSamples, checkLength_bind_eq_ok_iff, Except.ok.injEq]
  constructor
  · rintro ⟨hlen, hsamples⟩
    have hbytes : encodeSamples o samples = data.take (4 * n) := by
      rw [← hsamples, encodeSamples, List.map_map]
      simpa [Function.comp_def] using o.allBytes_words n hlen
    refine ⟨?_, data.drop (4 * n), ?_⟩
    · have hcount := congrArg List.length hbytes
      rw [length_encodeSamples, List.length_take, Nat.min_eq_left hlen] at hcount
      omega
    · rw [hbytes, List.take_append_drop]
  · rintro ⟨rfl, rest, rfl⟩
    have hlen := length_encodeSamples o samples
    refine ⟨by simp [hlen], ?_⟩
    rw [← hlen, List.take_left, encodeSamples, ByteOrder.words_allBytes, List.map_map]
    simp [Function.comp_def]

/-! ### Single bytes of a record -/

lemma getElem?_encodeHeader_real {slot : Fin 70} {i : Nat}
    (hi : ByteOrder.InWord (4 * slot.val) i) :
    (encodeHeader o h)[i]? = (o.bytes (h.storedReal slot).bits)[i % 4]? := by
  obtain ⟨hlow, hhigh⟩ := hi
  have hslot : i / 4 = slot.val := by omega
  have hblock : i < (o.allBytes (h.reals.toList.map Floating.bits)).length := by
    simp only [ByteOrder.length_allBytes, List.length_map, Vector.length_toList]
    omega
  rw [encodeHeader, List.append_assoc, List.getElem?_append_left hblock,
    ByteOrder.getElem?_allBytes, hslot]
  simp [Header.storedReal]

lemma getElem?_encodeHeader_integer {slot : Fin 40} {i : Nat}
    (hi : ByteOrder.InWord (realBlockSize + 4 * slot.val) i) :
    (encodeHeader o h)[i]? = (o.bytes (h.storedInteger slot).toBitVec)[(i - realBlockSize) % 4]? := by
  obtain ⟨hlow, hhigh⟩ := hi
  have hslot : (i - realBlockSize) / 4 = slot.val := by omega
  have hfront : (o.allBytes (h.reals.toList.map Floating.bits)).length = realBlockSize := by
    simp [realBlockSize, realSlots]
  have hblock : i - realBlockSize
      < (o.allBytes (h.integers.toList.map Int32.toBitVec)).length := by
    simp only [ByteOrder.length_allBytes, List.length_map, Vector.length_toList]
    omega
  rw [encodeHeader, List.append_assoc, List.getElem?_append_right (by omega), hfront,
    List.getElem?_append_left hblock, ByteOrder.getElem?_allBytes, hslot]
  simp [Header.storedInteger]

lemma getElem?_encodeHeader_text {i : Nat} (hi : realBlockSize + integerBlockSize ≤ i) :
    (encodeHeader o h)[i]? = h.text.toList[i - (realBlockSize + integerBlockSize)]? := by
  have hfront : (o.allBytes (h.reals.toList.map Floating.bits)
      ++ o.allBytes (h.integers.toList.map Int32.toBitVec)).length
      = realBlockSize + integerBlockSize := by
    simp [realBlockSize, realSlots, integerBlockSize, integerSlots]
  rw [encodeHeader, List.getElem?_append_right (by omega), hfront]

lemma lt_of_inWord {slot : Fin 70} {i : Nat} (hi : ByteOrder.InWord (4 * slot.val) i) :
    i < realBlockSize := by
  obtain ⟨hr, -, -⟩ := sizes_eq
  obtain ⟨-, hhigh⟩ := hi
  have hslot := slot.isLt
  omega

/-- A byte of a record depends on nothing but the word, or the text, that it lies in. -/
lemma getElem?_encodeHeader_congr {h k : Header} {i : Nat}
    (hreal : ∀ slot : Fin 70, ByteOrder.InWord (4 * slot.val) i → h.storedReal slot = k.storedReal slot)
    (hinteger : ∀ slot : Fin 40, ByteOrder.InWord (realBlockSize + 4 * slot.val) i →
      h.storedInteger slot = k.storedInteger slot)
    (htext : realBlockSize + integerBlockSize ≤ i → h.text = k.text) :
    (encodeHeader o h)[i]? = (encodeHeader o k)[i]? := by
  obtain ⟨hr, hb, -⟩ := sizes_eq
  by_cases hi : i < realBlockSize
  · obtain ⟨slot, hword⟩ : ∃ slot : Fin 70, ByteOrder.InWord (4 * slot.val) i :=
      ⟨⟨i / 4, by omega⟩, by constructor <;> dsimp only <;> omega⟩
    rw [getElem?_encodeHeader_real o h hword, getElem?_encodeHeader_real o k hword,
      hreal slot hword]
  · by_cases hj : i < realBlockSize + integerBlockSize
    · obtain ⟨slot, hword⟩ : ∃ slot : Fin 40, ByteOrder.InWord (realBlockSize + 4 * slot.val) i :=
        ⟨⟨(i - realBlockSize) / 4, by omega⟩, by constructor <;> dsimp only <;> omega⟩
      rw [getElem?_encodeHeader_integer o h hword, getElem?_encodeHeader_integer o k hword,
        hinteger slot hword]
    · have hafter : realBlockSize + integerBlockSize ≤ i := by omega
      rw [getElem?_encodeHeader_text o h hafter, getElem?_encodeHeader_text o k hafter,
        htext hafter]

end Seismogram.Binary
