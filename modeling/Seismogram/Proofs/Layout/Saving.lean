/-
# Saving a header as text and loading it

What a header and its samples become when they are written as text and read again:

* the file is read if and only if the integers are narrow, that is, no integer runs on from
  the one before it (`decode_encode_iff_narrow`);
* integers and text are then the same and real numbers are rounded twice
  (`decode_encode_resaved`);
* a second time nothing changes (`decode_encode_again`);
* a real number becomes null if and only if it is within half a hundredth of the sentinel
  (`real?_decode_encode_eq_none_iff`).
-/
import Seismogram.Proofs.Header.Sentinel
import Seismogram.Proofs.Layout.Alphanumeric

namespace Seismogram.Alphanumeric

open Seismogram.Number
open Seismogram.Decimal (Resaved resaved general columnDigits)

/-- What is read from a file that is read. -/
lemma decode_encode_of_narrow {h : Header} {s : List Single} (hfeed : lineFeed ∉ h.text.toList)
    (hnarrow : NarrowIntegers h) (hcount : h.sampleCount = .ok s.length) :
    decode (encode h (some s)) false = .ok (resavedHeader h, some (s.map resaved)) :=
  (decode_encode_eq_ok_iff hfeed).2 ⟨hnarrow, hcount, rfl, rfl⟩

/-! ### A header to look at -/

/-- A blank header that counts one sample, with a tenth as its sample interval. -/
def tenthHeader : Header :=
  (Header.blank.setInteger Header.countSlot (some 1)).setReal Header.deltaSlot (some ⟨0x3DCCCCCD⟩)

lemma lineFeed_notMem_tenthHeader : lineFeed ∉ tenthHeader.text.toList := by
  have htext : tenthHeader.text = Vector.replicate 192 blankByte := rfl
  rw [htext, Vector.toList_replicate]
  exact fun hmem => absurd (List.eq_of_mem_replicate hmem) (by decide)

lemma narrowIntegers_tenthHeader : NarrowIntegers tenthHeader := by decide +kernel

lemma sampleCount_tenthHeader : tenthHeader.sampleCount = .ok 1 := rfl

/-! ### The integers -/

/-- A counted header is read again if and only if its integers are narrow, and then with the
same integers. -/
theorem decode_encode_iff_narrow (h : Header) (samples : Option (List Single))
    (hfeed : lineFeed ∉ h.text.toList) (hcount : h.sampleCount = .ok (samples.getD []).length) :
    ((∃ r, decode (encode h samples) false = .ok r) ↔ NarrowIntegers h) ∧
      ∀ k read, decode (encode h samples) false = .ok (k, read) → k.integers = h.integers := by
  refine ⟨⟨?_, ?_⟩, ?_⟩
  · rintro ⟨⟨k, read⟩, hread⟩
    exact ((decode_encode_eq_ok_iff hfeed).1 hread).1
  · intro hnarrow
    exact ⟨_, (decode_encode_eq_ok_iff hfeed).2 ⟨hnarrow, hcount, rfl, rfl⟩⟩
  · intro k read hread
    obtain ⟨-, -, rfl, -⟩ := (decode_encode_eq_ok_iff hfeed).1 hread
    rfl

theorem decode_encode_iff_narrow_tenth :
    lineFeed ∉ tenthHeader.text.toList ∧ tenthHeader.sampleCount = .ok 1 ∧
      ∃ k read, decode (encode tenthHeader (some [⟨0x3DCCCCCD⟩])) false = .ok (k, read) ∧
        k.integers = tenthHeader.integers := by
  obtain ⟨hiff, hkept⟩ := decode_encode_iff_narrow tenthHeader (some [⟨0x3DCCCCCD⟩])
    lineFeed_notMem_tenthHeader sampleCount_tenthHeader
  obtain ⟨⟨k, read⟩, hread⟩ := hiff.2 narrowIntegers_tenthHeader
  exact ⟨lineFeed_notMem_tenthHeader, sampleCount_tenthHeader, k, read, hread, hkept k read hread⟩

/-- A blank header with an integer of ten digits next to another one. -/
def wideHeader : Header := Header.blank.setInteger 1 (some 1000000000)

/-- The integer of ten digits makes one word with the one before it. -/
theorem decode_encode_wideHeader :
    wideHeader.sampleCount = .ok 0 ∧ (∀ slot, (wideHeader.storedReal slot).isFinite = true) ∧
      (∀ b ∈ wideHeader.text.toList, 0x20 ≤ b ∧ b < 0x7F) ∧
      ¬∃ r, decode (encode wideHeader (some [])) false = .ok r := by
  refine ⟨by decide +kernel, by decide +kernel, by decide +kernel, ?_⟩
  rintro ⟨⟨k, read⟩, hread⟩
  have hfeed : lineFeed ∉ wideHeader.text.toList := by decide +kernel
  have hwide : ¬NarrowIntegers wideHeader := by decide +kernel
  exact hwide ((decode_encode_eq_ok_iff hfeed).1 hread).1

/-! ### What is read -/

/-- Where no integer runs on from another one, no line of text is cut in two and none ends in
a carriage return, the header is read with the same integers and text, and its real numbers
and the samples are rounded twice. -/
theorem decode_encode_resaved (h : Header) (s : List Single) (hcount : h.sampleCount = .ok s.length)
    (hnarrow : NarrowIntegers h) (hfeed : lineFeed ∉ h.text.toList)
    (hreturn : ∀ i : Fin 192, i.val % textLineWidth = textLineWidth - 1 →
      h.text.get i ≠ carriageReturn) :
    ∃ k s', decode (encode h (some s)) false = .ok (k, some s') ∧
      decode (encode h (some s)) true = .ok (k, none) ∧
      k.integers = h.integers ∧ k.text = h.text ∧
      (∀ slot, Resaved (h.storedReal slot) (k.storedReal slot)) ∧ List.Forall₂ Resaved s s' := by
  have hheader : decode (encode h (some s)) true = .ok (resavedHeader h, none) :=
    (decode_headerOnly_encode_eq_ok_iff hfeed).2 ⟨hnarrow, rfl, rfl⟩
  refine ⟨resavedHeader h, s.map resaved, decode_encode_of_narrow hfeed hnarrow hcount, hheader,
    rfl, ?_, ?_, ?_⟩
  · ext i hi
    rw [resavedHeader, getElem_settledText _ i hi, if_neg]
    rintro ⟨hlast, heq⟩
    exact hreturn ⟨i, hi⟩ hlast heq
  · intro slot
    rw [storedReal_resavedHeader]
    exact Decimal.resaved_spec _
  · rw [List.forall₂_map_right_iff, List.forall₂_same]
    intro x _
    exact Decimal.resaved_spec x

theorem decode_encode_resaved_tenth :
    (∀ i : Fin 192, i.val % textLineWidth = textLineWidth - 1 →
        tenthHeader.text.get i ≠ carriageReturn) ∧
      ∃ k s', decode (encode tenthHeader (some [⟨0x3DCCCCCD⟩])) false = .ok (k, some s') ∧
        k.text = tenthHeader.text ∧ List.Forall₂ Resaved [⟨0x3DCCCCCD⟩] s' := by
  have hreturn : ∀ i : Fin 192, i.val % textLineWidth = textLineWidth - 1 →
      tenthHeader.text.get i ≠ carriageReturn := by decide +kernel
  obtain ⟨k, s', hread, -, -, htext, -, hs⟩ := decode_encode_resaved tenthHeader [⟨0x3DCCCCCD⟩]
    sampleCount_tenthHeader narrowIntegers_tenthHeader lineFeed_notMem_tenthHeader hreturn
  exact ⟨hreturn, k, s', hread, htext, hs⟩

/-! ### The second time -/

/-- A word that was written and read once is read as it is, although it may be written with
other digits; and so are a header and its samples. -/
theorem decode_encode_again :
    (∀ x : Single, ∃ y, readReal (general columnDigits x) = some y ∧
      readReal (general columnDigits y) = some y) ∧
    (∃ x y : Single, readReal (general columnDigits x) = some y ∧
      general columnDigits y ≠ general columnDigits x) ∧
    ∀ (h k : Header) (s : List Single) (read : Option (List Single)),
      lineFeed ∉ h.text.toList → decode (encode h (some s)) false = .ok (k, read) →
        ∃ s', read = some s' ∧ decode (encode k (some s')) false = .ok (k, some s') := by
  refine ⟨?_, ?_, ?_⟩
  · intro x
    have hagain := Decimal.real?_general (resaved x)
    rw [Decimal.resaved_resaved] at hagain
    exact ⟨resaved x, Decimal.real?_general x, hagain⟩
  · -- the word next to 1e28 lies below it and is written as 9.999999e27
    exact ⟨⟨0x6E013F3B⟩, ⟨0x6E013F39⟩, by decide +kernel, by decide +kernel⟩
  · intro h k s read hfeed hread
    obtain ⟨hnarrow, hcount, rfl, rfl⟩ := (decode_encode_eq_ok_iff hfeed).1 hread
    have hcount' : (resavedHeader h).sampleCount = .ok (s.map resaved).length := by
      rw [List.length_map]
      exact hcount
    have hagain := decode_encode_of_narrow (lineFeed_notMem_resavedHeader hfeed) hnarrow hcount'
    have hsamples : (s.map resaved).map resaved = s.map resaved := by
      rw [List.map_map]
      exact List.map_congr_left fun x _ => Decimal.resaved_resaved x
    rw [resavedHeader_resavedHeader, hsamples] at hagain
    exact ⟨s.map resaved, rfl, hagain⟩

theorem decode_encode_again_tenth :
    ∃ k s', decode (encode tenthHeader (some [⟨0x3DCCCCCD⟩])) false = .ok (k, some s') ∧
      decode (encode k (some s')) false = .ok (k, some s') := by
  have hread := decode_encode_of_narrow (s := [⟨0x3DCCCCCD⟩]) lineFeed_notMem_tenthHeader
    narrowIntegers_tenthHeader sampleCount_tenthHeader
  obtain ⟨s', hs', hagain⟩ := decode_encode_again.2.2 _ _ _ _ lineFeed_notMem_tenthHeader hread
  rw [hs'] at hread
  exact ⟨_, s', hread, hagain⟩

/-! ### Null real numbers -/

/-- A null real number is read as null, and so is exactly a number that is within half a
hundredth of the sentinel, whatever the text of the header is. -/
theorem real?_decode_encode_eq_none_iff (h k : Header) (s : List Single)
    (read : Option (List Single)) (hread : decode (encode h (some s)) false = .ok (k, read))
    (slot : Fin 70) :
    (h.real? slot = none → k.real? slot = none) ∧
      (k.real? slot = none ↔ (h.storedReal slot).isFinite = true ∧
        |(h.storedReal slot).value - nullReal.value| ≤ 1 / 200) := by
  have hreals := (readHeader_encode_eq_ok_iff.1 (decode_eq_ok_iff.1 hread).1).2.1
  have hslot : k.storedReal slot = resaved (h.storedReal slot) := by
    rw [Header.storedReal, hreals]
    exact Vector.getElem_map resaved slot.isLt
  have hnull (j : Header) : j.real? slot = none ↔ j.storedReal slot = nullReal := by
    simp [Header.real?]
  rw [hnull, hnull, hslot]
  constructor
  · intro hx
    rw [hx]
    decide +kernel
  · exact resaved_eq_nullReal_iff _

theorem real?_decode_encode_tenth :
    ∃ k read, decode (encode tenthHeader (some [⟨0x3DCCCCCD⟩])) false = .ok (k, read) ∧
      k.real? Header.deltaSlot ≠ none ∧ k.real? Header.leastSlot = none := by
  have hread := decode_encode_of_narrow (s := [⟨0x3DCCCCCD⟩]) lineFeed_notMem_tenthHeader
    narrowIntegers_tenthHeader sampleCount_tenthHeader
  have hnull := real?_decode_encode_eq_none_iff _ _ _ _ hread
  have hfar : ¬((tenthHeader.storedReal Header.deltaSlot).isFinite = true ∧
      |(tenthHeader.storedReal Header.deltaSlot).value - nullReal.value| ≤ 1 / 200) := by
    decide +kernel
  have hunset : tenthHeader.real? Header.leastSlot = none := by decide +kernel
  exact ⟨_, _, hread, (hnull Header.deltaSlot).2.not.2 hfar, (hnull Header.leastSlot).1 hunset⟩

/-- A blank header with the word next to the sentinel. -/
def nearNullHeader : Header := Header.blank.setReal Header.deltaSlot (some ⟨0xC640E401⟩)

/-- The word next to the sentinel becomes null. -/
theorem real?_decode_encode_nearNull :
    ∃ k read, decode (encode nearNullHeader (some [])) false = .ok (k, read) ∧
      nearNullHeader.real? Header.deltaSlot ≠ none ∧ k.real? Header.deltaSlot = none := by
  have hfeed : lineFeed ∉ nearNullHeader.text.toList := by decide +kernel
  have hnarrow : NarrowIntegers nearNullHeader := by decide +kernel
  have hcount : nearNullHeader.sampleCount = .ok 0 := by decide +kernel
  have hread := decode_encode_of_narrow (s := []) hfeed hnarrow hcount
  exact ⟨_, _, hread, by decide +kernel, by decide +kernel⟩

end Seismogram.Alphanumeric
