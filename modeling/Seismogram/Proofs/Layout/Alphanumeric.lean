/-
# Alphanumeric files that were written

What is read from a file that was written is the header with its real numbers rounded and
with a blank in place of a carriage return at the end of a line of text
(`resavedHeader`), and the samples rounded.  `decode_encode_eq_ok_iff` says when it is read:
the columns of integers have to be apart and the samples to be counted.

The lines of text come after those of numbers.  A line feed in a text cuts its line in two,
but the numbers of the header are read all the same (`readHeader_encode_eq_ok_iff`).
-/
import Seismogram.Proofs.Decimal.Resaved
import Seismogram.Proofs.Header.Slots
import Seismogram.Proofs.Layout.Columns

namespace Seismogram.Alphanumeric

open Seismogram.Number
open Seismogram.Decimal (rightAligned general columnDigits columnWidth resaved)

variable {h k : Header} {samples : Option (List Single)}

/-! ### What is read -/

/-- The text that is read: a carriage return at the end of a line becomes a blank. -/
def settledText (text : Vector UInt8 192) : Vector UInt8 192 :=
  .ofFn fun i =>
    if i.val % textLineWidth = textLineWidth - 1 ∧ text[i] = carriageReturn then blankByte
    else text[i]

/-- The header that is read where a header was written. -/
def resavedHeader (h : Header) : Header where
  reals := h.reals.map resaved
  integers := h.integers
  text := settledText h.text

/-- Every integer that is not the first of its line is narrower than its column. -/
def NarrowIntegers (h : Header) : Prop :=
  ∀ slot : Fin 40, slot.val % numbersPerLine ≠ 0 →
    (Decimal.integer (h.storedInteger slot).toInt).length < integerColumnWidth

instance (h : Header) : Decidable (NarrowIntegers h) := by
  unfold NarrowIntegers
  infer_instance

@[simp] lemma storedReal_resavedHeader (slot : Fin 70) :
    (resavedHeader h).storedReal slot = resaved (h.storedReal slot) :=
  Vector.getElem_map resaved slot.isLt

lemma getElem_settledText (text : Vector UInt8 192) (i : ℕ) (hi : i < 192) :
    (settledText text)[i] =
      if i % textLineWidth = textLineWidth - 1 ∧ text[i] = carriageReturn then blankByte
      else text[i] := by
  simp [settledText]

lemma lineFeed_notMem_resavedHeader (hfeed : lineFeed ∉ h.text.toList) :
    lineFeed ∉ (resavedHeader h).text.toList := by
  intro hmem
  obtain ⟨i, hi, heq⟩ := Vector.mem_iff_getElem.1 (Vector.mem_toList_iff.1 hmem)
  rw [resavedHeader, getElem_settledText] at heq
  split at heq
  · exact absurd heq (by decide)
  · exact hfeed (Vector.mem_toList_iff.2 (Vector.mem_iff_getElem.2 ⟨i, hi, heq⟩))

lemma settledText_settledText (text : Vector UInt8 192) :
    settledText (settledText text) = settledText text := by
  ext i hi
  rw [getElem_settledText _ i hi]
  split
  · rename_i hreturn
    rw [getElem_settledText] at hreturn ⊢
    split
    · rfl
    · rename_i hnot
      rw [if_neg hnot] at hreturn
      exact absurd hreturn hnot
  · rfl

/-- A header that was read is read again as it is. -/
lemma resavedHeader_resavedHeader (h : Header) :
    resavedHeader (resavedHeader h) = resavedHeader h := by
  refine Header.ext_slots (fun slot => ?_) (fun _ => rfl) (settledText_settledText h.text)
  rw [storedReal_resavedHeader, storedReal_resavedHeader, Decimal.resaved_resaved]

/-! ### Real numbers -/

lemma numberLines_column (xs : List Single) :
    numberLines Decimal.column xs =
      numberLines (fun x => rightAligned columnWidth (general 7 x)) xs :=
  rfl

/-- There is a blank between any two real numbers of a line. -/
lemma apart_column (xs : List Single) : Apart (general 7) columnWidth xs := by
  intro row _ x _
  exact lt_of_le_of_lt (Decimal.length_general_le x) (by decide)

lemma readNumbers_column_eq_ok_iff {block : NumberBlock} {count : ℕ} {xs : List Single}
    {v : Vector Single count} :
    readNumbers block readReal count (numberLines Decimal.column xs) = .ok v ↔
      xs.map resaved = v.toList :=
  readNumbers_of_apart Decimal.isWord_general Decimal.real?_general (apart_column xs)

/-! ### Integers -/

lemma readInteger_integer (n : Int32) : readInteger (Decimal.integer n.toInt) = some n := by
  rw [readInteger, Decimal.integer?_integer]
  dsimp only
  rw [if_pos ⟨n.minValue_le_toInt, n.toInt_le⟩, Int32.ofInt_toInt]

lemma apart_integers_iff :
    Apart (fun n : Int32 => Decimal.integer n.toInt) integerColumnWidth h.integers.toList ↔
      NarrowIntegers h := by
  rw [Apart, forall_mem_tail_rows (by decide)]
  constructor
  · intro hapart slot hslot
    exact hapart slot.val _ (by simp [Header.storedInteger]) hslot
  · intro hnarrow i n hn hi
    obtain ⟨hlt, rfl⟩ := List.getElem?_eq_some_iff.1 hn
    rw [Vector.length_toList] at hlt
    exact hnarrow ⟨i, hlt⟩ hi

/-- The integers are read if their columns are apart, and then as they are. -/
lemma readNumbers_integers_eq_ok_iff {v : Vector Int32 40} :
    readNumbers .integers readInteger 40 (numberLines integerColumn h.integers.toList) = .ok v ↔
      NarrowIntegers h ∧ v = h.integers := by
  have hword (n : Int32) : Text.IsWord (Decimal.integer n.toInt) := Decimal.isWord_integer n.toInt
  have hread (hnarrow : NarrowIntegers h) :
      readNumbers .integers readInteger 40 (numberLines integerColumn h.integers.toList) = .ok v ↔
        v = h.integers := by
    have hcolumns : readNumbers .integers readInteger 40
        (numberLines integerColumn h.integers.toList) = .ok v ↔
          h.integers.toList.map (fun n => n) = v.toList :=
      readNumbers_of_apart hword readInteger_integer (apart_integers_iff.2 hnarrow)
    rw [hcolumns, List.map_id', Vector.toList_inj, eq_comm]
  constructor
  · intro hv
    have hnarrow := apart_integers_iff.1 (apart_of_readNumbers hword Vector.length_toList hv)
    exact ⟨hnarrow, (hread hnarrow).1 hv⟩
  · rintro ⟨hnarrow, hv⟩
    exact (hread hnarrow).2 hv

/-! ### Lines of text -/

lemma length_withoutReturn_le (line : List UInt8) : (withoutReturn line).length ≤ line.length := by
  rw [withoutReturn]
  split
  · rw [List.length_dropLast]
    exact Nat.sub_le _ 1
  · exact Nat.le_refl _

/-- Where a full line has a return at its end there is no byte, and a blank is read. -/
lemma getD_withoutReturn {row : List UInt8} {j : ℕ} (hj : j < row.length) :
    ((withoutReturn row)[j]?).getD blankByte =
      if j = row.length - 1 ∧ row[j] = carriageReturn then blankByte else row[j] := by
  have hlast : row.getLast? = some row[row.length - 1] := by
    rw [List.getLast?_eq_getElem?, List.getElem?_eq_getElem]
  simp only [withoutReturn, hlast, Option.some.injEq]
  split
  · rename_i hreturn
    rw [List.getElem?_dropLast]
    by_cases hend : j = row.length - 1
    · -- the byte that was taken off
      subst hend
      rw [if_neg (by omega), if_pos ⟨rfl, hreturn⟩]
      rfl
    · rw [if_pos (by omega), if_neg (fun hboth => hend hboth.1), List.getElem?_eq_getElem hj]
      rfl
  · rename_i hkept
    rw [List.getElem?_eq_getElem hj, Option.getD_some, if_neg]
    rintro ⟨rfl, hreturn⟩
    exact hkept hreturn

lemma length_textRows (text : Vector UInt8 192) :
    (rows textLineWidth text.toList).length = textLines :=
  length_rows (by decide) Vector.length_toList

lemma length_of_mem_textRows {text : Vector UInt8 192} {line : List UInt8}
    (hline : line ∈ rows textLineWidth text.toList) : line.length = textLineWidth :=
  length_of_mem_rows (k := textLines) (by decide) Vector.length_toList hline

lemma textByte_rows (text : Vector UInt8 192) {i : ℕ} (hi : i < 192) :
    textByte ((rows textLineWidth text.toList).map withoutReturn) i = (settledText text)[i] := by
  have hdiv := Nat.div_add_mod i textLineWidth
  have hmod : i % textLineWidth < textLineWidth := Nat.mod_lt i (by decide)
  -- byte `i` stands in row `i / 24`, at place `i % 24`
  have hrow := getElem?_rows (show 0 < textLineWidth by decide) text.toList (i / textLineWidth)
  rw [Vector.length_toList, if_pos (by omega)] at hrow
  have hfull := length_of_mem_textRows (List.mem_of_getElem? hrow)
  have hbyte : ((text.toList.drop (textLineWidth * (i / textLineWidth))).take
      textLineWidth)[i % textLineWidth] = text[i] := by
    rw [List.getElem_take, List.getElem_drop, Vector.getElem_toList]
    simp only [hdiv]
  rw [textByte, List.getElem?_map, hrow, Option.map_some, Option.getD_some,
    getD_withoutReturn (by rw [hfull]; exact hmod), hbyte, hfull, getElem_settledText]

/-- Lines of text are read byte by byte. -/
lemma readText_rows_eq_ok_iff {text read : Vector UInt8 192} :
    readText ((rows textLineWidth text.toList).map withoutReturn) = .ok read ↔
      read = settledText text := by
  have hshort : ∀ line ∈ (rows textLineWidth text.toList).map withoutReturn,
      line.length ≤ textLineWidth := by
    rw [List.forall_mem_map]
    intro line hline
    exact (length_withoutReturn_le line).trans_eq (length_of_mem_textRows hline)
  have hbytes : (Vector.ofFn fun i : Fin 192 =>
      textByte ((rows textLineWidth text.toList).map withoutReturn) i.val) = settledText text := by
    ext i hi
    rw [Vector.getElem_ofFn, textByte_rows text hi]
  rw [readText_eq_ok_iff, hbytes]
  exact and_iff_right hshort

/-! ### Files -/

/-- The lines that follow those of the numbers of the header. -/
def laterLines (h : Header) (samples : Option (List Single)) : List (List UInt8) :=
  linesOf (joinLines
    (rows textLineWidth h.text.toList ++ numberLines Decimal.column (samples.getD [])))

/-- The lines of numbers are read as they were written, whatever follows them. -/
lemma linesOf_encode (h : Header) (samples : Option (List Single)) :
    linesOf (encode h samples) = numberLines Decimal.column h.reals.toList
      ++ (numberLines integerColumn h.integers.toList ++ laterLines h samples) := by
  have hreals := Decimal.isGraphic_general (F := .single) 7
  have hintegers (n : Int32) := Decimal.isGraphic_integer n.toInt
  -- numbers are graphic: their lines hold no line feed and end in no return
  have hfeed : ∀ line ∈ numberLines Decimal.column h.reals.toList
      ++ numberLines integerColumn h.integers.toList, lineFeed ∉ line :=
    List.forall_mem_append.2
      ⟨lineFeed_notMem_numberLines hreals, lineFeed_notMem_numberLines hintegers⟩
  have hkept : (numberLines Decimal.column h.reals.toList
      ++ numberLines integerColumn h.integers.toList).map withoutReturn
        = numberLines Decimal.column h.reals.toList
          ++ numberLines integerColumn h.integers.toList := by
    rw [List.map_append, numberLines_column]
    exact congrArg₂ (· ++ ·) (map_withoutReturn_numberLines hreals)
      (map_withoutReturn_numberLines hintegers)
  rw [encode, headerToLines, List.append_assoc, joinLines_append, linesOf_joinLines_append _ hfeed,
    hkept, List.append_assoc]
  rfl

lemma length_realLines (h : Header) :
    (numberLines Decimal.column h.reals.toList).length = realLines := by
  rw [numberLines, List.length_map]
  exact length_rows (by decide) Vector.length_toList

lemma length_integerLines (h : Header) :
    (numberLines integerColumn h.integers.toList).length = integerLines := by
  rw [numberLines, List.length_map]
  exact length_rows (by decide) Vector.length_toList

/-- The header of a file that was written, whatever its lines of text were cut into. -/
lemma readHeader_encode_eq_ok_iff :
    readHeader (linesOf (encode h samples)) = .ok k ↔
      textLines ≤ (laterLines h samples).length ∧
      k.reals = h.reals.map resaved ∧ NarrowIntegers h ∧ k.integers = h.integers ∧
      readText ((laterLines h samples).take textLines) = .ok k.text := by
  have hr := length_realLines h
  have hi := length_integerLines h
  have hreals : (linesOf (encode h samples)).take realLines
      = numberLines Decimal.column h.reals.toList := by
    rw [linesOf_encode, List.take_left' hr]
  have hdrop : (linesOf (encode h samples)).drop realLines
      = numberLines integerColumn h.integers.toList ++ laterLines h samples := by
    rw [linesOf_encode, List.drop_left' hr]
  have hlength : (linesOf (encode h samples)).length
      = realLines + (integerLines + (laterLines h samples).length) := by
    rw [linesOf_encode, List.length_append, List.length_append, hr, hi]
  rw [readHeader_eq_ok_iff, hreals, readNumbers_column_eq_ok_iff, ← List.drop_drop, hdrop,
    List.take_left' hi, List.drop_left' hi, readNumbers_integers_eq_ok_iff, hlength, headerLines]
  have hcount : realLines + integerLines + textLines
      ≤ realLines + (integerLines + (laterLines h samples).length) ↔
        textLines ≤ (laterLines h samples).length := by omega
  rw [hcount, ← Vector.toList_map, Vector.toList_inj, eq_comm (a := h.reals.map resaved), and_assoc]

lemma drop_headerLines_encode (h : Header) (samples : Option (List Single)) :
    (linesOf (encode h samples)).drop headerLines = (laterLines h samples).drop textLines := by
  rw [headerLines, ← List.drop_drop, ← List.drop_drop, linesOf_encode,
    List.drop_left' (length_realLines h), List.drop_left' (length_integerLines h)]

section WithoutLineFeed

variable (hfeed : lineFeed ∉ h.text.toList)

include hfeed

/-- Without a line feed in the text its lines are whole. -/
lemma laterLines_eq : laterLines h samples =
    (rows textLineWidth h.text.toList).map withoutReturn
      ++ numberLines Decimal.column (samples.getD []) := by
  have hreals := Decimal.isGraphic_general (F := .single) 7
  have htext : ∀ line ∈ rows textLineWidth h.text.toList, lineFeed ∉ line := by
    intro line hline hmem
    obtain ⟨i, -, rfl⟩ := (mem_rows_iff (by decide)).1 hline
    exact hfeed (List.mem_of_mem_drop (List.mem_of_mem_take hmem))
  rw [laterLines, linesOf_joinLines, List.map_append]
  · exact congrArg (_ ++ ·) (map_withoutReturn_numberLines hreals)
  · exact List.forall_mem_append.2 ⟨htext, lineFeed_notMem_numberLines hreals⟩

lemma readHeader_encode_iff :
    readHeader (linesOf (encode h samples)) = .ok k ↔ NarrowIntegers h ∧ k = resavedHeader h := by
  have hlength : ((rows textLineWidth h.text.toList).map withoutReturn).length = textLines := by
    rw [List.length_map, length_textRows]
  rw [readHeader_encode_eq_ok_iff, laterLines_eq hfeed, List.take_left' hlength,
    readText_rows_eq_ok_iff, List.length_append, hlength]
  obtain ⟨reals, integers, text⟩ := k
  simp only [resavedHeader, Header.mk.injEq]
  constructor
  · rintro ⟨-, hreals, hnarrow, hintegers, htext⟩
    exact ⟨hnarrow, hreals, hintegers, htext⟩
  · rintro ⟨hnarrow, hreals, hintegers, htext⟩
    exact ⟨Nat.le_add_right _ _, hreals, hnarrow, hintegers, htext⟩

/-- A file that was written is read if its columns of integers are apart and its samples are
counted, and then as the header and the samples with their numbers rounded. -/
theorem decode_encode_eq_ok_iff {read : Option (List Single)} :
    decode (encode h samples) false = .ok (k, read) ↔
      NarrowIntegers h ∧ h.sampleCount = .ok (samples.getD []).length ∧
        k = resavedHeader h ∧ read = some ((samples.getD []).map resaved) := by
  have hlength : ((rows textLineWidth h.text.toList).map withoutReturn).length = textLines := by
    rw [List.length_map, length_textRows]
  rw [decode_eq_ok_iff, readHeader_encode_iff hfeed, drop_headerLines_encode, laterLines_eq hfeed,
    List.drop_left' hlength]
  simp only [readNumbers_column_eq_ok_iff]
  constructor
  · rintro ⟨⟨hnarrow, rfl⟩, n, v, hn, hv, rfl⟩
    have hcount : n = (samples.getD []).length := by
      rw [← List.length_map (f := resaved), hv, Vector.length_toList]
    exact ⟨hnarrow, hcount ▸ hn, rfl, by rw [hv]⟩
  · rintro ⟨hnarrow, hn, rfl, rfl⟩
    refine ⟨⟨hnarrow, rfl⟩, _, ⟨((samples.getD []).map resaved).toArray, by simp⟩, hn, rfl, rfl⟩

/-- Without its samples the same header is read. -/
theorem decode_headerOnly_encode_eq_ok_iff {read : Option (List Single)} :
    decode (encode h samples) true = .ok (k, read) ↔
      NarrowIntegers h ∧ k = resavedHeader h ∧ read = none := by
  rw [decode_headerOnly_eq_ok_iff, readHeader_encode_iff hfeed, and_assoc]

end WithoutLineFeed

end Seismogram.Alphanumeric
