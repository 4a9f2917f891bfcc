/-
# Real numbers never run together

A real number takes up at most 13 of the 15 characters of its column, so two blanks or more stand
before it (`Decimal.isColumn_column`).  Hence numbers that are written in a row, or in the rows of
a file, have as many words as numbers: the words are the texts of the numbers in their order
(`realColumns_words`).
-/
import Seismogram.Proofs.Layout.Alphanumeric
import Seismogram.Proofs.Text.Words

namespace Seismogram

/-! ### One column -/

namespace Decimal

open Seismogram.Number

/-- A text of 15 characters of ASCII: two blanks or more, and after them a word. -/
structure IsColumn (word text : List Char) : Prop where
  length : text.length = 15
  ascii : ∀ c ∈ text, c.toNat < 128
  blanks : ∃ k, 2 ≤ k ∧ text = List.replicate k ' ' ++ word
  word : Text.IsWord word

lemma column_eq (x : Single) : column x =
    List.replicate (columnWidth - (general columnDigits x).length) ' ' ++ general columnDigits x :=
  rfl

lemma isColumn_column (x : Single) : IsColumn (general columnDigits x) (column x) where
  length := by
    have hlen := length_general_le x
    rw [column, length_rightAligned]
    exact max_eq_left (hlen.trans (by decide))
  ascii := by
    rw [column_eq, List.forall_mem_append]
    refine ⟨fun c hc => ?_, fun c hc => ?_⟩
    · rw [List.eq_of_mem_replicate hc]
      decide
    · have hgraphic := of_decide_eq_true (isGraphic_general columnDigits x c hc)
      omega
  blanks := by
    have hlen : (general columnDigits x).length ≤ 13 := length_general_le x
    have hwidth : columnWidth = 15 := rfl
    exact ⟨_, by omega, column_eq x⟩
  word := isWord_general x

end Decimal

/-! ### Rows of columns -/

namespace Alphanumeric

open Seismogram.Number
open Seismogram.Decimal (IsColumn column general columnDigits)
open Seismogram.Text (utf8 words)

variable {h : Header} {samples : Option (List Single)}

/-- The text of lines of real numbers. -/
def realText (xs : List Single) : List Char :=
  (rows numbersPerLine xs).flatMap fun row => row.flatMap column ++ ['\n']

lemma utf8_flatMap {α : Type} (text : α → List Char) (xs : List α) :
    utf8 (xs.flatMap text) = xs.flatMap fun x => utf8 (text x) :=
  List.flatMap_assoc

lemma utf8_realText (xs : List Single) :
    utf8 (realText xs) = joinLines (numberLines column xs) := by
  rw [realText, utf8_flatMap, joinLines, numberLines, List.flatMap_map]
  refine List.flatMap_congr fun row _ => ?_
  rw [Text.utf8_append]
  rfl

/-- Texts that are followed by blanks have the words of each of them. -/
lemma words_flatMap_blank {α : Type} (text : α → List Char) (xs : List α) {c : Char}
    (hc : Text.isBlank c = true) :
    words (xs.flatMap fun x => text x ++ [c]) = xs.flatMap fun x => words (text x) := by
  induction xs with
  | nil => rfl
  | cons x xs ih =>
      rw [List.flatMap_cons, List.append_assoc, List.singleton_append,
        Text.words_append_cons _ _ hc, ih, List.flatMap_cons]

lemma words_realText (xs : List Single) : words (realText xs) = xs.map (general columnDigits) := by
  rw [realText, words_flatMap_blank _ _ (by decide)]
  exact flatMap_words_rows Decimal.isWord_general (apart_column xs)

lemma words_realRow (xs : List Single) :
    words (xs.flatMap column) = xs.map (general columnDigits) := by
  refine words_row Decimal.isWord_general fun x _ => ?_
  exact lt_of_le_of_lt (Decimal.length_general_le x) (by decide)

/-- A file has its real numbers at the beginning and its samples at the end. -/
lemma encode_eq_realText : encode h samples = utf8 (realText h.reals.toList) ++
    joinLines (numberLines integerColumn h.integers.toList ++ rows textLineWidth h.text.toList) ++
    utf8 (realText (samples.getD [])) := by
  rw [utf8_realText, utf8_realText, ← joinLines_append, ← joinLines_append, encode, headerToLines,
    List.append_assoc (numberLines column _)]

/-- Every real number is written in a column of its own with blanks before it, so the words of
numbers in a row, and of the lines of a file, are the texts of the numbers in their order. -/
theorem realColumns_words :
    (∀ x : Single, IsColumn (general columnDigits x) (column x)) ∧
    (∀ xs : List Single, words (xs.flatMap column) = xs.map (general columnDigits) ∧
      (∀ row ∈ rows numbersPerLine xs, words (row.flatMap column) = row.map (general columnDigits)) ∧
      words (realText xs) = xs.map (general columnDigits)) ∧
    ∀ (h : Header) (samples : Option (List Single)), encode h samples =
      utf8 (realText h.reals.toList) ++
      joinLines (numberLines integerColumn h.integers.toList ++ rows textLineWidth h.text.toList) ++
      utf8 (realText (samples.getD [])) :=
  ⟨Decimal.isColumn_column, fun xs => ⟨words_realRow xs, fun row _ => words_realRow row,
    words_realText xs⟩, fun _ _ => encode_eq_realText⟩

end Alphanumeric

end Seismogram
