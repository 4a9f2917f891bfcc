/-
# Lines of numbers

Numbers are written in columns, five to a line, and read word by word.  What is read is what
was written if the columns of a line are apart (`readNumbers_of_apart`), and only then is the
number of words the number of columns (`apart_of_readNumbers`): columns that are not apart
run together into one word.
-/
import Mathlib.Data.List.Forall2
import Seismogram.Proofs.Layout.Lines
import Seismogram.Proofs.Layout.Reading
import Seismogram.Proofs.Text.Columns

namespace Seismogram.Alphanumeric

open Seismogram.Number
open Seismogram.Decimal (rightAligned)
open Seismogram.Text (IsWord isGraphic utf8 words)

/-! ### Bytes of lines -/

lemma utf8EncodeChar_of_lt {c : Char} (hc : c.toNat < 0x80) :
    String.utf8EncodeChar c = [c.val.toUInt8] := by
  apply String.utf8EncodeChar_eq_singleton
  rw [Char.utf8Size, if_pos]
  exact UInt32.le_iff_toNat_le.2 (Nat.le_of_lt_succ hc)

/-- Graphic characters and blanks are written as bytes that end no line. -/
lemma le_of_mem_utf8 {text : List Char} (htext : ∀ c ∈ text, c = ' ' ∨ isGraphic c = true)
    {b : UInt8} (hb : b ∈ utf8 text) : 0x20 ≤ b.toNat := by
  obtain ⟨c, hc, hbc⟩ := List.mem_flatMap.1 hb
  have hrange : 0x20 ≤ c.toNat ∧ c.toNat < 0x7F := by
    rcases htext c hc with rfl | hgraphic
    · decide
    · have hinside := of_decide_eq_true hgraphic
      exact ⟨Nat.le_of_lt hinside.1, hinside.2⟩
  rw [utf8EncodeChar_of_lt (by omega), List.mem_singleton] at hbc
  rw [hbc, UInt32.toNat_toUInt8, Nat.mod_eq_of_lt]
  · exact hrange.1
  · exact Nat.lt_of_lt_of_le hrange.2 (by decide)

/-! ### Columns -/

section Columns

variable {α : Type} {form : α → List Char} {width count : ℕ} {xs : List α}

/-- The columns of a line are apart: there is a blank between any two of them. -/
def Apart (form : α → List Char) (width : ℕ) (xs : List α) : Prop :=
  ∀ row ∈ rows numbersPerLine xs, ∀ x ∈ row.tail, (form x).length < width

lemma numberLines_eq (column : α → List Char) (xs : List α) :
    numberLines column xs =
      ((rows numbersPerLine xs).map fun row => row.flatMap column).map utf8 := by
  rw [numberLines, List.map_map]
  rfl

/-- No byte of a line of numbers ends a line or precedes the end of one. -/
lemma le_of_mem_numberLines (hform : ∀ x, ∀ c ∈ form x, isGraphic c = true) {line : List UInt8}
    (hline : line ∈ numberLines (fun x => rightAligned width (form x)) xs) {b : UInt8}
    (hb : b ∈ line) : 0x20 ≤ b.toNat := by
  obtain ⟨row, -, rfl⟩ := List.mem_map.1 hline
  refine le_of_mem_utf8 (fun c hc => ?_) hb
  obtain ⟨x, -, hcx⟩ := List.mem_flatMap.1 hc
  rcases List.mem_append.1 hcx with hblank | hin
  · exact Or.inl (List.eq_of_mem_replicate hblank)
  · exact Or.inr (hform x c hin)

lemma lineFeed_notMem_numberLines (hform : ∀ x, ∀ c ∈ form x, isGraphic c = true) :
    ∀ line ∈ numberLines (fun x => rightAligned width (form x)) xs, lineFeed ∉ line := by
  intro line hline hfeed
  exact absurd (le_of_mem_numberLines hform hline hfeed) (by decide)

lemma map_withoutReturn_numberLines (hform : ∀ x, ∀ c ∈ form x, isGraphic c = true) :
    (numberLines (fun x => rightAligned width (form x)) xs).map withoutReturn
      = numberLines (fun x => rightAligned width (form x)) xs := by
  refine List.map_congr_left (fun line hline => ?_) |>.trans (List.map_id _)
  refine withoutReturn_of_ne fun hlast => ?_
  have hb := le_of_mem_numberLines hform hline (List.mem_of_getLast? hlast)
  exact absurd hb (by decide)

/-! ### The words of the columns -/

lemma words_row {row : List α} (hword : ∀ x, IsWord (form x))
    (hapart : ∀ x ∈ row.tail, (form x).length < width) :
    words (row.flatMap fun x => rightAligned width (form x)) = row.map form := by
  rw [← List.flatMap_map form (rightAligned width) row]
  refine Text.words_columns ?_ ?_
  · rw [List.forall_mem_map]
    exact fun x _ => hword x
  · rw [← List.map_tail, List.forall_mem_map]
    exact hapart

/-- The rows of numbers whose columns are apart have the numbers as their words. -/
lemma flatMap_words_rows (hword : ∀ x, IsWord (form x)) (hapart : Apart form width xs) :
    (rows numbersPerLine xs).flatMap
      (fun row => words (row.flatMap fun x => rightAligned width (form x))) = xs.map form := by
  rw [List.flatMap_def]
  calc ((rows numbersPerLine xs).map fun row =>
        words (row.flatMap fun x => rightAligned width (form x))).flatten
      = ((rows numbersPerLine xs).map (List.map form)).flatten := by
        congr 1
        exact List.map_congr_left fun row hrow => words_row hword (hapart row hrow)
    _ = xs.map form := by rw [← List.map_flatten, flatten_rows]

/-- A row has no more words than columns, and as many only if its columns are apart. -/
lemma length_words_row (hword : ∀ x, IsWord (form x)) (row : List α) :
    (words (row.flatMap fun x => rightAligned width (form x))).length ≤ row.length ∧
      ((words (row.flatMap fun x => rightAligned width (form x))).length = row.length →
        ∀ x ∈ row.tail, (form x).length < width) := by
  have hwords : ∀ t ∈ row.map form, IsWord t := by
    rw [List.forall_mem_map]
    exact fun x _ => hword x
  have hcolumns := Text.length_words_columns width hwords
  rwa [List.flatMap_map form (rightAligned width) row, List.length_map, ← List.map_tail,
    List.forall_mem_map] at hcolumns

/-- If no list of a family is longer than another list, and in all they are as long, then
each is as long as the other. -/
lemma length_flatMap_le (g : List α → List (List Char)) (rs : List (List α))
    (hg : ∀ r ∈ rs, (g r).length ≤ r.length) :
    (rs.flatMap g).length ≤ rs.flatten.length ∧
      ((rs.flatMap g).length = rs.flatten.length → ∀ r ∈ rs, (g r).length = r.length) := by
  induction rs with
  | nil => simp
  | cons r rs ih =>
      have hr : (g r).length ≤ r.length := hg r List.mem_cons_self
      obtain ⟨hle, heq⟩ := ih fun s hs => hg s (List.mem_cons_of_mem r hs)
      rw [List.flatMap_cons, List.flatten_cons, List.length_append, List.length_append]
      refine ⟨Nat.add_le_add hr hle, fun hsum => ?_⟩
      rw [List.forall_mem_cons]
      exact ⟨by omega, heq (by omega)⟩

/-! ### Reading the columns -/

variable {β : Type} {read? : List Char → Option β} {f : α → β} {block : NumberBlock}

/-- Columns that are apart are read as they were written. -/
lemma readNumbers_of_apart (hword : ∀ x, IsWord (form x)) (hread : ∀ x, read? (form x) = some (f x))
    (hapart : Apart form width xs) {v : Vector β count} :
    readNumbers block read? count (numberLines (fun x => rightAligned width (form x)) xs) = .ok v ↔
      xs.map f = v.toList := by
  rw [numberLines_eq, readNumbers_utf8_eq_ok_iff, List.flatMap_map, flatMap_words_rows hword hapart]
  simp only [List.forall₂_map_left_iff, hread, Option.some.injEq]
  rw [← List.forall₂_map_left_iff (f := f) (R := Eq), List.forall₂_eq_eq_eq]

/-- If as many numbers are read as were written, then the columns are apart. -/
lemma apart_of_readNumbers (hword : ∀ x, IsWord (form x)) (hcount : xs.length = count)
    {v : Vector β count}
    (h : readNumbers block read? count (numberLines (fun x => rightAligned width (form x)) xs)
      = .ok v) : Apart form width xs := by
  rw [numberLines_eq, readNumbers_utf8_eq_ok_iff, List.flatMap_map] at h
  have hlength := h.length_eq
  rw [Vector.length_toList] at hlength
  have hall := (length_flatMap_le
    (fun row => words (row.flatMap fun x => rightAligned width (form x))) (rows numbersPerLine xs)
    fun row _ => (length_words_row hword row).1).2
  -- as many words as numbers in all, so as many in every row
  rw [flatten_rows, hlength, hcount] at hall
  intro row hrow
  exact (length_words_row hword row).2 (hall rfl row hrow)

end Columns

end Seismogram.Alphanumeric
