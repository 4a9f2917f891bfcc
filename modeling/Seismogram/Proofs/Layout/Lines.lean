/-
# Rows and lines

What is written in rows is the list that the rows make up (`flatten_rows`); the row with
number `i` begins at the element with number `width * i` (`getElem?_rows`), and all rows are
full if the width divides the length.

Lines are read back as they were written, except for a carriage return at the end of one,
if there is no line feed inside a line (`linesOf_joinLines_append`).
-/
import Mathlib.Data.List.Basic
import Mathlib.Tactic.Common
import Seismogram.Layout.Alphanumeric

namespace Seismogram.Alphanumeric

/-! ### Rows -/

section Rows

variable {α : Type} {width : ℕ} {begun xs row : List α}

lemma flatten_rowsFrom (width : ℕ) (begun xs : List α) :
    (rowsFrom width begun xs).flatten = begun.reverse ++ xs := by
  induction xs generalizing begun with
  | nil =>
      cases begun with
      | nil => rfl
      | cons x begun => simp [rowsFrom]
  | cons x xs ih =>
      rw [rowsFrom]
      split
      · rw [ih, List.reverse_cons, List.append_assoc]
        rfl
      · rw [List.flatten_cons, ih, List.reverse_cons, List.append_assoc]
        rfl

/-- The rows of a list make up the list. -/
lemma flatten_rows (width : ℕ) (xs : List α) : (rows width xs).flatten = xs :=
  flatten_rowsFrom width [] xs

/-- A row that was begun is filled up first. -/
lemma rowsFrom_cons (x : α) (hbegun : begun.length < width) :
    rowsFrom width begun (x :: xs) = (begun.reverse ++ (x :: xs).take (width - begun.length))
      :: rows width ((x :: xs).drop (width - begun.length)) := by
  induction xs generalizing begun x with
  | nil =>
      have hone : [x].take (width - begun.length) = [x] := List.take_of_length_le (by simp; omega)
      have hrest : [x].drop (width - begun.length) = [] := List.drop_eq_nil_of_le (by simp; omega)
      rw [hone, hrest, rowsFrom]
      split
      · simp [rowsFrom, rows]
      · simp [rowsFrom, rows]
  | cons y ys ih =>
      obtain ⟨k, hk⟩ : ∃ k, width - begun.length = k + 1 := ⟨width - begun.length - 1, by omega⟩
      rw [rowsFrom, hk, List.take_succ_cons, List.drop_succ_cons]
      split
      · rename_i hmore
        have hlen : width - (x :: begun).length = k := by rw [List.length_cons]; omega
        have hmore' : (x :: begun).length < width := hmore
        rw [ih y hmore', hlen, List.reverse_cons, List.append_assoc]
        rfl
      · have hfull : k = 0 := by omega
        rw [hfull, List.take_zero, List.drop_zero, List.reverse_cons]
        rfl

lemma rows_eq_cons (hwidth : 0 < width) (hxs : xs ≠ []) :
    rows width xs = xs.take width :: rows width (xs.drop width) := by
  cases xs with
  | nil => exact absurd rfl hxs
  | cons x xs => exact rowsFrom_cons x hwidth

lemma getElem?_rows (hwidth : 0 < width) (xs : List α) (i : ℕ) :
    (rows width xs)[i]? =
      if width * i < xs.length then some ((xs.drop (width * i)).take width) else none := by
  induction i generalizing xs with
  | zero =>
      cases xs with
      | nil => simp [rows, rowsFrom]
      | cons x xs => simp [rows_eq_cons hwidth]
  | succ i ih =>
      by_cases hxs : xs = []
      · simp [hxs, rows, rowsFrom]
      · rw [rows_eq_cons hwidth hxs, List.getElem?_cons_succ, ih, List.length_drop,
          List.drop_drop, Nat.mul_succ, Nat.add_comm width]
        simp only [Nat.lt_sub_iff_add_lt]

lemma mem_rows_iff (hwidth : 0 < width) :
    row ∈ rows width xs ↔
      ∃ i, width * i < xs.length ∧ row = (xs.drop (width * i)).take width := by
  rw [List.mem_iff_getElem?]
  refine exists_congr fun i => ?_
  rw [getElem?_rows hwidth, Option.ite_none_right_eq_some, Option.some.injEq, eq_comm (a := row)]

/-- A list whose length is a multiple of the width has so many rows. -/
lemma length_rows {k : ℕ} (hwidth : 0 < width) (hxs : xs.length = width * k) :
    (rows width xs).length = k := by
  induction k generalizing xs with
  | zero =>
      obtain rfl := List.eq_nil_of_length_eq_zero hxs
      rfl
  | succ k ih =>
      have hne : xs ≠ [] := by
        rintro rfl
        rw [Nat.mul_succ, List.length_nil] at hxs
        omega
      rw [rows_eq_cons hwidth hne, List.length_cons, ih]
      rw [List.length_drop, hxs, Nat.mul_succ, Nat.add_sub_cancel]

/-- All rows are full if the width divides the length. -/
lemma length_of_mem_rows {k : ℕ} (hwidth : 0 < width) (hxs : xs.length = width * k)
    (hrow : row ∈ rows width xs) : row.length = width := by
  obtain ⟨i, hi, rfl⟩ := (mem_rows_iff hwidth).1 hrow
  have hik : i < k := Nat.lt_of_mul_lt_mul_left (hxs ▸ hi)
  have hlast : width * (i + 1) ≤ width * k := Nat.mul_le_mul_left width hik
  rw [Nat.mul_succ] at hlast
  rw [List.length_take, List.length_drop, hxs]
  omega

/-- The elements that are not the first of their row are those whose number the width does
not divide. -/
lemma forall_mem_tail_rows (hwidth : 0 < width) (P : α → Prop) :
    (∀ row ∈ rows width xs, ∀ x ∈ row.tail, P x) ↔
      ∀ i x, xs[i]? = some x → i % width ≠ 0 → P x := by
  constructor
  · intro h i x hx hi
    have hlt : i < xs.length := (List.getElem?_eq_some_iff.1 hx).1
    have hdiv := Nat.div_add_mod i width
    have hmod := Nat.mod_lt i hwidth
    refine h _ ((mem_rows_iff hwidth).2 ⟨i / width, by omega, rfl⟩) x ?_
    rw [List.mem_iff_getElem?]
    refine ⟨i % width - 1, ?_⟩
    rw [List.getElem?_tail, List.getElem?_take_of_lt (by omega), List.getElem?_drop, ← hx]
    congr 1
    omega
  · intro h row hrow x hx
    obtain ⟨i, hi, rfl⟩ := (mem_rows_iff hwidth).1 hrow
    obtain ⟨j, hj⟩ := List.mem_iff_getElem?.1 hx
    rw [List.getElem?_tail] at hj
    have hlt : j + 1 < width := by
      have hlen := (List.getElem?_eq_some_iff.1 hj).1
      rw [List.length_take] at hlen
      omega
    rw [List.getElem?_take_of_lt hlt, List.getElem?_drop] at hj
    refine h _ x hj ?_
    rw [Nat.mul_add_mod, Nat.mod_eq_of_lt hlt]
    omega

end Rows

/-! ### Lines -/

variable {lines later : List (List UInt8)} {line rest : List UInt8}

lemma splitLines_joinLines_append (hlines : ∀ line ∈ lines, lineFeed ∉ line) :
    splitLines (joinLines lines ++ rest) = lines ++ splitLines rest := by
  induction lines with
  | nil => rfl
  | cons line lines ih =>
      have hline : lineFeed ∉ line := hlines line List.mem_cons_self
      have hinside : ∀ b ∈ line, (b == lineFeed) = false := by
        intro b hb
        rw [beq_eq_false_iff_ne]
        rintro rfl
        exact hline hb
      have hshape : joinLines (line :: lines) ++ rest
          = line ++ lineFeed :: (joinLines lines ++ rest) := by
        simp [joinLines]
      rw [hshape, splitLines, Text.pieces_append_cons _ hinside (beq_self_eq_true _)]
      exact congrArg (line :: ·) (ih fun l hl => hlines l (List.mem_cons_of_mem _ hl))

/-- Lines that were written are the first lines that are read, without their returns. -/
lemma linesOf_joinLines_append (rest : List UInt8) (hlines : ∀ line ∈ lines, lineFeed ∉ line) :
    linesOf (joinLines lines ++ rest) = lines.map withoutReturn ++ linesOf rest := by
  have hne : (splitLines rest).map withoutReturn ≠ [] := by
    rw [ne_eq, List.map_eq_nil_iff]
    exact Text.pieces_ne_nil _ _
  simp only [linesOf, splitLines_joinLines_append hlines, List.map_append]
  rw [List.getLast?_append_of_ne_nil _ hne]
  split
  · rw [List.dropLast_append_of_ne_nil hne]
  · rfl

lemma linesOf_joinLines (hlines : ∀ line ∈ lines, lineFeed ∉ line) :
    linesOf (joinLines lines) = lines.map withoutReturn := by
  have h := linesOf_joinLines_append [] hlines
  rwa [List.append_nil, show linesOf [] = [] from rfl, List.append_nil] at h

lemma joinLines_append (lines later : List (List UInt8)) :
    joinLines (lines ++ later) = joinLines lines ++ joinLines later :=
  List.flatMap_append

lemma withoutReturn_of_ne (h : line.getLast? ≠ some carriageReturn) :
    withoutReturn line = line := by
  rw [withoutReturn, if_neg h]

end Seismogram.Alphanumeric
