/-
# Words in columns

Words that stand at the right of columns are read back one by one if there is a blank
between any two of them, that is, if each but the first is shorter than its column.  A word
that fills its column runs on from the word before it, and then there are fewer words than
columns: the number of words tells whether the columns are apart (`length_words_columns`).
-/
import Mathlib.Data.List.Basic
import Mathlib.Tactic.Common
import Seismogram.Decimal.Positional
import Seismogram.Text.Blank

namespace Seismogram.Text

open Seismogram.Decimal (rightAligned)

variable {c : Char} {word begun rest : List Char} {tokens : List (List Char)} {width : ℕ}

/-! ### Characters -/

/-- The character has a mark of its own in ASCII. -/
def isGraphic (c : Char) : Bool := decide (0x20 < c.toNat ∧ c.toNat < 0x7F)

lemma isBlank_of_isGraphic (h : isGraphic c = true) : isBlank c = false := by
  simp only [isGraphic, decide_eq_true_eq] at h
  simp only [isBlank, inRanges, blankRanges, List.any_cons, List.any_nil, Bool.or_false,
    Bool.or_eq_false_iff, Bool.and_eq_false_iff, decide_eq_false_iff_not]
  omega

lemma isGraphic_of_isDigit (h : c.isDigit = true) : isGraphic c = true := by
  rw [Char.isDigit_iff_toNat] at h
  have hzero : '0'.toNat = 48 := rfl
  have hnine : '9'.toNat = 57 := rfl
  rw [isGraphic, decide_eq_true_eq]
  omega

/-! ### Words -/

/-- A word has characters, and none of them is a blank. -/
structure IsWord (word : List Char) : Prop where
  ne_nil : word ≠ []
  inside : ∀ c ∈ word, isBlank c = false

/-- The characters of a word are added to those that were begun. -/
lemma wordsFrom_append (hword : ∀ c ∈ word, isBlank c = false) :
    wordsFrom begun (word ++ rest) = wordsFrom (word.reverse ++ begun) rest := by
  induction word generalizing begun with
  | nil => rfl
  | cons c cs ih =>
      have hc : isBlank c = false := hword c List.mem_cons_self
      rw [List.cons_append, wordsFrom, hc, if_neg (by decide),
        ih fun d hd => hword d (List.mem_cons_of_mem c hd), List.reverse_cons, List.append_assoc]
      rfl

lemma wordsFrom_nil_replicate (k : ℕ) :
    wordsFrom [] (List.replicate k ' ' ++ rest) = wordsFrom [] rest := by
  induction k with
  | zero => rfl
  | succ k ih =>
      rw [List.replicate_succ, List.cons_append, wordsFrom, if_pos (by decide), List.isEmpty_nil,
        if_pos rfl, ih]

/-- Blanks end a word that was begun. -/
lemma wordsFrom_replicate {k : ℕ} (hbegun : begun ≠ []) (hk : k ≠ 0) :
    wordsFrom begun (List.replicate k ' ' ++ rest) = begun.reverse :: wordsFrom [] rest := by
  obtain ⟨j, rfl⟩ := Nat.exists_eq_succ_of_ne_zero hk
  rw [List.replicate_succ, List.cons_append, wordsFrom, if_pos (by decide),
    List.isEmpty_eq_false_iff.2 hbegun, if_neg (by decide), wordsFrom_nil_replicate]

/-! ### Columns -/

/-- After a column in which a word was begun, a shorter word begins a new one. -/
lemma wordsFrom_column_of_lt (hbegun : begun ≠ []) (hword : IsWord word) (h : word.length < width) :
    wordsFrom begun (rightAligned width word ++ rest) =
      begun.reverse :: wordsFrom word.reverse rest := by
  rw [rightAligned, List.leftpad, List.append_assoc, wordsFrom_replicate hbegun (by omega),
    wordsFrom_append hword.inside, List.append_nil]

/-- A word that fills its column goes on with the word before it. -/
lemma wordsFrom_column_of_le (hword : IsWord word) (h : width ≤ word.length) :
    wordsFrom begun (rightAligned width word ++ rest) = wordsFrom (word.reverse ++ begun) rest := by
  rw [rightAligned, List.leftpad, Nat.sub_eq_zero_of_le h, List.replicate_zero, List.nil_append,
    wordsFrom_append hword.inside]

lemma words_column_cons (hword : IsWord word) :
    words (rightAligned width word ++ rest) = wordsFrom word.reverse rest := by
  rw [words, rightAligned, List.leftpad, List.append_assoc, wordsFrom_nil_replicate,
    wordsFrom_append hword.inside, List.append_nil]

lemma wordsFrom_columns (hbegun : begun ≠ []) (hwords : ∀ t ∈ tokens, IsWord t)
    (hnarrow : ∀ t ∈ tokens, t.length < width) :
    wordsFrom begun (tokens.flatMap (rightAligned width)) = begun.reverse :: tokens := by
  induction tokens generalizing begun with
  | nil => rw [List.flatMap_nil, wordsFrom, List.isEmpty_eq_false_iff.2 hbegun, if_neg (by decide)]
  | cons t ts ih =>
      have ht := hwords t List.mem_cons_self
      rw [List.flatMap_cons, wordsFrom_column_of_lt hbegun ht (hnarrow t List.mem_cons_self),
        ih (by simpa using ht.ne_nil) (fun s hs => hwords s (List.mem_cons_of_mem t hs))
          fun s hs => hnarrow s (List.mem_cons_of_mem t hs), List.reverse_reverse]

/-- The words of columns that are apart are those that stand in them. -/
lemma words_columns (hwords : ∀ t ∈ tokens, IsWord t)
    (hnarrow : ∀ t ∈ tokens.tail, t.length < width) :
    words (tokens.flatMap (rightAligned width)) = tokens := by
  cases tokens with
  | nil => rfl
  | cons t ts =>
      have ht := hwords t List.mem_cons_self
      rw [List.flatMap_cons, words_column_cons ht, wordsFrom_columns (by simpa using ht.ne_nil)
        (fun s hs => hwords s (List.mem_cons_of_mem t hs)) hnarrow, List.reverse_reverse]

lemma length_wordsFrom_columns (hbegun : begun ≠ []) (hwords : ∀ t ∈ tokens, IsWord t) :
    (wordsFrom begun (tokens.flatMap (rightAligned width))).length =
      tokens.countP (fun t => decide (t.length < width)) + 1 := by
  induction tokens generalizing begun with
  | nil =>
      rw [List.flatMap_nil, wordsFrom, List.isEmpty_eq_false_iff.2 hbegun, if_neg (by decide)]
      rfl
  | cons t ts ih =>
      have ht := hwords t List.mem_cons_self
      have hlater : ∀ s ∈ ts, IsWord s := fun s hs => hwords s (List.mem_cons_of_mem t hs)
      rw [List.flatMap_cons, List.countP_cons]
      by_cases hnarrow : t.length < width
      · rw [wordsFrom_column_of_lt hbegun ht hnarrow, List.length_cons,
          ih (by simpa using ht.ne_nil) hlater, decide_eq_true hnarrow, if_pos rfl]
      · rw [wordsFrom_column_of_le ht (by omega), ih (by simp [hbegun]) hlater,
          decide_eq_false hnarrow, if_neg (by decide), Nat.add_zero]

/-- There are no more words than columns, and as many only if the columns are apart. -/
lemma length_words_columns (width : ℕ) (hwords : ∀ t ∈ tokens, IsWord t) :
    (words (tokens.flatMap (rightAligned width))).length ≤ tokens.length ∧
      ((words (tokens.flatMap (rightAligned width))).length = tokens.length →
        ∀ t ∈ tokens.tail, t.length < width) := by
  cases tokens with
  | nil => exact ⟨Nat.le_refl 0, fun _ t ht => absurd ht List.not_mem_nil⟩
  | cons t ts =>
      have ht := hwords t List.mem_cons_self
      rw [List.flatMap_cons, words_column_cons ht,
        length_wordsFrom_columns (by simpa using ht.ne_nil) fun s hs => hwords s (List.mem_cons_of_mem t hs), List.length_cons]
      refine ⟨Nat.succ_le_succ List.countP_le_length, fun heq s hs => ?_⟩
      have hall := List.countP_eq_length.1 (Nat.succ.inj heq)
      exact of_decide_eq_true (hall s hs)

end Seismogram.Text
