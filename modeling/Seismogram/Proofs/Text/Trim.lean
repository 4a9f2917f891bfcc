/-
# Texts without what surrounds them

What is trimmed off the end of a text is of the class that is dropped, and the rest is not changed
by trimming it again.  Trimming white space off both ends leaves the core of a text: white space is
all that was in front of it and behind it, and none is at its own ends (`IsCore`).  A text has one
core (`isCore_iff`), which is empty if the text is white space alone.
-/
import Mathlib.Data.List.TakeWhile
import Mathlib.Tactic.Common
import Seismogram.Text.Blank
import Seismogram.Text.Utf8

namespace Seismogram.Text

variable {dropped : Char → Bool} {text padding core : List Char}

/-! ### At the end -/

lemma trimEnd_append (text : List Char) (hpadding : ∀ c ∈ padding, dropped c = true) :
    trimEnd dropped (text ++ padding) = trimEnd dropped text := by
  rw [trimEnd, trimEnd, List.reverse_append, List.dropWhile_append_of_pos]
  exact fun c hc => hpadding c (List.mem_reverse.1 hc)

/-- What is trimmed off the end is of the class. -/
lemma exists_trimEnd_append (dropped : Char → Bool) (text : List Char) :
    ∃ padding, (∀ c ∈ padding, dropped c = true) ∧ trimEnd dropped text ++ padding = text := by
  refine ⟨(text.reverse.takeWhile dropped).reverse, fun c hc => ?_, ?_⟩
  · exact List.mem_takeWhile_imp (List.mem_reverse.1 hc)
  · rw [trimEnd, ← List.reverse_append, List.takeWhile_append_dropWhile, List.reverse_reverse]

lemma trimEnd_trimEnd : trimEnd dropped (trimEnd dropped text) = trimEnd dropped text := by
  obtain ⟨padding, hpadding, htext⟩ := exists_trimEnd_append dropped text
  have hagain := trimEnd_append (trimEnd dropped text) hpadding
  rw [htext] at hagain
  exact hagain.symm

lemma length_utf8_trimEnd_le (dropped : Char → Bool) (text : List Char) :
    (utf8 (trimEnd dropped text)).length ≤ (utf8 text).length := by
  obtain ⟨padding, -, htext⟩ := exists_trimEnd_append dropped text
  have hlength := congrArg List.length (congrArg utf8 htext)
  rw [utf8_append, List.length_append] at hlength
  omega

/-- What is left does not begin with anything of the class, if it is taken off the front. -/
lemma head?_dropWhile (dropped : Char → Bool) (text : List Char) :
    ∀ c ∈ (text.dropWhile dropped).head?, dropped c = false := by
  intro c hc
  have hfirst := List.head?_dropWhile_not dropped text
  rw [hc] at hfirst
  simpa using hfirst

lemma getLast?_trimEnd (dropped : Char → Bool) (text : List Char) :
    ∀ c ∈ (trimEnd dropped text).getLast?, dropped c = false := by
  intro c hc
  rw [trimEnd, List.getLast?_reverse] at hc
  exact head?_dropWhile dropped text.reverse c hc

/-! ### At both ends -/

/-- The core of a text: what white space surrounds, itself without white space at its ends. -/
structure IsCore (text core : List Char) : Prop where
  around : ∃ before after, text = before ++ core ++ after ∧
    (∀ c ∈ before, isBlank c = true) ∧ ∀ c ∈ after, isBlank c = true
  first : ∀ c ∈ core.head?, isBlank c = false
  last : ∀ c ∈ core.getLast?, isBlank c = false

lemma isCore_trim (text : List Char) : IsCore text (trim text) := by
  obtain ⟨after, hafter, hrest⟩ := exists_trimEnd_append isBlank (text.dropWhile isBlank)
  refine ⟨⟨text.takeWhile isBlank, after, ?_, fun c hc => List.mem_takeWhile_imp hc, hafter⟩, ?_,
    getLast?_trimEnd _ _⟩
  · rw [List.append_assoc, trim, hrest, List.takeWhile_append_dropWhile]
  · intro c hc
    refine head?_dropWhile isBlank text c ?_
    rw [trim] at hc
    rw [← hrest, List.head?_append, Option.mem_def.1 hc]
    rfl

/-- A text has one core. -/
lemma isCore_iff : IsCore text core ↔ core = trim text := by
  constructor
  · rintro ⟨⟨before, after, rfl, hbefore, hafter⟩, hfirst, hlast⟩
    rw [trim, List.append_assoc, List.dropWhile_append_of_pos hbefore]
    cases core with
    | nil =>
        have hnone : after.dropWhile isBlank = [] := List.dropWhile_eq_nil_iff.2 hafter
        rw [List.nil_append, hnone]
        rfl
    | cons c cs =>
        have hc : isBlank c = false := hfirst c rfl
        rw [List.cons_append, List.dropWhile_cons_of_neg (by simp [hc]), ← List.cons_append,
          trimEnd_append _ hafter, trimEnd_eq_self hlast]
  · rintro rfl
    exact isCore_trim text

end Seismogram.Text
