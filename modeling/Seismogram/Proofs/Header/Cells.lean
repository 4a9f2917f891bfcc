/-
# Fields as cells

A field that is stored or made null changes nothing outside its own cell
(`eqExceptCell_store`, `eqExceptCell_erase`), whatever is stored and in whatever way.  Which
names belong to the cells that other parts of the library depend on is read off the schema.
-/
import Mathlib.Tactic.Common
import Seismogram.Header.Access
import Seismogram.Proofs.Header.Slots
import Seismogram.Proofs.Outcome

namespace Seismogram

open Seismogram.Number Seismogram.Time Seismogram.Outcome

/-! ### The slots of a cell -/

namespace Cell

/-- The slot of a cell that holds a real number. -/
def realSlot? : Cell → Option (Fin 70)
  | real slot | relativeTime slot => some slot
  | _ => none

/-- The slot of a cell that holds an integer. -/
def integerSlot? : Cell → Option (Fin 40)
  | integer slot | logical slot | enumerated slot _ => some slot
  | _ => none

/-- The text byte with number `i` belongs to the cell. -/
def HoldsByte : Cell → Nat → Prop
  | text span, i => span.offset ≤ i ∧ i < span.offset + span.width
  | _, _ => False

end Cell

/-! ### Text that is padded -/

lemma length_utf8_fitting_le (width : Nat) (text : List Char) :
    (Text.utf8 (fitting width text)).length ≤ width := by
  induction text generalizing width with
  | nil => exact Nat.zero_le _
  | cons c cs ih =>
      rw [fitting]
      split
      · rename_i hfits
        have hrest := ih (width - c.utf8Size)
        rw [Text.utf8_cons, List.length_append, String.length_utf8EncodeChar]
        omega
      · exact Nat.zero_le _

lemma length_paddedText (width : Nat) (text : List Char) :
    (paddedText width text).length = width := by
  have hfits := length_utf8_fitting_le width text
  rw [paddedText, List.rightpad, List.length_append, List.length_replicate]
  omega

lemma getElem?_overwrite {n : Nat} (old : Vector UInt8 n) (offset : Nat) (new : List UInt8)
    {i : Nat} (hi : i < offset ∨ offset + new.length ≤ i) :
    (overwrite old offset new)[i]? = old[i]? := by
  rw [overwrite, Vector.getElem?_ofFn]
  split
  · rename_i hlt
    rw [Vector.getElem?_eq_getElem hlt, Option.some.injEq]
    rcases hi with hbefore | hbehind
    · exact if_neg (Nat.not_le_of_lt hbefore)
    · dsimp only
      rw [List.getElem?_eq_none (by omega), Option.getD_none, ite_self]
      rfl
  · rename_i hge
    exact (Vector.getElem?_eq_none (Nat.le_of_not_lt hge)).symm

/-! ### Headers that differ in one cell -/

namespace Header

/-- Two headers differ at most in one cell. -/
structure EqExceptCell (c : Cell) (h k : Header) : Prop where
  reals : ∀ slot, c.realSlot? ≠ some slot → k.storedReal slot = h.storedReal slot
  integers : ∀ slot, c.integerSlot? ≠ some slot → k.storedInteger slot = h.storedInteger slot
  text : ∀ i : Nat, ¬c.HoldsByte i → k.text[i]? = h.text[i]?

variable {h k : Header} {c : Cell}

lemma eqExceptCell_setReal {slot : Fin 70} (hc : c.realSlot? = some slot) (x : Option Single) :
    EqExceptCell c h (h.setReal slot x) where
  reals other hother := by
    rw [storedReal_setReal, if_neg]
    rintro rfl
    exact hother hc
  integers _ _ := rfl
  text _ _ := rfl

lemma eqExceptCell_setInteger {slot : Fin 40} (hc : c.integerSlot? = some slot)
    (n : Option Int32) : EqExceptCell c h (h.setInteger slot n) where
  reals _ _ := rfl
  integers other hother := by
    rw [storedInteger_setInteger, if_neg]
    rintro rfl
    exact hother hc
  text _ _ := rfl

lemma text_setText (span : TextSpan) (s : Option String) :
    (h.setText span s).text = overwrite h.text span.offset
      (paddedText span.width ((s.map String.toList).getD nullWord)) := by
  rw [setText]

lemma reals_setText (span : TextSpan) (s : Option String) :
    (h.setText span s).reals = h.reals := by
  rw [setText]

lemma integers_setText (span : TextSpan) (s : Option String) :
    (h.setText span s).integers = h.integers := by
  rw [setText]

lemma eqExceptCell_setText (span : TextSpan) (s : Option String) :
    EqExceptCell (.text span) h (h.setText span s) where
  reals slot _ := storedReal_congr (reals_setText span s) slot
  integers slot _ := storedInteger_congr (integers_setText span s) slot
  text i hi := by
    rw [text_setText]
    refine getElem?_overwrite h.text span.offset _ ?_
    rw [length_paddedText]
    by_contra hinside
    rw [not_or, Nat.not_lt, Nat.not_le] at hinside
    exact hi hinside

lemma eqExceptCell_setSymbol {name : String} {slot : Fin 40} {accepted : List String}
    {symbol : Option String} (hk : h.setSymbol name slot accepted symbol = .ok k) :
    EqExceptCell (.enumerated slot accepted) h k := by
  unfold setSymbol at hk
  split at hk
  · obtain rfl := Except.ok.inj hk
    exact eqExceptCell_setInteger rfl none
  · split at hk
    · obtain rfl := Except.ok.inj hk
      exact eqExceptCell_setInteger rfl _
    · exact absurd hk (by simp)

lemma eqExceptCell_setInstant {slot : Fin 70} {t : Instant} (hk : h.setInstant slot t = .ok k) :
    EqExceptCell (.relativeTime slot) h k := by
  rw [setInstant, bind_eq_ok_iff] at hk
  obtain ⟨reference, -, hk⟩ := hk
  obtain rfl := Except.ok.inj hk
  exact eqExceptCell_setReal rfl _

/-- Storing a value changes nothing outside the cell of the field. -/
lemma eqExceptCell_store {f : Field} {v : Value} (hk : h.store f v = .ok k) :
    EqExceptCell f.cell h k := by
  unfold store at hk
  generalize f.cell = cell at hk ⊢
  split at hk
  case h_5 => exact eqExceptCell_setInstant hk
  case h_10 => exact eqExceptCell_setSymbol hk
  case h_12 => exact absurd hk (by simp)
  all_goals obtain rfl := Except.ok.inj hk
  · exact eqExceptCell_setReal rfl _
  · exact eqExceptCell_setReal rfl _
  · exact eqExceptCell_setReal rfl _
  · exact eqExceptCell_setReal rfl _
  · exact eqExceptCell_setInteger rfl _
  · exact eqExceptCell_setInteger rfl _
  · exact eqExceptCell_setInteger rfl _
  · exact eqExceptCell_setInteger rfl _
  · exact eqExceptCell_setText _ _

/-- Neither does making it null. -/
lemma eqExceptCell_erase (h : Header) (f : Field) : EqExceptCell f.cell h (h.erase f) := by
  rw [erase]
  cases f.cell with
  | real slot => exact eqExceptCell_setReal rfl none
  | relativeTime slot => exact eqExceptCell_setReal rfl none
  | integer slot => exact eqExceptCell_setInteger rfl none
  | logical slot => exact eqExceptCell_setInteger rfl none
  | enumerated slot accepted => exact eqExceptCell_setInteger rfl none
  | text span => exact eqExceptCell_setText span none

end Header

/-! ### Names and cells -/

namespace Schema

variable {name : String} {f : Field}

lemma find?_eq_some (hf : find? name = some f) : f ∈ fields ∧ f.name = name :=
  ⟨List.mem_of_find?_eq_some hf, by simpa using List.find?_some hf⟩

lemma field_eq_ok_iff : field name = .ok f ↔ find? name = some f := by
  rw [field]
  cases find? name <;> simp

/-- The number of samples is kept by one field alone. -/
lemma name_of_countSlot :
    ∀ f ∈ fields, f.cell.integerSlot? = some Header.countSlot → f.name = "npts" := by
  decide +kernel

end Schema

/-! ### Slots by name -/

namespace Header

variable {name : String}

lemma realSlot_eq_ok_iff {slot : Fin 70} :
    realSlot name = .ok slot ↔
      ∃ f, Schema.find? name = some f ∧ f.cell.realSlot? = some slot := by
  simp only [realSlot, bind_eq_ok_iff, Schema.field_eq_ok_iff]
  refine exists_congr fun f => and_congr_right fun _ => ?_
  cases f.cell <;> simp [Cell.realSlot?]

lemma relativeTimeSlot_eq_ok_iff {slot : Fin 70} :
    relativeTimeSlot name = .ok slot ↔
      ∃ f, Schema.find? name = some f ∧ f.cell = .relativeTime slot := by
  simp only [relativeTimeSlot, bind_eq_ok_iff, Schema.field_eq_ok_iff]
  refine exists_congr fun f => and_congr_right fun _ => ?_
  cases f.cell <;> simp

lemma integerSlot_eq_ok_iff {slot : Fin 40} :
    integerSlot name = .ok slot ↔ ∃ f, Schema.find? name = some f ∧ f.cell = .integer slot := by
  simp only [integerSlot, bind_eq_ok_iff, Schema.field_eq_ok_iff]
  refine exists_congr fun f => and_congr_right fun _ => ?_
  cases f.cell <;> simp

lemma logicalSlot_eq_ok_iff {slot : Fin 40} :
    logicalSlot name = .ok slot ↔ ∃ f, Schema.find? name = some f ∧ f.cell = .logical slot := by
  simp only [logicalSlot, bind_eq_ok_iff, Schema.field_eq_ok_iff]
  refine exists_congr fun f => and_congr_right fun _ => ?_
  cases f.cell <;> simp

lemma symbolSlot_eq_ok_iff {slot : Fin 40} {accepted : List String} :
    symbolSlot name = .ok (slot, accepted) ↔
      ∃ f, Schema.find? name = some f ∧ f.cell = .enumerated slot accepted := by
  simp only [symbolSlot, bind_eq_ok_iff, Schema.field_eq_ok_iff]
  refine exists_congr fun f => and_congr_right fun _ => ?_
  cases f.cell <;> simp

lemma textSpan_eq_ok_iff {span : TextSpan} :
    textSpan name = .ok span ↔ ∃ f, Schema.find? name = some f ∧ f.cell = .text span := by
  simp only [textSpan, bind_eq_ok_iff, Schema.field_eq_ok_iff]
  refine exists_congr fun f => and_congr_right fun _ => ?_
  cases f.cell <;> simp

end Header

end Seismogram
