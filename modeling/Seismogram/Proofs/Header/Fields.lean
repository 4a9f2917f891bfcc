/-
# Fields kept apart

The schema gives every slot to one field, so the cells of two fields have nothing in common
(`Schema.apart`).  What is stored in one field is therefore not seen in another
(`EqExceptCell.sameCell`), and a field is read by its own cell alone (`value?_congr`).
-/
import Mathlib.Tactic.Common
import Seismogram.Header.Name
import Seismogram.Proofs.Header.Cells

namespace Seismogram

open Seismogram.Number Seismogram.Time Seismogram.Outcome

/-! ### Cells that are apart -/

/-- Two cells have nothing in common. -/
structure Cell.Apart (c d : Cell) : Prop where
  reals : ∀ slot, c.realSlot? = some slot → d.realSlot? ≠ some slot
  integers : ∀ slot, c.integerSlot? = some slot → d.integerSlot? ≠ some slot
  text : ∀ i, c.HoldsByte i → ¬d.HoldsByte i

namespace Schema

variable {f g : Field}

/-- Where the images are lists without repetition together, an element is in the image of one
member. -/
lemma eq_of_nodup_flatMap {α β : Type} {image : α → List β} {xs : List α}
    (hnodup : (xs.flatMap image).Nodup) {a b : α} (ha : a ∈ xs) (hb : b ∈ xs) {s : β}
    (hsa : s ∈ image a) (hsb : s ∈ image b) : a = b := by
  induction xs with
  | nil => exact absurd ha List.not_mem_nil
  | cons x rest ih =>
    rw [List.flatMap_cons] at hnodup
    obtain ⟨-, hrest, hapart⟩ := List.nodup_append.1 hnodup
    rcases List.mem_cons.1 ha with rfl | hatail <;> rcases List.mem_cons.1 hb with rfl | hbtail
    · rfl
    · exact absurd rfl (hapart s hsa s (List.mem_flatMap.2 ⟨b, hbtail, hsb⟩))
    · exact absurd rfl (hapart s hsb s (List.mem_flatMap.2 ⟨a, hatail, hsa⟩))
    · exact ih hrest hatail hbtail

lemma eq_of_nodup_filterMap {α β : Type} {image : α → Option β} {xs : List α}
    (hnodup : (xs.filterMap image).Nodup) {a b : α} (ha : a ∈ xs) (hb : b ∈ xs) {s : β}
    (hsa : image a = some s) (hsb : image b = some s) : a = b := by
  rw [List.filterMap_eq_flatMap_toList] at hnodup
  exact eq_of_nodup_flatMap hnodup ha hb (Option.mem_toList.2 hsa) (Option.mem_toList.2 hsb)

lemma eq_of_realSlot? (hf : f ∈ fields) (hg : g ∈ fields) {slot : Fin 70}
    (hfslot : f.cell.realSlot? = some slot) (hgslot : g.cell.realSlot? = some slot) : f = g := by
  refine eq_of_nodup_filterMap (real_slots ▸ List.nodup_range) hf hg (s := slot.val) ?_ ?_
  · cases hcell : f.cell <;> simp_all [Cell.realSlot?]
  · cases hcell : g.cell <;> simp_all [Cell.realSlot?]

lemma eq_of_integerSlot? (hf : f ∈ fields) (hg : g ∈ fields) {slot : Fin 40}
    (hfslot : f.cell.integerSlot? = some slot) (hgslot : g.cell.integerSlot? = some slot) :
    f = g := by
  refine eq_of_nodup_filterMap (integer_slots ▸ List.nodup_range) hf hg (s := slot.val) ?_ ?_
  · cases hcell : f.cell <;> simp_all [Cell.integerSlot?]
  · cases hcell : g.cell <;> simp_all [Cell.integerSlot?]

/-- A cell that holds a byte is text over the slot of the byte. -/
lemma exists_span_of_holdsByte {c : Cell} {i : ℕ} (hbyte : c.HoldsByte i) :
    ∃ span, c = .text span ∧ i / 8 ∈ List.range' span.first span.slots := by
  cases c with
  | text span =>
    simp only [Cell.HoldsByte, TextSpan.offset, TextSpan.width, textSlotWidth] at hbyte
    exact ⟨span, rfl, List.mem_range'_1.2 (by omega)⟩
  | _ => exact hbyte.elim

lemma eq_of_holdsByte (hf : f ∈ fields) (hg : g ∈ fields) {i : ℕ} (hfbyte : f.cell.HoldsByte i)
    (hgbyte : g.cell.HoldsByte i) : f = g := by
  obtain ⟨span, hfspan, hfmem⟩ := exists_span_of_holdsByte hfbyte
  obtain ⟨other, hgspan, hgmem⟩ := exists_span_of_holdsByte hgbyte
  refine eq_of_nodup_flatMap (text_slots ▸ List.nodup_range) hf hg (s := i / 8) ?_ ?_
  · rw [hfspan]
    exact hfmem
  · rw [hgspan]
    exact hgmem

/-- The cells of two fields have nothing in common. -/
lemma apart (hf : f ∈ fields) (hg : g ∈ fields) (hne : f ≠ g) : f.cell.Apart g.cell where
  reals _ hslot hslot' := hne (eq_of_realSlot? hf hg hslot hslot')
  integers _ hslot hslot' := hne (eq_of_integerSlot? hf hg hslot hslot')
  text _ hbyte hbyte' := hne (eq_of_holdsByte hf hg hbyte hbyte')

/-- A cell that the schema gives to another name is apart. -/
lemma apart_of_name (hf : f ∈ fields) {name : String} {c : Cell}
    (hc : (find? name).map Field.cell = some c) (hne : f.name ≠ name) : f.cell.Apart c := by
  obtain ⟨g, hg, rfl⟩ := Option.map_eq_some_iff.1 hc
  obtain ⟨hmem, rfl⟩ := find?_eq_some hg
  exact apart hf hmem fun heq => hne (heq ▸ rfl)

/-- A name of a real number or a relative time has its slot in either case. -/
lemma exists_realName (n : RealName) :
    ∃ f, find? n.name = some f ∧ f.cell.realSlot? = some n.slot := by
  rcases n.find?_name with hc | hc <;>
    obtain ⟨f, hf, hcell⟩ := Option.map_eq_some_iff.1 hc <;>
    exact ⟨f, hf, by rw [hcell]; rfl⟩

/-- A field with the slot of a name has that name. -/
lemma name_of_realName (hf : f ∈ fields) (n : RealName)
    (hslot : f.cell.realSlot? = some n.slot) : f.name = n.name := by
  obtain ⟨g, hg, hgslot⟩ := exists_realName n
  obtain ⟨hmem, hname⟩ := find?_eq_some hg
  rw [eq_of_realSlot? hf hmem hslot hgslot, hname]

lemma name_of_integerName (hf : f ∈ fields) (n : IntegerName)
    (hslot : f.cell.integerSlot? = some n.slot) : f.name = n.name := by
  obtain ⟨g, hg, hcell⟩ := Option.map_eq_some_iff.1 n.find?_name
  obtain ⟨hmem, hname⟩ := find?_eq_some hg
  rw [eq_of_integerSlot? hf hmem hslot (by rw [hcell]; rfl), hname]

lemma name_mem_of_realSlot (names : List RealName) (hf : f ∈ fields) {slot : Fin 70}
    (hslot : f.cell.realSlot? = some slot) (hmem : slot ∈ names.map RealName.slot) :
    f.name ∈ names.map RealName.name := by
  obtain ⟨n, hn, rfl⟩ := List.mem_map.1 hmem
  exact List.mem_map.2 ⟨n, hn, (name_of_realName hf n hslot).symm⟩

lemma name_mem_of_integerSlot (names : List IntegerName) (hf : f ∈ fields) {slot : Fin 40}
    (hslot : f.cell.integerSlot? = some slot) (hmem : slot ∈ names.map IntegerName.slot) :
    f.name ∈ names.map IntegerName.name := by
  obtain ⟨n, hn, rfl⟩ := List.mem_map.1 hmem
  exact List.mem_map.2 ⟨n, hn, (name_of_integerName hf n hslot).symm⟩

end Schema

namespace Header

variable {h k l : Header} {c d : Cell}

/-! ### Headers that agree in a cell -/

/-- Two headers have the same in a cell. -/
structure SameCell (c : Cell) (h k : Header) : Prop where
  reals : ∀ slot, c.realSlot? = some slot → k.storedReal slot = h.storedReal slot
  integers : ∀ slot, c.integerSlot? = some slot → k.storedInteger slot = h.storedInteger slot
  text : ∀ i : ℕ, c.HoldsByte i → k.text[i]? = h.text[i]?

lemma SameCell.refl (c : Cell) (h : Header) : SameCell c h h :=
  ⟨fun _ _ => rfl, fun _ _ => rfl, fun _ _ => rfl⟩

lemma SameCell.symm (hk : SameCell c h k) : SameCell c k h where
  reals slot hslot := (hk.reals slot hslot).symm
  integers slot hslot := (hk.integers slot hslot).symm
  text i hi := (hk.text i hi).symm

lemma SameCell.trans (hk : SameCell c h k) (hl : SameCell c k l) : SameCell c h l where
  reals slot hslot := (hl.reals slot hslot).trans (hk.reals slot hslot)
  integers slot hslot := (hl.integers slot hslot).trans (hk.integers slot hslot)
  text i hi := (hl.text i hi).trans (hk.text i hi)

/-- A change of one cell is not seen in a cell that is apart from it. -/
lemma EqExceptCell.sameCell (hk : EqExceptCell d h k) (hapart : c.Apart d) : SameCell c h k where
  reals slot hslot := hk.reals slot (hapart.reals slot hslot)
  integers slot hslot := hk.integers slot (hapart.integers slot hslot)
  text i hi := hk.text i (hapart.text i hi)

lemma length_textBytes (span : TextSpan) : (h.textBytes span).length = span.width := by
  have hfits := span.fits
  rw [textSlots] at hfits
  rw [textBytes, List.length_take, List.length_drop, Vector.length_toList, TextSpan.offset,
    TextSpan.width, textSlotWidth]
  omega

lemma getElem?_textBytes (span : TextSpan) {i : ℕ} (hi : i < span.width) :
    (h.textBytes span)[i]? = h.text[span.offset + i]? := by
  rw [textBytes, List.getElem?_take_of_lt hi, List.getElem?_drop, Vector.getElem?_toList]

lemma textBytes_congr {span : TextSpan} (hsame : SameCell (.text span) h k) :
    k.textBytes span = h.textBytes span := by
  refine List.ext_getElem? fun i => ?_
  rcases Nat.lt_or_ge i span.width with hi | hi
  · rw [getElem?_textBytes span hi, getElem?_textBytes span hi]
    exact hsame.text _ ⟨Nat.le_add_right _ _, Nat.add_lt_add_left hi _⟩
  · rw [List.getElem?_eq_none (by rwa [length_textBytes]),
      List.getElem?_eq_none (by rwa [length_textBytes])]

lemma text?_congr {span : TextSpan} (heq : k.textBytes span = h.textBytes span) :
    k.text? span = h.text? span := by
  rw [text?, text?, rawText, rawText, heq]

/-- A field is read by its own cell alone. -/
lemma value?_congr {f : Field} (hsame : SameCell f.cell h k) : k.value? f = h.value? f := by
  rw [value?, value?]
  cases hcell : f.cell with
  | real slot =>
      rw [hcell] at hsame
      dsimp only
      rw [real?_congr (hsame.reals slot rfl)]
  | relativeTime slot =>
      rw [hcell] at hsame
      dsimp only
      rw [real?_congr (hsame.reals slot rfl)]
  | integer slot =>
      rw [hcell] at hsame
      dsimp only
      rw [integer?_congr (hsame.integers slot rfl)]
  | logical slot =>
      rw [hcell] at hsame
      dsimp only
      simp only [logical?, integer?_congr (hsame.integers slot rfl)]
  | enumerated slot accepted =>
      rw [hcell] at hsame
      dsimp only
      simp only [symbol?, integer?_congr (hsame.integers slot rfl)]
  | text span =>
      rw [hcell] at hsame
      dsimp only
      rw [text?_congr (textBytes_congr hsame)]

end Header

end Seismogram
