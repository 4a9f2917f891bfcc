/-
# What is stored in a cell

There are few ways to store a value in a field, told by the cell of the field and the shape of
the value (`Stores`, `store_eq_ok_iff`).  What is put into the cell depends on the value alone,
and for an absolute time on the reference time as well (`Stores.again`).

The value that is read back is that value as the field keeps it (`canonical`), or nothing if
that is the sentinel (`Stores.value?_eq`).

A header is what its fields hold: the fields of the schema take up every slot, so two headers
that agree in the cells of all of them are the same (`eq_of_sameCell`).
-/
import Mathlib.Tactic.Common
import Seismogram.Proofs.Header.Stored
import Seismogram.Proofs.Number.Exact

namespace Seismogram

open Seismogram.Number Seismogram.Time Seismogram.Outcome

/-! ### Every slot belongs to a field -/

namespace Schema

lemma exists_realSlot (slot : Fin 70) : ∃ f ∈ fields, f.cell.realSlot? = some slot := by
  have hmem : slot.val ∈ List.range realSlots := List.mem_range.2 slot.isLt
  rw [← real_slots, List.mem_filterMap] at hmem
  obtain ⟨f, hf, hslot⟩ := hmem
  refine ⟨f, hf, ?_⟩
  cases hcell : f.cell <;> simp_all [Cell.realSlot?, Fin.ext_iff]

lemma exists_integerSlot (slot : Fin 40) : ∃ f ∈ fields, f.cell.integerSlot? = some slot := by
  have hmem : slot.val ∈ List.range integerSlots := List.mem_range.2 slot.isLt
  rw [← integer_slots, List.mem_filterMap] at hmem
  obtain ⟨f, hf, hslot⟩ := hmem
  refine ⟨f, hf, ?_⟩
  cases hcell : f.cell <;> simp_all [Cell.integerSlot?, Fin.ext_iff]

lemma exists_holdsByte {i : ℕ} (hi : i < 192) : ∃ f ∈ fields, f.cell.HoldsByte i := by
  have hmem : i / 8 ∈ List.range textSlots := by
    rw [List.mem_range, textSlots]
    omega
  rw [← text_slots, List.mem_flatMap] at hmem
  obtain ⟨f, hf, hslot⟩ := hmem
  refine ⟨f, hf, ?_⟩
  cases hcell : f.cell with
  | text span =>
      rw [hcell, List.mem_range'_1] at hslot
      simp only [Cell.HoldsByte, TextSpan.offset, TextSpan.width, textSlotWidth]
      omega
  | _ =>
      rw [hcell] at hslot
      exact absurd hslot List.not_mem_nil

end Schema

/-- A field of the kind can be given a value of the shape. -/
def Kind.takes : Kind → Shape → Bool
  | real, .real | real, .integer => true
  | relativeTime, .real | relativeTime, .integer | relativeTime, .time => true
  | integer, .integer => true
  | logical, .logical | logical, .integer | logical, .real => true
  | enumerated, .text | text, .text => true
  | _, _ => false

namespace Header

variable {h k l : Header} {c : Cell} {f g : Field} {v w : Value}

/-- Headers that agree in the cells of all fields are the same. -/
theorem eq_of_sameCell (hsame : ∀ f ∈ Schema.fields, SameCell f.cell h k) : k = h := by
  refine ext_slots (fun slot => ?_) (fun slot => ?_) (Vector.ext fun i hi => ?_)
  · obtain ⟨f, hf, hslot⟩ := Schema.exists_realSlot slot
    exact (hsame f hf).reals slot hslot
  · obtain ⟨f, hf, hslot⟩ := Schema.exists_integerSlot slot
    exact (hsame f hf).integers slot hslot
  · obtain ⟨f, hf, hbyte⟩ := Schema.exists_holdsByte hi
    have hbytes := (hsame f hf).text i hbyte
    rwa [Vector.getElem?_eq_getElem hi, Vector.getElem?_eq_getElem hi, Option.some.injEq]
      at hbytes

/-! ### The ways to store a value -/

/-- A header, a cell, a value that the cell takes, and the header with the value stored. -/
inductive Stores (h : Header) : Cell → Value → Header → Prop
  /-- A real number in a field of real numbers or relative times. -/
  | real {c : Cell} {slot : Fin 70} {x : Single} (hslot : c.realSlot? = some slot) :
    Stores h c (.real x) (h.setReal slot (some x))
  /-- An integer in such a field, rounded to a word. -/
  | rounded {c : Cell} {slot : Fin 70} {n : Int32} (hslot : c.realSlot? = some slot) :
    Stores h c (.integer n) (h.setReal slot (some (.ofInt n.toInt)))
  /-- An absolute time, as its distance from the reference time. -/
  | instant {slot : Fin 70} {t reference : Instant} (hreference : h.referenceTime = .ok reference) :
    Stores h (.relativeTime slot) (.time t)
      (h.setReal slot (some (secondsBetween t reference).narrow))
  /-- An integer in a field of integers. -/
  | integer {slot : Fin 40} {n : Int32} :
    Stores h (.integer slot) (.integer n) (h.setInteger slot (some n))
  /-- A truth value. -/
  | logical {slot : Fin 40} {b : Bool} :
    Stores h (.logical slot) (.logical b) (h.setLogical slot (some b))
  /-- An integer as a truth value. -/
  | integerTruth {slot : Fin 40} {n : Int32} :
    Stores h (.logical slot) (.integer n) (h.setLogical slot (some (n != 0)))
  /-- A real number as a truth value. -/
  | realTruth {slot : Fin 40} {x : Single} :
    Stores h (.logical slot) (.real x) (h.setLogical slot (some !(x.same (.zero false))))
  /-- The code of a symbol that the field accepts. -/
  | symbol {slot : Fin 40} {accepted : List String} {s : String} {code : Int32}
    (haccepted : s ∈ accepted) (hcode : Symbol.code? s = some code) :
    Stores h (.enumerated slot accepted) (.text s) (h.setInteger slot (some code))
  /-- Text in a field of text. -/
  | text {span : TextSpan} {s : String} : Stores h (.text span) (.text s) (h.setText span (some s))

lemma setSymbol_some_eq_ok_iff {name s : String} {slot : Fin 40} {accepted : List String} :
    h.setSymbol name slot accepted (some s) = .ok k ↔
      ∃ code, s ∈ accepted ∧ Symbol.code? s = some code ∧ k = h.setInteger slot (some code) := by
  simp only [setSymbol]
  by_cases hs : s ∈ accepted
  · rw [if_pos (List.contains_iff_mem.2 hs)]
    cases Symbol.code? s <;> simp [hs, eq_comm]
  · rw [if_neg (by simpa using hs)]
    simp [hs]

/-- A value is stored in one of these ways. -/
theorem store_eq_ok_iff : h.store f v = .ok k ↔ h.Stores f.cell v k := by
  constructor
  · intro hk
    unfold store at hk
    generalize f.cell = cell at hk ⊢
    split at hk
    case h_5 slot t =>
      rw [setInstant, bind_eq_ok_iff] at hk
      obtain ⟨reference, hreference, hk⟩ := hk
      obtain rfl := Except.ok.inj hk
      exact .instant hreference
    case h_10 =>
      obtain ⟨code, haccepted, hcode, rfl⟩ := setSymbol_some_eq_ok_iff.1 hk
      exact .symbol haccepted hcode
    case h_12 => exact absurd hk (by simp)
    all_goals obtain rfl := Except.ok.inj hk
    · exact .real rfl
    · exact .real rfl
    · exact .rounded rfl
    · exact .rounded rfl
    · exact .integer
    · exact .logical
    · exact .integerTruth
    · exact .realTruth
    · exact .text
  · intro hk
    unfold store
    generalize f.cell = cell at hk ⊢
    cases hk with
    | real hslot | rounded hslot => cases cell <;> cases hslot <;> rfl
    | instant hreference =>
        dsimp only
        rw [setInstant, hreference]
        rfl
    | symbol haccepted hcode =>
        exact setSymbol_some_eq_ok_iff.2 ⟨_, haccepted, hcode, rfl⟩
    | integer | logical | integerTruth | realTruth | text => rfl

/-! ### Cells of real numbers -/

lemma value?_of_realSlot {slot : Fin 70} (hslot : f.cell.realSlot? = some slot) :
    h.value? f = .ok ((h.real? slot).map .real) := by
  rw [value?]
  cases hcell : f.cell <;> rw [hcell] at hslot <;> cases hslot <;> rfl

lemma erase_of_realSlot {slot : Fin 70} (hslot : f.cell.realSlot? = some slot) :
    h.erase f = h.setReal slot none := by
  rw [erase]
  cases hcell : f.cell <;> rw [hcell] at hslot <;> cases hslot <;> rfl

/-! ### What is read back -/

/-- The value as a cell keeps it: integers become words of real numbers, and absolute times
their distance from the reference time; numbers become truth values, false only for zero, which
is a zero of either sign; and of text there remains what fits, without its padding. -/
def canonical (h : Header) : Cell → Value → Value
  | .real _, .integer n | .relativeTime _, .integer n => .real (.ofInt n.toInt)
  | .relativeTime _, .time t =>
    match h.referenceTime with
    | .ok reference => .ofDouble (secondsBetween t reference)
    | .error _ => .time t
  | .logical _, .integer n => .logical (n != 0)
  | .logical _, .real x => .logical !x.isZero
  | .text span, .text s => .text (String.ofList (unpadded (fitting span.width s.toList)))
  | _, v => v

/-- What is read from a cell after a value was stored in it. -/
def reading (h : Header) (c : Cell) (v : Value) : Option Value :=
  if isNullValue c.kind (h.canonical c v) then none else some (h.canonical c v)

lemma real?_setReal (slot : Fin 70) (x : Single) :
    (h.setReal slot (some x)).real? slot = if x = nullReal then none else some x := by
  rw [real?, storedReal_setReal, if_pos rfl, Option.getD_some]

lemma integer?_setInteger (slot : Fin 40) (n : Int32) :
    (h.setInteger slot (some n)).integer? slot = if n = nullInteger then none else some n := by
  rw [integer?, storedInteger_setInteger, if_pos rfl, Option.getD_some]

/-- A value that the cell keeps as a word of a real number is read as that word. -/
lemma reading_of_real {slot : Fin 70} {x : Single} (hslot : c.realSlot? = some slot)
    (hkept : h.canonical c v = .real x) :
    h.reading c v = (if x = nullReal then none else some x).map .real := by
  have hnull : isNullValue c.kind (.real x) = decide (x = nullReal) := by
    cases c <;> simp only [Cell.realSlot?, reduceCtorEq] at hslot <;> rfl
  rw [reading, hkept, hnull]
  by_cases hx : x = nullReal <;> simp [hx]

/-- A stored value is read back as the field keeps it. -/
theorem Stores.value?_eq (hf : f ∈ Schema.fields) (hk : h.Stores f.cell v k) :
    k.value? f = .ok (h.reading f.cell v) := by
  generalize hcell : f.cell = c at hk
  cases hk with
  | real hslot =>
      rw [value?_of_realSlot (hcell ▸ hslot), real?_setReal, reading_of_real hslot]
      cases c <;> cases hslot <;> rfl
  | rounded hslot =>
      rw [value?_of_realSlot (hcell ▸ hslot), real?_setReal, reading_of_real hslot]
      cases c <;> cases hslot <;> rfl
  | @instant slot t reference hreference =>
      have hslot : (Cell.relativeTime slot).realSlot? = some slot := rfl
      rw [value?_of_realSlot (hcell ▸ hslot), real?_setReal, reading_of_real hslot]
      simp only [canonical, hreference]
      rfl
  | @integer slot n =>
      simp only [value?, hcell, integer?_setInteger]
      by_cases hn : n = nullInteger <;> simp [hn, reading, canonical, isNullValue, Cell.kind]
  | logical =>
      simp only [value?, hcell, logical?_setLogical]
      rfl
  | integerTruth =>
      simp only [value?, hcell, logical?_setLogical]
      rfl
  | realTruth =>
      simp only [value?, hcell, logical?_setLogical, Floating.same_zero]
      rfl
  | @symbol slot accepted s code haccepted hcode =>
      have hcodes : (Symbol.code? s).bind Symbol.ofCode? = some s :=
        Symbol.accepted_have_codes f hf s (by rw [hcell]; exact haccepted)
      obtain ⟨k, hk, hread⟩ := setSymbol_of_accepted h f.name slot hcodes
        (List.contains_iff_mem.2 haccepted)
      obtain ⟨code', -, hcode', rfl⟩ := setSymbol_some_eq_ok_iff.1 hk
      obtain rfl := Option.some.inj (hcode.symm.trans hcode')
      simp only [value?, hcell, hread]
      rfl
  | @text span s =>
      simp only [value?, hcell, text?_setText]
      -- text is null with its padding or without
      have hnull : isNullText (unpadded (fitting span.width s.toList)) =
          isNullText (fitting span.width s.toList) := isNullText_congr (unpadded_unpadded _)
      simp only [reading, canonical, isNullValue, Cell.kind, String.toList_ofList, hnull]
      split_ifs <;> rfl

/-- A field made null is read as nothing. -/
theorem value?_erase (hf : f ∈ Schema.fields) : (h.erase f).value? f = .ok none := by
  have hinteger (slot : Fin 40) : (h.setInteger slot none).integer? slot = none := by
    rw [integer?_eq_none_iff, storedInteger_setInteger, if_pos rfl, Option.getD_none]
  have hreal {slot : Fin 70} (hslot : f.cell.realSlot? = some slot) :
      (h.erase f).value? f = .ok none := by
    rw [erase_of_realSlot hslot, value?_of_realSlot hslot, real?_eq_none_iff.2, Option.map_none]
    rw [storedReal_setReal, if_pos rfl, Option.getD_none]
  cases hcell : f.cell with
  | real slot | relativeTime slot => exact hreal (by rw [hcell]; rfl)
  | integer slot =>
      simp only [erase, value?, hcell, hinteger, Option.map_none]
  | logical slot =>
      simp only [erase, value?, hcell, logical?, hinteger]
      rfl
  | enumerated slot accepted =>
      simp only [erase, value?, hcell, symbol?, hinteger]
      rfl
  | text span =>
      obtain ⟨n, rfl⟩ := exists_textName hf hcell
      have hslots : 0 < n.span.slots := by cases n <;> exact Nat.succ_pos _
      simp only [erase, value?, hcell, text?_setText_none hslots, Option.map_none]

/-! ### Values that are refused -/

/-- A value of a shape that the kind does not take is refused. -/
lemma store_of_not_takes (hshape : f.kind.takes v.shape = false) :
    h.store f v = .error (.wrongShape f.name f.kind v.shape) := by
  rw [Field.kind] at hshape ⊢
  unfold store
  generalize f.cell = c at hshape ⊢
  cases c <;> cases v <;> first | rfl | exact absurd hshape.symm Bool.false_ne_true

/-- A symbol that the field does not accept is refused. -/
lemma store_of_not_accepted {slot : Fin 40} {accepted : List String} {s : String}
    (hcell : f.cell = .enumerated slot accepted) (hs : s ∉ accepted) :
    h.store f (.text s) = .error (.symbolNotAccepted f.name s) := by
  have hcontains : accepted.contains s = false := by simpa using hs
  simp only [store, hcell, setSymbol, hcontains, Bool.false_eq_true, if_false]

/-! ### The same stored in two headers -/

lemma sameCell_setReal {slot : Fin 70} (hc : c.realSlot? = some slot) (x : Option Single) :
    SameCell c (h.setReal slot x) (k.setReal slot x) where
  reals other hother := by
    obtain rfl := Option.some.inj (hc.symm.trans hother)
    simp only [storedReal_setReal, if_pos]
  integers _ hother := by cases c <;> simp [Cell.realSlot?, Cell.integerSlot?] at hc hother
  text _ hi := by cases c <;> simp [Cell.realSlot?, Cell.HoldsByte] at hc hi

lemma sameCell_setInteger {slot : Fin 40} (hc : c.integerSlot? = some slot) (n : Option Int32) :
    SameCell c (h.setInteger slot n) (k.setInteger slot n) where
  reals _ hother := by cases c <;> simp [Cell.realSlot?, Cell.integerSlot?] at hc hother
  integers other hother := by
    obtain rfl := Option.some.inj (hc.symm.trans hother)
    simp only [storedInteger_setInteger, if_pos]
  text _ hi := by cases c <;> simp [Cell.integerSlot?, Cell.HoldsByte] at hc hi

lemma sameCell_setText (span : TextSpan) (s : Option String) :
    SameCell (.text span) (h.setText span s) (k.setText span s) where
  reals _ hslot := absurd hslot (by simp [Cell.realSlot?])
  integers _ hslot := absurd hslot (by simp [Cell.integerSlot?])
  text i hi := by
    obtain ⟨hfirst, hlast⟩ := hi
    have hbyte (h' : Header) : (h'.setText span s).text[i]? =
        (paddedText span.width ((s.map String.toList).getD nullWord))[i - span.offset]? := by
      rw [← textBytes_setText (h := h'), getElem?_textBytes span (by omega),
        Nat.add_sub_cancel' hfirst]
    rw [hbyte, hbyte]

/-- What can be stored in one header can be stored in another, and puts the same into the cell;
for an absolute time only if the reference time is the same. -/
theorem Stores.again (hk : h.Stores c v k)
    (hreference : ∀ t, v = .time t → l.referenceTime = h.referenceTime) :
    ∃ k', l.Stores c v k' ∧ SameCell c k k' := by
  cases hk with
  | real hslot => exact ⟨_, .real hslot, sameCell_setReal hslot _⟩
  | rounded hslot => exact ⟨_, .rounded hslot, sameCell_setReal hslot _⟩
  | instant hknown =>
      rw [← hreference _ rfl] at hknown
      exact ⟨_, .instant hknown, sameCell_setReal rfl _⟩
  | integer => exact ⟨_, .integer, sameCell_setInteger rfl _⟩
  | logical => exact ⟨_, .logical, sameCell_setInteger rfl _⟩
  | integerTruth => exact ⟨_, .integerTruth, sameCell_setInteger rfl _⟩
  | realTruth => exact ⟨_, .realTruth, sameCell_setInteger rfl _⟩
  | symbol haccepted hcode => exact ⟨_, .symbol haccepted hcode, sameCell_setInteger rfl _⟩
  | text => exact ⟨_, .text, sameCell_setText _ _⟩

end Header

end Seismogram
