/-
# Headers that can be read

A header is in its domain if every flag holds a truth value or the sentinel, every code is that
of a symbol which its field accepts or the sentinel, and all text is well formed
(`InDomain`).  Then every field can be read (`InDomain.exists_value?`).

Whether a cell is in its domain depends on nothing but the cell (`CellInDomain.congr`), and
whatever is put into a field, a value in any of the ways to store one or nothing, leaves its
cell in the domain (`Puts.cellInDomain`).  Hence a header stays in its domain when something is
put into a field (`InDomain.puts`), and also when other things than flags, codes and text change
(`InDomain.congr`).
-/
import Mathlib.Tactic.Common
import Seismogram.Proofs.Header.Content

namespace Seismogram

open Seismogram.Number Seismogram.Time Seismogram.Outcome

namespace Header

variable {h k : Header} {c : Cell} {f g : Field} {v : Value}

/-! ### The domain -/

/-- What a cell holds has a meaning: any word where words are kept, and text that is well formed
where text is. -/
def CellInDomain (h : Header) : Cell → Prop
  | .logical slot => h.storedInteger slot = 0 ∨ h.storedInteger slot = 1 ∨
      h.storedInteger slot = nullInteger
  | .enumerated slot accepted => h.storedInteger slot = nullInteger ∨
      ∃ s ∈ accepted, Symbol.code? s = some (h.storedInteger slot)
  | .text span => ∃ text, h.textBytes span = Text.utf8 text
  | _ => True

/-- What every field holds has a meaning. -/
def InDomain (h : Header) : Prop := ∀ f ∈ Schema.fields, h.CellInDomain f.cell

/-- A cell is in its domain by what it holds, and where it holds a number in any case. -/
lemma CellInDomain.congr (hc : h.CellInDomain c)
    (hinteger : c.kind ≠ .integer → ∀ slot, c.integerSlot? = some slot →
      k.storedInteger slot = h.storedInteger slot)
    (htext : ∀ span, c = .text span → k.textBytes span = h.textBytes span) :
    k.CellInDomain c := by
  cases c with
  | real | relativeTime | integer => trivial
  | logical slot =>
      simp only [CellInDomain, hinteger (by simp [Cell.kind]) slot rfl]
      exact hc
  | enumerated slot accepted =>
      simp only [CellInDomain, hinteger (by simp [Cell.kind]) slot rfl]
      exact hc
  | text span =>
      simp only [CellInDomain, htext span rfl]
      exact hc

/-! ### Reading -/

/-- A field in its domain can be read. -/
lemma exists_value? (hf : f ∈ Schema.fields) (hc : h.CellInDomain f.cell) :
    ∃ x, h.value? f = .ok x := by
  cases hcell : f.cell with
  | real slot | relativeTime slot | integer slot | text span =>
      simp only [value?, hcell]
      exact ⟨_, rfl⟩
  | logical slot =>
      rw [hcell] at hc
      have hread : ∃ b, h.logical? f.name slot = .ok b := by
        rw [logical?, integer?]
        rcases hc with hzero | hone | hnull
        · rw [hzero]
          exact ⟨_, rfl⟩
        · rw [hone]
          exact ⟨_, rfl⟩
        · rw [if_pos hnull]
          exact ⟨_, rfl⟩
      obtain ⟨b, hb⟩ := hread
      simp only [value?, hcell, hb]
      exact ⟨_, rfl⟩
  | enumerated slot accepted =>
      rw [hcell] at hc
      have hread : ∃ s, h.symbol? f.name slot accepted = .ok s := by
        rcases hc with hnull | ⟨s, hs, hcode⟩
        · rw [symbol?, integer?_eq_none_iff.2 hnull]
          exact ⟨_, rfl⟩
        · have hcodes : (Symbol.code? s).bind Symbol.ofCode? = some s :=
            Symbol.accepted_have_codes f hf s (by rw [hcell]; exact hs)
          rw [hcode, Option.bind_some] at hcodes
          have hne : h.storedInteger slot ≠ nullInteger := fun hnull => by
            rw [hnull, ofCode?_nullInteger] at hcodes
            exact absurd hcodes (by simp)
          refine ⟨some s, ?_⟩
          simp only [symbol?, integer?_eq_some_iff.2 ⟨hne, rfl⟩, hcodes,
            List.contains_iff_mem.2 hs, if_true]
      obtain ⟨s, hs⟩ := hread
      simp only [value?, hcell, hs]
      exact ⟨_, rfl⟩

/-! ### What is put into a field -/

/-- All that can be put into a field: nothing, or a value that it takes. -/
def Puts (h : Header) (f : Field) (k : Header) : Prop :=
  k = h.erase f ∨ ∃ v, h.Stores f.cell v k

lemma puts_of_store (hk : h.store f v = .ok k) : h.Puts f k := Or.inr ⟨v, store_eq_ok_iff.1 hk⟩

lemma puts_setReal {slot : Fin 70} (hslot : f.cell.realSlot? = some slot) (x : Option Single) :
    h.Puts f (h.setReal slot x) := by
  cases x with
  | none => exact Or.inl (erase_of_realSlot hslot).symm
  | some x => exact Or.inr ⟨_, .real hslot⟩

lemma puts_setInteger {slot : Fin 40} (hcell : f.cell = .integer slot) (n : Option Int32) :
    h.Puts f (h.setInteger slot n) := by
  rw [Puts, erase, hcell]
  cases n with
  | none => exact Or.inl rfl
  | some n => exact Or.inr ⟨_, .integer⟩

lemma puts_setLogical {slot : Fin 40} (hcell : f.cell = .logical slot) (b : Option Bool) :
    h.Puts f (h.setLogical slot b) := by
  rw [Puts, erase, hcell]
  cases b with
  | none => exact Or.inl rfl
  | some b => exact Or.inr ⟨_, .logical⟩

lemma puts_setSymbol {name : String} {slot : Fin 40} {accepted : List String}
    {symbol : Option String} (hcell : f.cell = .enumerated slot accepted)
    (hk : h.setSymbol name slot accepted symbol = .ok k) : h.Puts f k := by
  rw [Puts, erase, hcell]
  cases symbol with
  | none => exact Or.inl (Except.ok.inj hk).symm
  | some s =>
      obtain ⟨code, haccepted, hcode, rfl⟩ := setSymbol_some_eq_ok_iff.1 hk
      exact Or.inr ⟨_, .symbol haccepted hcode⟩

lemma puts_setText {span : TextSpan} (hcell : f.cell = .text span) (s : Option String) :
    h.Puts f (h.setText span s) := by
  rw [Puts, erase, hcell]
  cases s with
  | none => exact Or.inl rfl
  | some s => exact Or.inr ⟨_, .text⟩

lemma puts_setInstant {slot : Fin 70} {t : Instant} (hcell : f.cell = .relativeTime slot)
    (hk : h.setInstant slot t = .ok k) : h.Puts f k := by
  rw [setInstant, bind_eq_ok_iff] at hk
  obtain ⟨reference, hreference, hk⟩ := hk
  obtain rfl := Except.ok.inj hk
  rw [Puts, hcell]
  exact Or.inr ⟨_, .instant hreference⟩

/-- Something put into the field of a name whose cell is known. -/
lemma exists_puts {name : String} (hname : ∃ f, Schema.find? name = some f ∧ f.cell = c)
    (hk : ∀ f : Field, f.cell = c → h.Puts f k) : ∃ f, Schema.find? name = some f ∧ h.Puts f k := by
  obtain ⟨f, hf, hcell⟩ := hname
  exact ⟨f, hf, hk f hcell⟩

/-- Nothing outside of its cell changes. -/
lemma Puts.eqExceptCell (hk : h.Puts f k) : EqExceptCell f.cell h k := by
  rcases hk with rfl | ⟨v, hk⟩
  · exact eqExceptCell_erase h f
  · exact eqExceptCell_store (store_eq_ok_iff.2 hk)

/-! ### What keeps the domain -/

lemma storedInteger_setInteger_self (slot : Fin 40) (n : Option Int32) :
    (h.setInteger slot n).storedInteger slot = n.getD nullInteger := by
  rw [storedInteger_setInteger, if_pos rfl]

/-- A truth value is kept as 0 or 1. -/
lemma cellInDomain_setLogical (slot : Fin 40) (b : Option Bool) :
    (h.setLogical slot b).CellInDomain (.logical slot) := by
  rw [CellInDomain, setLogical, storedInteger_setInteger_self]
  cases b with
  | none => exact Or.inr (Or.inr rfl)
  | some b =>
      cases b
      · exact Or.inl rfl
      · exact Or.inr (Or.inl rfl)

/-- Text is cut off between two characters and padded with blanks, which leaves it well
formed. -/
lemma cellInDomain_setText (span : TextSpan) (s : Option String) :
    (h.setText span s).CellInDomain (.text span) := by
  obtain ⟨padding, -, hpadded⟩ := paddedText_eq span.width ((s.map String.toList).getD nullWord)
  exact ⟨_, (textBytes_setText span s).trans hpadded⟩

/-- The cell of a field is in its domain whatever was put into it. -/
lemma Puts.cellInDomain (hk : h.Puts f k) : k.CellInDomain f.cell := by
  rcases hk with rfl | ⟨v, hk⟩
  · rw [erase]
    cases f.cell with
    | real | relativeTime | integer => trivial
    | logical slot => exact cellInDomain_setLogical slot none
    | enumerated slot accepted => exact Or.inl (storedInteger_setInteger_self slot none)
    | text span => exact cellInDomain_setText span none
  · generalize f.cell = c at hk
    cases hk with
    | real hslot | rounded hslot => cases c <;> cases hslot <;> trivial
    | instant | integer => trivial
    | logical | integerTruth | realTruth => exact cellInDomain_setLogical _ _
    | @symbol slot accepted s code haccepted hcode =>
        exact Or.inr ⟨s, haccepted, by rw [storedInteger_setInteger_self]; exact hcode⟩
    | text => exact cellInDomain_setText _ _

namespace InDomain

/-- Something put into a field. -/
lemma puts (hh : h.InDomain) (hf : f ∈ Schema.fields) (hk : h.Puts f k) : k.InDomain := by
  intro g hg
  by_cases hgf : g = f
  · rw [hgf]
    exact hk.cellInDomain
  · have hsame := hk.eqExceptCell.sameCell (Schema.apart hg hf hgf)
    exact (hh g hg).congr (fun _ => hsame.integers) fun span hspan =>
      textBytes_congr (hspan ▸ hsame)

/-- Something put into the field of a name. -/
lemma puts_name (hh : h.InDomain) {name : String}
    (hk : ∃ f, Schema.find? name = some f ∧ h.Puts f k) : k.InDomain := by
  obtain ⟨f, hf, hk⟩ := hk
  exact hh.puts (Schema.find?_eq_some hf).1 hk

/-- Flags and codes have slots from 15 on, so it does not matter what becomes of real numbers
and of the integers before that. -/
lemma congr (hh : h.InDomain) (htext : k.text = h.text)
    (hintegers : ∀ slot : Fin 40, 15 ≤ slot → k.storedInteger slot = h.storedInteger slot) :
    k.InDomain := by
  have hlate : ∀ f ∈ Schema.fields, f.cell.kind ≠ .integer →
      ∀ slot ∈ f.cell.integerSlot?, 15 ≤ slot := by
    decide +kernel
  exact fun f hf => (hh f hf).congr
    (fun hkind slot hslot => hintegers slot (hlate f hf hkind slot hslot))
    fun span _ => by rw [textBytes, textBytes, htext]

/-- The field of a name that is known can be read. -/
lemma exists_get (hh : h.InDomain) (hf : f ∈ Schema.fields) : ∃ x, h.get f.name = .ok x := by
  obtain ⟨x, hx⟩ := exists_value? hf (hh f hf)
  refine ⟨x, ?_⟩
  rw [get, Schema.field_eq_ok_iff.2 (Schema.find?_name_of_mem hf), ok_bind, hx]

end InDomain

end Header

end Seismogram
