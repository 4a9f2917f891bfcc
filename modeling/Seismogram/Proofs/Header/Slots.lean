/-
# Slots as cells

What is stored in a slot is read from it, and no other slot notices.  Headers with the same
slots are the same.
-/
import Mathlib.Tactic.Common
import Seismogram.Header.Basic

namespace Seismogram.Header

open Seismogram.Number

variable {h k : Header}

lemma ext_slots (hreals : ∀ slot, h.storedReal slot = k.storedReal slot)
    (hintegers : ∀ slot, h.storedInteger slot = k.storedInteger slot)
    (htext : h.text = k.text) : h = k := by
  obtain ⟨reals, integers, text⟩ := h
  obtain ⟨reals', integers', text'⟩ := k
  rw [mk.injEq]
  refine ⟨?_, ?_, htext⟩
  · ext i hi
    exact hreals ⟨i, hi⟩
  · ext i hi
    exact hintegers ⟨i, hi⟩

/-! ### Real numbers -/

lemma storedReal_setReal (a b : Fin 70) (x : Option Single) :
    (h.setReal a x).storedReal b = if a = b then x.getD nullReal else h.storedReal b := by
  simp only [storedReal, setReal, Fin.getElem_fin, Vector.getElem_set, Fin.ext_iff]

lemma storedReal_copyReal (a b : Fin 70) :
    (h.copyReal k a).storedReal b = if a = b then k.storedReal b else h.storedReal b := by
  have hset : h.copyReal k a = h.setReal a (some (k.storedReal a)) := rfl
  rw [hset, storedReal_setReal]
  split
  · rename_i hab
    rw [hab, Option.getD_some]
  · rfl

@[simp] lemma integers_copyReal (slot : Fin 70) :
    (h.copyReal k slot).integers = h.integers := rfl

@[simp] lemma text_copyReal (slot : Fin 70) : (h.copyReal k slot).text = h.text := rfl

lemma storedReal_congr (heq : h.reals = k.reals) (slot : Fin 70) :
    h.storedReal slot = k.storedReal slot := by
  rw [storedReal, storedReal, heq]

lemma real?_eq_none_iff {slot : Fin 70} : h.real? slot = none ↔ h.storedReal slot = nullReal := by
  simp [real?]

lemma real?_eq_some_iff {slot : Fin 70} {x : Single} :
    h.real? slot = some x ↔ x ≠ nullReal ∧ h.storedReal slot = x := by
  rw [real?]
  split
  · rename_i hnull
    rw [hnull]
    simp only [reduceCtorEq, false_iff, not_and]
    exact fun hx heq => hx heq.symm
  · rename_i hsome
    rw [Option.some.injEq]
    exact ⟨fun heq => ⟨heq ▸ hsome, heq⟩, And.right⟩

/-- A slot is read by its word alone. -/
lemma real?_congr {slot : Fin 70} (heq : h.storedReal slot = k.storedReal slot) :
    h.real? slot = k.real? slot := by
  rw [real?, real?, heq]

/-! ### Integers -/

lemma storedInteger_setInteger (a b : Fin 40) (n : Option Int32) :
    (h.setInteger a n).storedInteger b =
      if a = b then n.getD nullInteger else h.storedInteger b := by
  simp only [storedInteger, setInteger, Fin.getElem_fin, Vector.getElem_set, Fin.ext_iff]

lemma storedReal_setInteger (a : Fin 40) (b : Fin 70) (n : Option Int32) :
    (h.setInteger a n).storedReal b = h.storedReal b := rfl

lemma storedInteger_copyInteger (a b : Fin 40) :
    (h.copyInteger k a).storedInteger b =
      if a = b then k.storedInteger b else h.storedInteger b := by
  have hset : h.copyInteger k a = h.setInteger a (some (k.storedInteger a)) := rfl
  rw [hset, storedInteger_setInteger]
  split
  · rename_i hab
    rw [hab, Option.getD_some]
  · rfl

@[simp] lemma storedReal_copyInteger (a : Fin 40) (b : Fin 70) :
    (h.copyInteger k a).storedReal b = h.storedReal b := rfl

@[simp] lemma text_copyInteger (slot : Fin 40) : (h.copyInteger k slot).text = h.text := rfl

lemma storedInteger_congr (heq : h.integers = k.integers) (slot : Fin 40) :
    h.storedInteger slot = k.storedInteger slot := by
  rw [storedInteger, storedInteger, heq]

lemma integer?_eq_none_iff {slot : Fin 40} :
    h.integer? slot = none ↔ h.storedInteger slot = nullInteger := by
  simp [integer?]

lemma integer?_eq_some_iff {slot : Fin 40} {n : Int32} :
    h.integer? slot = some n ↔ n ≠ nullInteger ∧ h.storedInteger slot = n := by
  rw [integer?]
  split
  · rename_i hnull
    rw [hnull]
    simp only [reduceCtorEq, false_iff, not_and]
    exact fun hn heq => hn heq.symm
  · rename_i hsome
    rw [Option.some.injEq]
    exact ⟨fun heq => ⟨heq ▸ hsome, heq⟩, And.right⟩

lemma integer?_congr {slot : Fin 40} (heq : h.storedInteger slot = k.storedInteger slot) :
    h.integer? slot = k.integer? slot := by
  rw [integer?, integer?, heq]

end Seismogram.Header
