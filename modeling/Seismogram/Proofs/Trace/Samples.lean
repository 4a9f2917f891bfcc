/-
# What samples say in a header

A header that describes samples counts them (`sampleCount_describe`).  Beside their number it
has four real numbers of theirs, and nothing else follows from samples.
-/
import Mathlib.Tactic.Common
import Seismogram.Trace.Folder
import Seismogram.Proofs.Header.Slots
import Seismogram.Proofs.Trace.Encoding

namespace Seismogram

open Seismogram.Number

lemma Samples.toInt_count {samples : List Single} (hlen : samples.length ≤ 2147483647) :
    (count samples).toInt = samples.length := by
  rw [count, Nat.min_eq_left hlen, Int32.toInt_ofInt_of_le] <;> omega

namespace Header

variable {h k : Header} {samples : List Single}

lemma sampleCount_congr (heq : k.storedInteger countSlot = h.storedInteger countSlot) :
    k.sampleCount = h.sampleCount := by
  rw [sampleCount, sampleCount, integer?_congr heq]

lemma integers_setLastTime (count : Int32) : (h.setLastTime count).integers = h.integers := by
  rw [setLastTime]
  split <;> rfl

lemma text_setLastTime (count : Int32) : (h.setLastTime count).text = h.text := by
  rw [setLastTime]
  split <;> rfl

lemma storedReal_setLastTime (count : Int32) {slot : Fin 70} (hslot : endSlot ≠ slot) :
    (h.setLastTime count).storedReal slot = h.storedReal slot := by
  rw [setLastTime]
  split
  · rfl
  · rw [storedReal_setReal, if_neg hslot]
  · rfl

lemma describe_nil : h.describe [] = (((h.setInteger countSlot (some (Samples.count []))).setReal
    leastSlot none).setReal greatestSlot none).setReal meanSlot none :=
  rfl

lemma describe_of_ne_nil (hne : samples ≠ []) :
    h.describe samples = ((((h.setInteger countSlot (some (Samples.count samples))).setReal
      leastSlot (some (Samples.least samples))).setReal greatestSlot
      (some (Samples.greatest samples))).setReal meanSlot
      (some (Samples.mean samples))).setLastTime (Samples.count samples) := by
  rw [describe]
  exact if_neg (by simpa using hne)

lemma integers_describe :
    (h.describe samples).integers
      = (h.setInteger countSlot (some (Samples.count samples))).integers := by
  rcases eq_or_ne samples [] with rfl | hne
  · rfl
  · rw [describe_of_ne_nil hne, integers_setLastTime]
    rfl

lemma text_describe (samples : List Single) : (h.describe samples).text = h.text := by
  rcases eq_or_ne samples [] with rfl | hne
  · rfl
  · rw [describe_of_ne_nil hne, text_setLastTime]
    rfl

lemma storedInteger_countSlot_describe :
    (h.describe samples).storedInteger countSlot = Samples.count samples := by
  rw [storedInteger_congr integers_describe, storedInteger_setInteger, if_pos rfl, Option.getD_some]

/-- Samples are counted by the header that describes them. -/
lemma sampleCount_describe (hlen : samples.length ≤ 2147483647) :
    (h.describe samples).sampleCount = .ok samples.length := by
  rw [sampleCount_eq_ok_iff_stored, storedInteger_countSlot_describe]
  exact Or.inr (Samples.toInt_count hlen)

lemma storedInteger_describe {slot : Fin 40} (hslot : slot ≠ countSlot) :
    (h.describe samples).storedInteger slot = h.storedInteger slot := by
  rw [storedInteger_congr integers_describe, storedInteger_setInteger, if_neg (Ne.symm hslot)]

lemma storedReal_describe {slot : Fin 70} (hslot : slot ∉ Folder.sampleSlots) :
    (h.describe samples).storedReal slot = h.storedReal slot := by
  simp only [Folder.sampleSlots, List.mem_cons, List.not_mem_nil, or_false, not_or] at hslot
  obtain ⟨hleast, hgreatest, hmean, hend⟩ := hslot
  rcases eq_or_ne samples [] with rfl | hne
  · simp only [describe_nil, storedReal_setReal, if_neg (Ne.symm hleast),
      if_neg (Ne.symm hgreatest), if_neg (Ne.symm hmean), storedReal_setInteger]
  · rw [describe_of_ne_nil hne, storedReal_setLastTime _ (Ne.symm hend)]
    simp only [storedReal_setReal, if_neg (Ne.symm hleast), if_neg (Ne.symm hgreatest),
      if_neg (Ne.symm hmean), storedReal_setInteger]

end Header

end Seismogram
