/-
# Values of a map by name

A map gives each name at most one value, which is the one that its list has for the name
(`HeaderMap.get?_eq_some_iff`).  A map made of a list of distinct names gives the values of
the list (`HeaderMap.get?_ofList_eq_some_iff`).
-/
import Mathlib.Data.List.Nodup
import Mathlib.Tactic.Common
import Seismogram.Recording.HeaderMap

namespace Seismogram.HeaderMap

variable {m : HeaderMap} {name other : String} {v w : Value} {values : List (String × Value)}

lemma names_nodup (m : HeaderMap) : (m.entries.map Prod.fst).Nodup := by
  rw [List.Nodup, List.pairwise_map]
  refine m.inOrder.imp fun hlt heq => ?_
  rw [heq] at hlt
  exact String.lt_irrefl _ hlt

lemma get?_eq_some_iff : m.get? name = some v ↔ (name, v) ∈ m.entries := by
  rw [get?, Option.map_eq_some_iff]
  constructor
  · rintro ⟨⟨n, w⟩, hfound, rfl⟩
    obtain rfl : n = name := by simpa using List.find?_some hfound
    exact List.mem_of_find?_eq_some hfound
  · intro hmem
    rcases hfound : m.entries.find? (·.1 == name) with _ | ⟨n, w⟩
    · rw [List.find?_eq_none] at hfound
      exact absurd (beq_self_eq_true name) (hfound _ hmem)
    · obtain rfl : n = name := by simpa using List.find?_some hfound
      have hsame := List.inj_on_of_nodup_map m.names_nodup (List.mem_of_find?_eq_some hfound) hmem
      exact ⟨_, hfound, congrArg Prod.snd (hsame rfl)⟩

lemma find?_insertEntry (name other : String) (v : Value) (entries : List (String × Value)) :
    (insertEntry name v entries).find? (·.1 == other) =
      if other = name then some (name, v) else entries.find? (·.1 == other) := by
  induction entries with
  | nil =>
      rw [insertEntry]
      split_ifs with hother
      · simp [hother]
      · simp [Ne.symm hother]
  | cons first rest ih =>
      obtain ⟨n, w⟩ := first
      rw [insertEntry]
      by_cases hother : other = name
      · subst hother
        rw [if_pos rfl]
        split_ifs with hn hlt
        · simp
        · simp
        · simp [Ne.symm hn, ih]
      · rw [if_neg hother]
        split_ifs with hn hlt
        · subst hn
          simp [Ne.symm hother]
        · simp [Ne.symm hother]
        · rw [List.find?_cons, List.find?_cons, ih, if_neg hother]

lemma get?_insert (m : HeaderMap) (name other : String) (v : Value) :
    (m.insert name v).get? other = if other = name then some v else m.get? other := by
  rw [get?, insert, find?_insertEntry, get?]
  split_ifs <;> rfl

/-- Values inserted one after the other, of distinct names. -/
lemma get?_foldl_insert (hnodup : (values.map Prod.fst).Nodup) :
    (values.foldl (fun m (name, v) => m.insert name v) m).get? name = some v ↔
      (name, v) ∈ values ∨ (name ∉ values.map Prod.fst ∧ m.get? name = some v) := by
  induction values generalizing m with
  | nil => simp
  | cons first rest ih =>
      obtain ⟨n, w⟩ := first
      rw [List.map_cons, List.nodup_cons] at hnodup
      obtain ⟨hfirst, hrest⟩ := hnodup
      rw [List.foldl_cons, ih hrest, get?_insert, List.map_cons, List.mem_cons, List.mem_cons]
      by_cases hname : name = n
      · subst hname
        have hnot : (name, v) ∉ rest := fun hmem => hfirst (List.mem_map.2 ⟨_, hmem, rfl⟩)
        simp [hfirst, hnot, eq_comm]
      · simp [hname]

lemma get?_ofList_eq_some_iff (hnodup : (values.map Prod.fst).Nodup) :
    (ofList values).get? name = some v ↔ (name, v) ∈ values := by
  rw [ofList, get?_foldl_insert hnodup, get?, empty]
  simp

end Seismogram.HeaderMap
