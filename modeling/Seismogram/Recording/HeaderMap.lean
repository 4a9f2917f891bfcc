/-
# Header values by name

A map from names to values is kept as a list in the order of the names, each name once.
Names are ordered by their characters, which is the order of their bytes as well.
-/
import Seismogram.Header.Value

namespace Seismogram

/-- Names in rising order. -/
def InOrder (entries : List (String × Value)) : Prop :=
  entries.Pairwise fun a b => a.1 < b.1

/-- Values by name. -/
structure HeaderMap where
  /-- The names with their values. -/
  entries : List (String × Value)
  /-- The names rise. -/
  inOrder : InOrder entries

namespace HeaderMap

/-- A list of entries with a value for a name, in place of the value it had. -/
def insertEntry (name : String) (v : Value) :
    List (String × Value) → List (String × Value)
  | [] => [(name, v)]
  | (n, w) :: rest =>
    if name = n then (name, v) :: rest
    else if name < n then (name, v) :: (n, w) :: rest
    else (n, w) :: insertEntry name v rest

theorem mem_insertEntry {name : String} {v : Value} {entries : List (String × Value)}
    {e : String × Value} (h : e ∈ insertEntry name v entries) : e = (name, v) ∨ e ∈ entries := by
  induction entries with
  | nil => simpa [insertEntry] using h
  | cons a rest ih =>
    obtain ⟨n, w⟩ := a
    rw [insertEntry] at h
    split at h
    · rcases List.mem_cons.1 h with h | h
      · exact .inl h
      · exact .inr (List.mem_cons_of_mem _ h)
    split at h
    · exact (List.mem_cons.1 h).imp id id
    · rcases List.mem_cons.1 h with h | h
      · exact .inr (by simp [h])
      · exact (ih h).imp id (List.mem_cons_of_mem _)

theorem inOrder_insertEntry (name : String) (v : Value) {entries : List (String × Value)}
    (h : InOrder entries) : InOrder (insertEntry name v entries) := by
  induction entries with
  | nil => exact List.pairwise_singleton ..
  | cons a rest ih =>
    obtain ⟨n, w⟩ := a
    obtain ⟨first, later⟩ := List.pairwise_cons.1 h
    rw [insertEntry]
    split
    · rename_i equal
      subst equal
      exact List.pairwise_cons.2 ⟨first, later⟩
    split
    · rename_i less
      refine List.pairwise_cons.2 ⟨fun e he => ?_, h⟩
      rcases List.mem_cons.1 he with rfl | he
      · exact less
      · exact String.lt_trans less (first e he)
    · rename_i different notLess
      have more : n < name := by
        rcases String.le_total n name with le | le
        · exact Decidable.byContradiction fun notMore =>
            different (String.le_antisymm (String.not_lt.1 notMore) le)
        · exact absurd (String.le_antisymm le (String.not_lt.1 notLess)) different
      refine List.pairwise_cons.2 ⟨fun e he => ?_, ih later⟩
      rcases mem_insertEntry he with rfl | he
      · exact more
      · exact first e he

/-- The map without entries. -/
def empty : HeaderMap := ⟨[], List.Pairwise.nil⟩

/-- The map with a value for a name, in place of the value it had. -/
def insert (m : HeaderMap) (name : String) (v : Value) : HeaderMap :=
  ⟨insertEntry name v m.entries, inOrder_insertEntry name v m.inOrder⟩

/-- The map of a list of entries, where a later entry takes the place of an earlier one of
the same name. -/
def ofList (entries : List (String × Value)) : HeaderMap :=
  entries.foldl (fun m (name, v) => m.insert name v) empty

/-- The value of a name. -/
def get? (m : HeaderMap) (name : String) : Option Value :=
  (m.entries.find? (·.1 == name)).map Prod.snd

end HeaderMap

end Seismogram
