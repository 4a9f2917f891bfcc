/-
# Three ways to a field

A field with a name of a known kind is reached in three ways: by the name with its kind, by the
text of the name as one kind, and by the text of the name as any kind.  What distinguishes an
operation that names a field is the name and what it stores in a header (`Operation.edit_congr`),
since what follows the storing depends on the field.  So it is enough that the three ways store
the same and read the same in a header, which they do because the schema gives a name the slot
that the name with its kind has.
-/
import Mathlib.Tactic.Common
import Seismogram.Proofs.Header.Content
import Seismogram.Proofs.Trace.Storing

namespace Seismogram

open Seismogram.Number Seismogram.Outcome

/-! ### Operations that store the same -/

/-- Operations that name the same field and store the same in every header are the same edit. -/
theorem Operation.edit_congr {op op' : Operation} {name : String} (hname : op.field? = some name)
    (hname' : op'.field? = some name) (hstore : ∀ h, op.store h = op'.store h) :
    op.edit = op'.edit := by
  funext t
  rcases storing hname t with ⟨e, he, hedit⟩ | ⟨f, h, hf, hh, -, hedit⟩ <;>
    rcases storing hname' t with ⟨e', he', hedit'⟩ | ⟨f', h', hf', hh', -, hedit'⟩ <;>
    rw [hedit, hedit']
  · rw [hstore, he'] at he
    rw [Except.error.inj he]
  · rw [hstore, hh'] at he
    exact absurd he (by simp)
  · rw [hstore, he'] at hh
    exact absurd hh (by simp)
  · -- both have the same field, so what follows the storing is the same as well
    rw [hstore, hh'] at hh
    rw [Except.ok.inj hh, Option.some.inj (hf.symm.trans hf')]

/-! ### Ways that agree -/

/-- The field of a name is read and set by functions for the name, by functions for its kind
that are given the name, and as any kind; all of them agree, on values, on null and on errors. -/
structure SameAccess {α : Type} (name : String) (wrap : α → Value)
    (get getByName : Header → Except Error (Option α)) (set setByName : Option α → Edit Unit) :
    Prop where
  store : ∀ x, set (some x) = setByName (some x) ∧ setByName (some x) = Edit.set name (wrap x)
  erase : set none = setByName none ∧ setByName none = Edit.clear name
  read : ∀ h, get h = getByName h ∧ (getByName h).map (Option.map wrap) = h.get name

namespace SameAccess

variable {name : String} {c : Cell}

/-- The setters agree if they store the same in a header. -/
lemma of_store {α : Type} {wrap : α → Value} {get getByName : Header → Except Error (Option α)}
    (assign byName : Option α → Operation) (hassign : ∀ x, (assign x).field? = some name)
    (hbyName : ∀ x, (byName x).field? = some name)
    (hkind : ∀ x h, (assign x).store h = (byName x).store h)
    (hset : ∀ x h, (byName (some x)).store h = (Operation.set name (wrap x)).store h)
    (hclear : ∀ h, (byName none).store h = (Operation.clear name).store h)
    (hread : ∀ h, get h = getByName h ∧ (getByName h).map (Option.map wrap) = h.get name) :
    SameAccess name wrap get getByName (fun x => (assign x).edit) fun x => (byName x).edit := by
  have hany (x : α) : (byName (some x)).edit = (Operation.set name (wrap x)).edit :=
    Operation.edit_congr (hbyName _) rfl (hset x)
  have hnull : (byName none).edit = (Operation.clear name).edit :=
    Operation.edit_congr (hbyName _) rfl hclear
  exact
    { store := fun x => ⟨Operation.edit_congr (hassign _) (hbyName _) (hkind _), hany x⟩
      erase := ⟨Operation.edit_congr (hassign _) (hbyName _) (hkind _), hnull⟩
      read := hread }

/-- The field of a name whose cell is known. -/
lemma exists_field (hname : (Schema.find? name).map Field.cell = some c) :
    ∃ f, Schema.find? name = some f ∧ Schema.field name = .ok f ∧ f.cell = c ∧ f.name = name := by
  obtain ⟨f, hf, hcell⟩ := Option.map_eq_some_iff.1 hname
  exact ⟨f, hf, Schema.field_eq_ok_iff.2 hf, hcell, (Schema.find?_eq_some hf).2⟩

/-- Real numbers, relative times included. -/
lemma of_realSlot {slot : Fin 70} (hslot : Header.realSlot name = .ok slot)
    (assign : Option Single → Operation) (hassign : ∀ x, (assign x).field? = some name)
    (hstore : ∀ x h, (assign x).store h = .ok (h.setReal slot x)) :
    SameAccess name .real (fun h => .ok (h.real? slot)) (·.getReal name)
      (fun x => (assign x).edit) (Edit.setReal name) := by
  obtain ⟨f, hf, hcell⟩ := Header.realSlot_eq_ok_iff.1 hslot
  have hfield := Schema.field_eq_ok_iff.2 hf
  refine of_store assign (.setReal name) hassign (fun _ => rfl) ?_ ?_ ?_ ?_
  · intro x h
    rw [hstore, Operation.store, hslot, ok_bind]
  · intro x h
    rw [Operation.store, Operation.store, hslot, hfield, ok_bind, ok_bind]
    exact (Header.store_eq_ok_iff.2 (.real hcell)).symm
  · intro h
    rw [Operation.store, Operation.store, hslot, hfield, ok_bind, ok_bind,
      Header.erase_of_realSlot hcell]
  · intro h
    rw [Header.getReal, Header.get, hslot, hfield, ok_bind, ok_bind,
      Header.value?_of_realSlot hcell]
    exact ⟨rfl, rfl⟩

/-- Truth values. -/
lemma of_logical {slot : Fin 40}
    (hname : (Schema.find? name).map Field.cell = some (.logical slot))
    (assign : Option Bool → Operation) (hassign : ∀ b, (assign b).field? = some name)
    (hstore : ∀ b h, (assign b).store h = .ok (h.setLogical slot b)) :
    SameAccess name .logical (·.logical? name slot) (·.getLogical name)
      (fun b => (assign b).edit) (Edit.setLogical name) := by
  obtain ⟨f, hf, hfield, hcell, rfl⟩ := exists_field hname
  have hslot := Header.logicalSlot_eq_ok_iff.2 ⟨f, hf, hcell⟩
  refine of_store assign (.setLogical f.name) hassign (fun _ => rfl) ?_ ?_ ?_ ?_
  · intro b h
    rw [hstore, Operation.store, hslot, ok_bind]
  · intro b h
    rw [Operation.store, Operation.store, hslot, hfield, ok_bind, ok_bind]
    exact (Header.store_eq_ok_iff.2 (hcell ▸ .logical)).symm
  · intro h
    rw [Operation.store, Operation.store, hslot, hfield, ok_bind, ok_bind, Header.erase, hcell]
    rfl
  · intro h
    rw [Header.getLogical, Header.get, hslot, hfield, ok_bind, ok_bind, Header.value?, hcell]
    dsimp only
    refine ⟨rfl, ?_⟩
    cases h.logical? f.name slot <;> rfl

lemma integerName (n : IntegerName) :
    SameAccess n.name .integer (fun h => .ok (n.get h)) (·.getInteger n.name) n.set
      (Edit.setInteger n.name) := by
  obtain ⟨f, hf, hfield, hcell, hname⟩ := exists_field n.find?_name
  have hslot := Header.integerSlot_eq_ok_iff.2 ⟨f, hf, hcell⟩
  refine of_store (.assignInteger n) (.setInteger n.name) (fun _ => rfl) (fun _ => rfl) ?_ ?_ ?_ ?_
  · intro x h
    rw [Operation.store, Operation.store, hslot, ok_bind]
  · intro x h
    rw [Operation.store, Operation.store, hslot, hfield, ok_bind, ok_bind]
    exact (Header.store_eq_ok_iff.2 (hcell ▸ .integer)).symm
  · intro h
    rw [Operation.store, Operation.store, hslot, hfield, ok_bind, ok_bind, Header.erase, hcell]
  · intro h
    rw [Header.getInteger, Header.get, hslot, hfield, ok_bind, ok_bind, Header.value?, hcell]
    exact ⟨rfl, rfl⟩

lemma symbolName (n : SymbolName) :
    SameAccess n.name .text n.get (·.getSymbol n.name) n.set (Edit.setSymbol n.name) := by
  obtain ⟨f, hf, hfield, hcell, hname⟩ := exists_field n.find?_name
  have hslot := Header.symbolSlot_eq_ok_iff.2 ⟨f, hf, hcell⟩
  refine of_store (.assignSymbol n) (.setSymbol n.name) (fun _ => rfl) (fun _ => rfl) ?_ ?_ ?_ ?_
  · intro s h
    rw [Operation.store, Operation.store, hslot, ok_bind]
  · intro s h
    rw [Operation.store, Operation.store, hslot, hfield, ok_bind, ok_bind]
    simp only [Header.store, hcell, hname]
  · intro h
    rw [Operation.store, Operation.store, hslot, hfield, ok_bind, ok_bind, Header.erase, hcell]
    rfl
  · intro h
    rw [Header.getSymbol, Header.get, hslot, hfield, ok_bind, ok_bind, Header.value?, hcell, hname]
    dsimp only
    refine ⟨rfl, ?_⟩
    cases h.symbol? n.name n.slot n.accepted <;> rfl

lemma textName (n : TextName) :
    SameAccess n.name .text (fun h => .ok (n.get h)) (·.getText n.name) n.set
      (Edit.setText n.name) := by
  obtain ⟨f, hf, hfield, hcell, hname⟩ := exists_field n.find?_name
  have hspan := Header.textSpan_eq_ok_iff.2 ⟨f, hf, hcell⟩
  refine of_store (.assignText n) (.setText n.name) (fun _ => rfl) (fun _ => rfl) ?_ ?_ ?_ ?_
  · intro s h
    rw [Operation.store, Operation.store, hspan, ok_bind]
  · intro s h
    rw [Operation.store, Operation.store, hspan, hfield, ok_bind, ok_bind]
    exact (Header.store_eq_ok_iff.2 (hcell ▸ .text)).symm
  · intro h
    rw [Operation.store, Operation.store, hspan, hfield, ok_bind, ok_bind, Header.erase, hcell]
  · intro h
    rw [Header.getText, Header.get, hspan, hfield, ok_bind, ok_bind, Header.value?, hcell]
    exact ⟨rfl, rfl⟩

lemma realName (n : RealName) :
    SameAccess n.name .real (fun h => .ok (n.get h)) (·.getReal n.name) n.set
      (Edit.setReal n.name) := by
  obtain ⟨f, hf, hslot⟩ := Schema.exists_realName n
  exact of_realSlot (Header.realSlot_eq_ok_iff.2 ⟨f, hf, hslot⟩) (.assignReal n) (fun _ => rfl)
    fun _ _ => rfl

lemma coordinate (n : Coordinate) :
    SameAccess n.name .real (fun h => .ok (n.get h)) (·.getReal n.name) n.set
      (Edit.setReal n.name) := by
  obtain ⟨f, hf, -, hcell, -⟩ := exists_field n.find?_name
  exact of_realSlot (Header.realSlot_eq_ok_iff.2 ⟨f, hf, by rw [hcell]; rfl⟩)
    (.assignCoordinate n) (fun _ => rfl) fun _ _ => rfl

end SameAccess

/-- Every name with a kind gives the same access to its field as the text of the name, as one
kind and as any kind.  Coordinates and the flag `lcalda` bring the distances up to date in all
three ways. -/
theorem sameAccess :
    (∀ n : RealName, SameAccess n.name .real (fun h => .ok (n.get h)) (·.getReal n.name) n.set
      (Edit.setReal n.name)) ∧
    (∀ n : Coordinate, SameAccess n.name .real (fun h => .ok (n.get h)) (·.getReal n.name) n.set
      (Edit.setReal n.name)) ∧
    (∀ n : IntegerName, SameAccess n.name .integer (fun h => .ok (n.get h)) (·.getInteger n.name)
      n.set (Edit.setInteger n.name)) ∧
    (∀ n : FlagName, SameAccess n.name .logical n.get (·.getLogical n.name) n.set
      (Edit.setLogical n.name)) ∧
    SameAccess "lcalda" .logical (·.distancesFollow) (·.getLogical "lcalda")
      Edit.setDistancesFollow (Edit.setLogical "lcalda") ∧
    (∀ n : SymbolName, SameAccess n.name .text n.get (·.getSymbol n.name) n.set
      (Edit.setSymbol n.name)) ∧
    (∀ n : TextName, SameAccess n.name .text (fun h => .ok (n.get h)) (·.getText n.name) n.set
      (Edit.setText n.name)) :=
  ⟨.realName, .coordinate, .integerName,
    fun n => .of_logical n.find?_name (.assignFlag n) (fun _ => rfl) fun _ _ => rfl,
    .of_logical cell_lcalda .assignDistancesFollow (fun _ => rfl) fun _ _ => rfl,
    .symbolName, .textName⟩

end Seismogram
