/-
# Fields as independent cells

A value that is stored by name is read back as the field keeps it, a field made null is read as
nothing, and no other field notices (`fields_independent`): neither its words or bytes nor what
is read from it.  The one exception is that the distances follow the coordinates and the flag
`lcalda`.  What no field can keep is refused, and then nothing changes at all.

The argument has three layers.  Storing changes one cell of the header, and the cells of two
fields have nothing in common.  What follows the storing changes the distances alone, and only
for five fields whose own cells are not among them.  Samples and byte order are not touched.
-/
import Mathlib.Tactic.Common
import Seismogram.Proofs.Header.Content
import Seismogram.Proofs.Trace.Storing

namespace Seismogram

open Seismogram.Number Seismogram.Time Seismogram.Outcome
open Header (EqExceptCell EqExceptDistances SameCell distanceNames distanceSlots)

/-- The names of the fields that bring the distances up to date. -/
def movingNames : List String := ["stla", "stlo", "evla", "evlo", "lcalda"]

namespace Trace

/-- Two traces differ at most in the cell of a field, and in the distances if these follow the
field.  Slots and bytes outside of the cell are the same, and so are the cells of the other
fields and what is read from them. -/
structure ChangedIn (f : Field) (t t' : Trace) : Prop where
  reals : ∀ slot, f.cell.realSlot? ≠ some slot → (f.name ∈ movingNames → slot ∉ distanceSlots) →
    t'.header.storedReal slot = t.header.storedReal slot
  integers : ∀ slot, f.cell.integerSlot? ≠ some slot →
    t'.header.storedInteger slot = t.header.storedInteger slot
  text : ∀ i : ℕ, ¬f.cell.HoldsByte i → t'.header.text[i]? = t.header.text[i]?
  others : ∀ g ∈ Schema.fields, g ≠ f → (f.name ∈ movingNames → g.name ∉ distanceNames) →
    SameCell g.cell t.header t'.header ∧ t'.header.get g.name = t.header.get g.name
  samples : t'.samples = t.samples
  order : t'.order = t.order

end Trace

/-! ### What follows the storing -/

section Following

variable {f g : Field} {c : Cell} {h : Header} {t t' : Trace}

/-- What follows the storing of a cell: nothing, or the distances are brought up to date. -/
lemma afterStoring_eq_ok (ht' : Edit.afterStoring c t = .ok () t') :
    ∃ k, t' = { t with header := k } ∧ EqExceptDistances t.header k ∧
      (Edit.movesDistances c = false → k = t.header) := by
  rw [Edit.afterStoring] at ht'
  split_ifs at ht' with hmoves
  · obtain ⟨k, hk, rfl⟩ := Edit.updateDistances_eq_ok_iff.1 ht'
    refine ⟨k, rfl, Header.eqExceptDistances_of_update hk, fun hother => ?_⟩
    exact absurd (hother.symm.trans hmoves) (by simp)
  · cases ht'
    exact ⟨t.header, rfl, .refl _, fun _ => rfl⟩

/-- It is not seen in a cell that holds no distance. -/
lemma sameCell_of_afterStoring (d : Cell) (ht' : Edit.afterStoring c t = .ok () t')
    (hd : Edit.movesDistances c = true → ∀ slot, d.realSlot? = some slot → slot ∉ distanceSlots) :
    SameCell d t.header t'.header := by
  obtain ⟨k, rfl, hk, hkept⟩ := afterStoring_eq_ok ht'
  cases hmoves : Edit.movesDistances c with
  | true =>
      exact
        { reals := fun slot hslot => hk.reals slot (hd hmoves slot hslot)
          integers := fun slot _ => hk.storedInteger_eq slot
          text := fun i _ => by rw [hk.text] }
  | false =>
      rw [hkept hmoves]
      exact .refl _ _

/-- No distance moves the distances. -/
lemma notMem_distanceSlots_of_moves (hmoves : Edit.movesDistances c = true) {slot : Fin 70}
    (hslot : c.realSlot? = some slot) : slot ∉ distanceSlots := by
  have hall : ∀ slot : Fin 70, Edit.movesDistances (.real slot) = true →
      slot ∉ distanceSlots := by
    decide
  cases c <;> cases hslot
  · exact hall slot hmoves
  · exact absurd hmoves (by simp [Edit.movesDistances])

/-- A change of one cell and what follows it are all that is seen of the storing of a field. -/
lemma changedIn_of_afterStoring (hf : f ∈ Schema.fields) (hcell : EqExceptCell f.cell t.header h)
    (ht' : Edit.afterStoring f.cell { t with header := h } = .ok () t') : t.ChangedIn f t' := by
  have hothers : ∀ g ∈ Schema.fields, g ≠ f → (f.name ∈ movingNames → g.name ∉ distanceNames) →
      SameCell g.cell t.header t'.header := by
    intro g hg hne hname
    refine (hcell.sameCell (Schema.apart hg hf hne)).trans (sameCell_of_afterStoring _ ht' ?_)
    intro hmoves slot hslot hmem
    exact hname (name_of_movesDistances f hf hmoves)
      (Schema.name_mem_of_realSlot [.dist, .az, .baz, .gcarc] hg hslot hmem)
  have hreals (slot : Fin 70) (hmoving : f.name ∈ movingNames → slot ∉ distanceSlots) :
      t'.header.storedReal slot = h.storedReal slot := by
    refine (sameCell_of_afterStoring (.real slot) ht' ?_).reals slot rfl
    rintro hmoves _ ⟨⟩
    exact hmoving (name_of_movesDistances f hf hmoves)
  -- integers, text and samples are no distances, whatever follows
  obtain ⟨k, rfl, hk, -⟩ := afterStoring_eq_ok ht'
  exact
    { reals := fun slot hslot hmoving => (hreals slot hmoving).trans (hcell.reals slot hslot)
      integers := fun slot hslot => (hk.storedInteger_eq slot).trans (hcell.integers slot hslot)
      text := fun i hi => by rw [hk.text]; exact hcell.text i hi
      others := fun g hg hne hname => by
        have hsame := hothers g hg hne hname
        have hfound := Schema.field_eq_ok_iff.2 (Schema.find?_name_of_mem hg)
        refine ⟨hsame, ?_⟩
        rw [Header.get, Header.get, hfound, ok_bind, ok_bind, Header.value?_congr hsame]
      samples := rfl
      order := rfl }

end Following

/-! ### Values stored by name -/

namespace Edit

variable {name : String} {v : Value} {t t' : Trace}

/-- A value stored by name is read back as the field keeps it, and no other field notices. -/
lemma reading_of_set (ht' : set name v t = .ok () t') :
    ∃ f, Schema.find? name = some f ∧ t'.header.get name = .ok (t.header.reading f.cell v) ∧
      (∀ i, v = .time i → ∃ reference, t.header.referenceTime = .ok reference) ∧
      t.ChangedIn f t' := by
  have hstoring : (Operation.set name v).Storing name t := Operation.storing_set v
  rcases hstoring with ⟨e, -, hedit⟩ | ⟨f, h, hf, hstore, hcell, hedit⟩
  · exact absurd (hedit.symm.trans ht') (by simp)
  · have hfield := Schema.field_eq_ok_iff.2 hf
    obtain ⟨hmem, -⟩ := Schema.find?_eq_some hf
    replace hedit := hedit.symm.trans ht'
    rw [Operation.store, hfield, ok_bind, Header.store_eq_ok_iff] at hstore
    refine ⟨f, hf, ?_, ?_, changedIn_of_afterStoring hmem hcell hedit⟩
    · have hsame := sameCell_of_afterStoring f.cell hedit fun hmoves _ =>
        notMem_distanceSlots_of_moves hmoves
      rw [Header.get, hfield, ok_bind, Header.value?_congr hsame]
      exact hstore.value?_eq hmem
    · rintro i rfl
      generalize f.cell = c at hstore
      cases hstore with
      | instant hreference => exact ⟨_, hreference⟩

/-- A field made null by name is read as nothing, and no other field notices. -/
lemma get_of_clear (ht' : clear name t = .ok () t') :
    ∃ f, Schema.find? name = some f ∧ t'.header.get name = .ok none ∧ t.ChangedIn f t' := by
  have hstoring : (Operation.clear name).Storing name t := Operation.storing_clear
  rcases hstoring with ⟨e, -, hedit⟩ | ⟨f, h, hf, hstore, hcell, hedit⟩
  · exact absurd (hedit.symm.trans ht') (by simp)
  · have hfield := Schema.field_eq_ok_iff.2 hf
    obtain ⟨hmem, -⟩ := Schema.find?_eq_some hf
    replace hedit := hedit.symm.trans ht'
    rw [Operation.store, hfield, ok_bind, Except.ok.injEq] at hstore
    refine ⟨f, hf, ?_, changedIn_of_afterStoring hmem hcell hedit⟩
    have hsame := sameCell_of_afterStoring f.cell hedit fun hmoves _ =>
      notMem_distanceSlots_of_moves hmoves
    rw [Header.get, hfield, ok_bind, Header.value?_congr hsame, ← hstore,
      Header.value?_erase hmem]

/-- A value that the field refuses is not stored. -/
lemma set_of_refused {f : Field} {e : Error} (hf : Schema.find? name = some f)
    (hstore : t.header.store f v = .error e) : set name v t = .error e t := by
  rw [set, Schema.field_eq_ok_iff.2 hf, ask_bind]
  dsimp only
  rw [replaceHeader_bind, hstore]

lemma set_of_unknown (hname : Schema.find? name = none) :
    set name v t = .error (.unknownField name) t := by
  rw [set, Schema.field, hname, ask_bind]

end Edit

/-- Fields are independent cells.  A value that is stored by name is read back as the field
keeps it, nothing if that is the sentinel, and a field made null is read as nothing; no other
field notices, except that the distances follow the coordinates and the flag `lcalda`.  Nothing
changes where the name is not known, where the kind of the field does not take the shape of the
value, and where the field does not accept the symbol. -/
theorem fields_independent (name : String) (t : Trace) :
    (∀ v t', Edit.set name v t = .ok () t' →
      ∃ f, Schema.find? name = some f ∧ t'.header.get name = .ok (t.header.reading f.cell v) ∧
        (∀ i, v = .time i → ∃ reference, t.header.referenceTime = .ok reference) ∧
        t.ChangedIn f t') ∧
    (∀ t', Edit.clear name t = .ok () t' →
      ∃ f, Schema.find? name = some f ∧ t'.header.get name = .ok none ∧ t.ChangedIn f t') ∧
    (Schema.find? name = none → ∀ v, Edit.set name v t = .error (.unknownField name) t) ∧
    (∀ f v, Schema.find? name = some f → f.kind.takes v.shape = false →
      Edit.set name v t = .error (.wrongShape name f.kind v.shape) t) ∧
    (∀ f slot accepted s, Schema.find? name = some f → f.cell = .enumerated slot accepted →
      s ∉ accepted → Edit.set name (.text s) t = .error (.symbolNotAccepted name s) t) := by
  refine ⟨fun v t' => Edit.reading_of_set, fun t' => Edit.get_of_clear,
    fun hname v => Edit.set_of_unknown hname, fun f v hf hshape => ?_,
    fun f slot accepted s hf hcell hs => ?_⟩
  · obtain ⟨-, rfl⟩ := Schema.find?_eq_some hf
    exact Edit.set_of_refused hf (Header.store_of_not_takes hshape)
  · obtain ⟨-, rfl⟩ := Schema.find?_eq_some hf
    exact Edit.set_of_refused hf (Header.store_of_not_accepted hcell hs)

/-- What is no number is stored as true. -/
theorem fields_independent_nan :
    ∃ t', Edit.set "lpspol" (.real (.nan false)) Trace.oneSample = .ok () t' ∧
      t'.header.get "lpspol" = .ok (some (.logical true)) ∧
      t'.samples = Trace.oneSample.samples := by
  have hname : (Schema.find? "lpspol").map Field.cell = some (.logical 36) :=
    FlagName.lpspol.find?_name
  obtain ⟨f, hf, hcell⟩ := Option.map_eq_some_iff.1 hname
  have hstore : ∃ h, Trace.oneSample.header.store f (.real (.nan false)) = .ok h := by
    simp only [Header.store_eq_ok_iff, hcell]
    exact ⟨_, .realTruth⟩
  obtain ⟨h, hstore⟩ := hstore
  have hset : Edit.set "lpspol" (.real (.nan false)) Trace.oneSample
      = .ok () { Trace.oneSample with header := h } := by
    rw [Edit.set, Schema.field_eq_ok_iff.2 hf, Edit.ask_bind]
    dsimp only
    rw [Edit.replaceHeader_bind, hstore, hcell]
    rfl
  obtain ⟨g, hg, hread, -, hchanged⟩ := (fields_independent _ _).1 _ _ hset
  obtain rfl := Option.some.inj (hf.symm.trans hg)
  refine ⟨_, hset, ?_, hchanged.samples⟩
  rw [hread, hcell]
  rfl

end Seismogram
