/-
# Operations that store in a field

An operation that names a field refuses, or stores something in the cell of that field and
then does what follows the storing, however it came by the field (`storing`).

Hence an operation that fails has changed nothing, with one exception
(`eq_or_stored_of_error`): the distances are brought up to date after a coordinate or the flag
`lcalda` has been stored, and if that fails the field keeps what was stored
(`changed_beyondPole`).
-/
import Mathlib.Tactic.Common
import Seismogram.Trace.Operation
import Seismogram.Proofs.Header.Cells
import Seismogram.Proofs.Header.Distances
import Seismogram.Proofs.Trace.Encoding

namespace Seismogram

open Seismogram.Number Seismogram.Time Seismogram.Outcome

/-! ### Cells that distances depend on -/

section Moving

open Edit (movesDistances)

/-- A field of real numbers is told from its slot, whether or not it is a relative time. -/
lemma movesDistances_of_realSlot {f : Field} (hf : f ∈ Schema.fields) {slot : Fin 70}
    (hslot : f.cell.realSlot? = some slot) :
    movesDistances (.real slot) = movesDistances f.cell := by
  have hall : ∀ f ∈ Schema.fields, (f.cell.realSlot?.all fun slot =>
      movesDistances (.real slot) == movesDistances f.cell) := by
    decide +kernel
  have hone := hall f hf
  rwa [hslot, Option.all_some, beq_iff_eq] at hone

lemma cell_lcalda :
    (Schema.find? "lcalda").map Field.cell = some (.logical Header.distancesFollowSlot) := by
  decide +kernel

lemma name_of_movesDistances : ∀ f ∈ Schema.fields, movesDistances f.cell = true →
    f.name ∈ ["stla", "stlo", "evla", "evlo", "lcalda"] := by
  decide +kernel

lemma movesDistances_realName (n : RealName) : movesDistances (.real n.slot) = false := by
  cases n <;> rfl

lemma movesDistances_coordinate (n : Coordinate) : movesDistances (.real n.slot) = true := by
  cases n <;> rfl

lemma movesDistances_flagName (n : FlagName) : movesDistances (.logical n.slot) = false := by
  cases n <;> rfl

end Moving

/-! ### Edits step by step -/

namespace Edit

lemma ask_bind {α : Type} (x : Except Error α) (e : α → Edit Unit) (t : Trace) :
    (ask (fun _ => x) >>= e) t =
      match x with
      | .ok a => e a t
      | .error err => .error err t := by
  cases x <;> rfl

lemma replaceHeader_bind (change : Header → Except Error Header) (e : Edit Unit) (t : Trace) :
    (replaceHeader change >>= fun _ => e) t =
      match change t.header with
      | .ok h => e { t with header := h }
      | .error err => .error err t := by
  simp only [bind, EStateM.bind, replaceHeader]
  cases change t.header <;> rfl

/-- Nothing follows where distances do not depend on the cell. -/
lemma replaceHeader_bind_afterStoring (change : Header → Except Error Header) {c : Cell}
    (hc : movesDistances c = false) :
    (replaceHeader change >>= fun _ => afterStoring c) = replaceHeader change := by
  funext t
  rw [replaceHeader_bind, replaceHeader, afterStoring, hc]
  cases change t.header <;> rfl

lemma eq_of_replace_error {other : Trace → Except Error Trace} {t t' : Trace} {e : Error}
    (h : replace other t = .error e t') : t' = t := by
  rw [replace] at h
  split at h
  · exact absurd h (by simp)
  · exact (EStateM.Result.error.inj h).2.symm

lemma silent_eq_error_iff {α : Type} {edit : Edit α} {t t' : Trace} {e : Error} :
    edit.silent t = .error e t' ↔ edit t = .error e t' := by
  rw [silent]
  cases edit t <;> simp

end Edit

/-! ### Operations that name a field -/

namespace Operation

open Edit
open Header (EqExceptCell)

/-- The header with what the operation is asked to store in the field that it names. -/
def store : Operation → Header → Except Error Header
  | set name v, h => do h.store (← Schema.field name) v
  | clear name, h => do .ok (h.erase (← Schema.field name))
  | setReal name x, h => do .ok (h.setReal (← Header.realSlot name) x)
  | setInteger name n, h => do .ok (h.setInteger (← Header.integerSlot name) n)
  | setLogical name b, h => do .ok (h.setLogical (← Header.logicalSlot name) b)
  | setSymbol name symbol, h => do
    let (slot, accepted) ← Header.symbolSlot name
    h.setSymbol name slot accepted symbol
  | setText name s, h => do .ok (h.setText (← Header.textSpan name) s)
  | setInstant name t, h => do h.setInstant (← Header.relativeTimeSlot name) t
  | assignReal n x, h => .ok (h.setReal n.slot x)
  | assignCoordinate n x, h => .ok (h.setReal n.slot x)
  | assignInteger n x, h => .ok (h.setInteger n.slot x)
  | assignFlag n b, h => .ok (h.setLogical n.slot b)
  | assignDistancesFollow b, h => .ok (h.setLogical Header.distancesFollowSlot b)
  | assignSymbol n symbol, h => h.setSymbol n.name n.slot n.accepted symbol
  | assignText n s, h => .ok (h.setText n.span s)
  | _, h => .ok h

/-- All that an operation can do that names a field. -/
inductive Storing (op : Operation) (name : String) (t : Trace) : Prop
  /-- It refuses. -/
  | refused (err : Error) (hstore : op.store t.header = .error err)
    (hedit : op.edit t = .error err t)
  /-- It stores something in the cell of the field, and then does what follows the storing. -/
  | stored (f : Field) (h : Header) (hfield : Schema.find? name = some f)
    (hstore : op.store t.header = .ok h) (hcell : EqExceptCell f.cell t.header h)
    (hedit : op.edit t = afterStoring f.cell { t with header := h })

variable {op : Operation} {name : String} {t : Trace}

/-- The operations look up where to store, store, and do what follows. -/
lemma storing_of_lookup {α : Type} {x : Except Error α}
    (change : α → Header → Except Error Header) (cell : α → Cell)
    (hstore : op.store t.header = x >>= fun a => change a t.header)
    (hedit : op.edit = ask (fun _ => x) >>= fun a =>
      replaceHeader (change a) >>= fun _ => afterStoring (cell a))
    (hlookup : ∀ a, x = .ok a → ∃ f, Schema.find? name = some f ∧
      movesDistances (cell a) = movesDistances f.cell ∧
        ∀ h, change a t.header = .ok h → EqExceptCell f.cell t.header h) :
    op.Storing name t := by
  -- there is no such field, or its value is refused, or something is stored
  rcases ha : x with err | a
  · exact .refused err (by rw [hstore, ha, error_bind]) (by rw [hedit, ask_bind, ha])
  · obtain ⟨f, hfield, hmoves, hcell⟩ := hlookup a ha
    rcases hh : change a t.header with err | h
    · refine .refused err (by rw [hstore, ha, ok_bind, hh]) ?_
      rw [hedit, ask_bind, ha]
      dsimp only
      rw [replaceHeader_bind, hh]
    · refine .stored f h hfield (by rw [hstore, ha, ok_bind, hh]) (hcell h hh) ?_
      rw [hedit, ask_bind, ha]
      dsimp only
      rw [replaceHeader_bind, hh, afterStoring, afterStoring, hmoves]

/-- A look-up of one kind finds the very cell that is stored in. -/
lemma storing_of_kind {α : Type} {x : Except Error α} (change : α → Header → Except Error Header)
    (cell : α → Cell) (hstore : op.store t.header = x >>= fun a => change a t.header)
    (hedit : op.edit = ask (fun _ => x) >>= fun a =>
      replaceHeader (change a) >>= fun _ => afterStoring (cell a))
    (hlookup : ∀ a, x = .ok a → ∃ f, Schema.find? name = some f ∧ f.cell = cell a)
    (hcell : ∀ a h, change a t.header = .ok h → EqExceptCell (cell a) t.header h) :
    op.Storing name t := by
  refine storing_of_lookup change cell hstore hedit fun a ha => ?_
  obtain ⟨f, hfield, hf⟩ := hlookup a ha
  exact ⟨f, hfield, by rw [hf], fun h hh => by rw [hf]; exact hcell a h hh⟩

/-- A name with a kind is a name of the schema, and no look-up is needed. -/
lemma storing_of_name (change : Header → Except Error Header) {c : Cell}
    (hname : (Schema.find? name).map Field.cell = some c)
    (hstore : op.store t.header = change t.header)
    (hedit : op.edit = replaceHeader change >>= fun _ => afterStoring c)
    (hcell : ∀ h, change t.header = .ok h → EqExceptCell c t.header h) : op.Storing name t :=
  storing_of_kind (fun _ : Unit => change) (fun _ => c) (x := .ok ()) hstore hedit
    (fun _ _ => Option.map_eq_some_iff.1 hname) fun _ => hcell

lemma storing_set (v : Value) : (set name v).Storing name t := by
  refine storing_of_lookup (fun f h => h.store f v) Field.cell rfl rfl ?_
  intro f hf
  exact ⟨f, Schema.field_eq_ok_iff.1 hf, rfl, fun _ => Header.eqExceptCell_store⟩

lemma storing_clear : (clear name).Storing name t := by
  refine storing_of_lookup (fun f h => .ok (h.erase f)) Field.cell rfl rfl ?_
  intro f hf
  refine ⟨f, Schema.field_eq_ok_iff.1 hf, rfl, ?_⟩
  rintro _ ⟨⟩
  exact Header.eqExceptCell_erase t.header f

lemma storing_setReal (x : Option Single) : (setReal name x).Storing name t := by
  refine storing_of_lookup (fun slot h => .ok (h.setReal slot x)) Cell.real rfl rfl ?_
  intro slot hslot
  -- the cell may be that of a relative time, which has a slot of the same kind
  obtain ⟨f, hf, hcell⟩ := Header.realSlot_eq_ok_iff.1 hslot
  refine ⟨f, hf, movesDistances_of_realSlot (Schema.find?_eq_some hf).1 hcell, ?_⟩
  rintro _ ⟨⟩
  exact Header.eqExceptCell_setReal hcell x

lemma storing_setInteger (n : Option Int32) : (setInteger name n).Storing name t := by
  refine storing_of_kind (fun slot h => .ok (h.setInteger slot n)) Cell.integer rfl rfl
    (fun _ => Header.integerSlot_eq_ok_iff.1) ?_
  rintro slot _ ⟨⟩
  exact Header.eqExceptCell_setInteger rfl n

lemma storing_setLogical (b : Option Bool) : (setLogical name b).Storing name t := by
  refine storing_of_kind (fun slot h => .ok (h.setLogical slot b)) Cell.logical rfl rfl
    (fun _ => Header.logicalSlot_eq_ok_iff.1) ?_
  rintro slot _ ⟨⟩
  exact Header.eqExceptCell_setInteger rfl _

lemma storing_setSymbol (symbol : Option String) : (setSymbol name symbol).Storing name t := by
  refine storing_of_kind (x := Header.symbolSlot name)
    (fun place h => h.setSymbol name place.1 place.2 symbol)
    (fun place => .enumerated place.1 place.2) rfl ?_ (fun _ => Header.symbolSlot_eq_ok_iff.1) ?_
  · simp only [replaceHeader_bind_afterStoring (c := .enumerated _ _) _ rfl]
    rfl
  · rintro ⟨slot, accepted⟩ h hh
    exact Header.eqExceptCell_setSymbol hh

lemma storing_setText (s : Option String) : (setText name s).Storing name t := by
  refine storing_of_kind (fun span h => .ok (h.setText span s)) Cell.text rfl rfl
    (fun _ => Header.textSpan_eq_ok_iff.1) ?_
  rintro span _ ⟨⟩
  exact Header.eqExceptCell_setText span s

lemma storing_setInstant (i : Instant) : (setInstant name i).Storing name t := by
  refine storing_of_kind (fun slot h => h.setInstant slot i) Cell.relativeTime rfl ?_
    (fun _ => Header.relativeTimeSlot_eq_ok_iff.1) ?_
  · simp only [replaceHeader_bind_afterStoring (c := .relativeTime _) _ rfl]
    rfl
  · intro slot h hh
    exact Header.eqExceptCell_setInstant hh

lemma storing_assignReal (n : RealName) (x : Option Single) :
    (assignReal n x).Storing n.name t := by
  rcases n.find?_name with hname | hname
  · refine storing_of_name (fun h => .ok (h.setReal n.slot x)) hname rfl ?_ ?_
    · rw [replaceHeader_bind_afterStoring _ (movesDistances_realName n)]
      rfl
    · rintro _ ⟨⟩
      exact Header.eqExceptCell_setReal rfl x
  · refine storing_of_name (fun h => .ok (h.setReal n.slot x)) hname rfl rfl ?_
    rintro _ ⟨⟩
    exact Header.eqExceptCell_setReal rfl x

lemma storing_assignCoordinate (n : Coordinate) (x : Option Single) :
    (assignCoordinate n x).Storing n.name t := by
  refine storing_of_name (fun h => .ok (h.setReal n.slot x)) n.find?_name rfl ?_ ?_
  · rw [afterStoring, movesDistances_coordinate]
    rfl
  · rintro _ ⟨⟩
    exact Header.eqExceptCell_setReal rfl x

lemma storing_assignInteger (n : IntegerName) (x : Option Int32) :
    (assignInteger n x).Storing n.name t := by
  refine storing_of_name (fun h => .ok (h.setInteger n.slot x)) n.find?_name rfl rfl ?_
  rintro _ ⟨⟩
  exact Header.eqExceptCell_setInteger rfl x

lemma storing_assignFlag (n : FlagName) (b : Option Bool) : (assignFlag n b).Storing n.name t := by
  refine storing_of_name (fun h => .ok (h.setLogical n.slot b)) n.find?_name rfl ?_ ?_
  · rw [replaceHeader_bind_afterStoring _ (movesDistances_flagName n)]
    rfl
  · rintro _ ⟨⟩
    exact Header.eqExceptCell_setInteger rfl _

lemma storing_assignDistancesFollow (b : Option Bool) :
    (assignDistancesFollow b).Storing "lcalda" t := by
  refine storing_of_name (fun h => .ok (h.setLogical Header.distancesFollowSlot b)) cell_lcalda
    rfl rfl ?_
  rintro _ ⟨⟩
  exact Header.eqExceptCell_setInteger rfl _

lemma storing_assignSymbol (n : SymbolName) (symbol : Option String) :
    (assignSymbol n symbol).Storing n.name t := by
  refine storing_of_name (fun h => h.setSymbol n.name n.slot n.accepted symbol) n.find?_name rfl
    ?_ fun _ => Header.eqExceptCell_setSymbol
  rw [replaceHeader_bind_afterStoring _ rfl]
  rfl

lemma storing_assignText (n : TextName) (s : Option String) :
    (assignText n s).Storing n.name t := by
  refine storing_of_name (fun h => .ok (h.setText n.span s)) n.find?_name rfl rfl ?_
  rintro _ ⟨⟩
  exact Header.eqExceptCell_setText n.span s

/-- However an operation comes by the field that it names, it refuses or stores in its cell. -/
theorem storing (hname : op.field? = some name) (t : Trace) : op.Storing name t := by
  cases op <;> simp only [field?, Option.some.injEq, reduceCtorEq] at hname
  all_goals subst hname
  case set v => exact storing_set v
  case clear => exact storing_clear
  case setReal x => exact storing_setReal x
  case setInteger n => exact storing_setInteger n
  case setLogical b => exact storing_setLogical b
  case setSymbol symbol => exact storing_setSymbol symbol
  case setText s => exact storing_setText s
  case setInstant i => exact storing_setInstant i
  case assignReal n x => exact storing_assignReal n x
  case assignCoordinate n x => exact storing_assignCoordinate n x
  case assignInteger n x => exact storing_assignInteger n x
  case assignFlag n b => exact storing_assignFlag n b
  case assignDistancesFollow b => exact storing_assignDistancesFollow b
  case assignSymbol n symbol => exact storing_assignSymbol n symbol
  case assignText n s => exact storing_assignText n s

end Operation

/-! ### Operations that fail -/

namespace Operation

open Edit
open Header (EqExceptCell)

lemma eq_of_error_of_field {op : Operation} {t t' : Trace} {e : Error} (hname : op.field? = none)
    (hop : op.writesFile = false) (hfail : op.edit t = .error e t') : t' = t := by
  cases op <;> simp only [field?, writesFile, reduceCtorEq] at hname hop
  all_goals rw [edit] at hfail
  case setReferenceTime i => exact (replaceHeader_eq_error_iff.1 hfail).2
  case updateDistances demanded => exact (replaceHeader_eq_error_iff.1 hfail).2
  case toBytes options => exact eq_of_toBytes_error (silent_eq_error_iff.1 hfail)
  case ofBytes data options => exact eq_of_replace_error hfail
  case read d path options => exact eq_of_replace_error hfail
  case reconvert => exact eq_of_replace_error hfail
  all_goals nomatch hfail

/-- An operation on the trace alone that fails has changed nothing; or else it has stored what
it was asked to store in a coordinate or the flag `lcalda`, and then the distances could not be
brought up to date. -/
theorem eq_or_stored_of_error {op : Operation} {t t' : Trace} {e : Error}
    (hop : op.writesFile = false) (hfail : op.edit t = .error e t') :
    t' = t ∨ ∃ f h, op.field? = some f.name ∧ f ∈ Schema.fields ∧
      f.name ∈ ["stla", "stlo", "evla", "evlo", "lcalda"] ∧
      op.store t.header = .ok h ∧ EqExceptCell f.cell t.header h ∧ t' = { t with header := h } ∧
      h.updateDistances false = .error e ∧
      ((∃ n, h.integer? Header.distancesFollowSlot = some n ∧ n ≠ 0 ∧ n ≠ 1 ∧
          e = .notLogical "lcalda" n) ∨
        ∃ x, Geodesy.isLatitude x = false ∧ e = .invalidLatitude x) := by
  rcases hname : op.field? with _ | name
  · exact Or.inl (eq_of_error_of_field hname hop hfail)
  rcases storing hname t with ⟨err, -, hedit⟩ | ⟨f, h, hfield, hstore, hcell, hedit⟩
  · left
    rw [hedit, EStateM.Result.error.injEq] at hfail
    exact hfail.2.symm
  · -- once something is stored, only an update of the distances can fail
    right
    obtain ⟨hmem, rfl⟩ := Schema.find?_eq_some hfield
    rw [hedit, afterStoring] at hfail
    split_ifs at hfail with hmoves
    · obtain ⟨hupdate, rfl⟩ := updateDistances_eq_error_iff.1 hfail
      exact ⟨f, h, rfl, hmem, name_of_movesDistances f hmem hmoves, hstore, hcell, rfl, hupdate,
        Header.updateDistances_eq_error hupdate⟩
    · nomatch hfail

end Operation

/-- A trace with an event at the origin and a station on the same meridian whose latitude is
not known; distances are to follow. -/
def Trace.latitudeMissing : Trace where
  header := (((Header.blank.setLogical Header.distancesFollowSlot (some true)).setReal
    Header.stationLongitudeSlot (some (.zero false))).setReal Header.eventLatitudeSlot
    (some (.zero false))).setReal Header.eventLongitudeSlot (some (.zero false))
  samples := none
  order := .little

/-- The same trace with a station at 100 degrees north. -/
def Trace.beyondPole : Trace :=
  { latitudeMissing with
    header := latitudeMissing.header.setReal Header.stationLatitudeSlot (some ⟨0x42C80000⟩) }

lemma Trace.updateDistances_beyondPole :
    beyondPole.header.updateDistances false
      = .error (.invalidLatitude (Floating.widen ⟨0x42C80000⟩)) := by
  have hpoints : beyondPole.header.points =
      .ok (⟨Floating.widen (.zero false), Floating.widen (.zero false)⟩,
        ⟨Floating.widen ⟨0x42C80000⟩, Floating.widen (.zero false)⟩) := rfl
  have hevent : Geodesy.isLatitude (Floating.widen (.zero false)) = true := by decide +kernel
  have hstation : Geodesy.isLatitude (Floating.widen ⟨0x42C80000⟩) = false := by decide +kernel
  rw [Header.updateDistances_of_points rfl hpoints, Header.line_of_not_isLatitude hevent hstation,
    error_bind]

lemma Trace.header_beyondPole_ne : beyondPole.header ≠ latitudeMissing.header := by
  intro heq
  have hslot := congrArg (Header.storedReal · Header.stationLatitudeSlot) heq
  exact absurd hslot (by decide)

lemma Operation.edit_beyondPole :
    (assignCoordinate .stla (some ⟨0x42C80000⟩)).edit Trace.latitudeMissing =
      .error (.invalidLatitude (Floating.widen ⟨0x42C80000⟩)) Trace.beyondPole :=
  Edit.updateDistances_eq_error_iff.2 ⟨Trace.updateDistances_beyondPole, rfl⟩

theorem Operation.stored_beyondPole :
    ∃ h, (assignCoordinate .stla (some ⟨0x42C80000⟩)).store Trace.latitudeMissing.header = .ok h ∧
      Trace.beyondPole = { Trace.latitudeMissing with header := h } := by
  rcases eq_or_stored_of_error rfl edit_beyondPole with heq | ⟨_, h, -, -, -, hstore, -, heq, -⟩
  · exact absurd (congrArg Trace.header heq) Trace.header_beyondPole_ne
  · exact ⟨h, hstore, heq⟩

/-- A latitude beyond the pole is stored before it is refused. -/
theorem Operation.changed_beyondPole :
    ∃ e, (assignCoordinate .stla (some ⟨0x42C80000⟩)).edit Trace.latitudeMissing =
        .error e Trace.beyondPole ∧
      Trace.beyondPole.header ≠ Trace.latitudeMissing.header :=
  ⟨_, edit_beyondPole, Trace.header_beyondPole_ne⟩

end Seismogram
