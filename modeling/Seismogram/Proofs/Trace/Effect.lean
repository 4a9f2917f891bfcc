/-
# All that an operation can do

There are few ways in which an operation can change a trace, whether it succeeds or fails
(`effect`).  A property that each of them keeps holds after every history (`after_induction`).
-/
import Mathlib.Tactic.Common
import Seismogram.Proofs.Trace.Folder
import Seismogram.Proofs.Trace.Patch
import Seismogram.Proofs.Trace.Storing

namespace Seismogram

open Seismogram.Number Seismogram.Time Seismogram.Outcome

/-! ### What writing changes -/

lemma Edit.header_of_toBytes {options : WriteOptions} {t t' : Trace} {out : List UInt8}
    (h : Edit.toBytes options t = .ok out t') : t' = { t with header := t.header.refreshed } := by
  obtain ⟨-, hupdate, heq, -⟩ := Edit.toBytes_eq_ok_iff.1 h
  rw [Header.refreshed_of_ok hupdate]
  exact heq

/-- Writing to a file, whether it succeeds or fails, leaves the trace or brings its distances
up to date. -/
lemma FileEdit.trace_of_write {path : String} {options : WriteOptions} {s s' : Desk}
    (h : FileEdit.write path options s = .ok () s' ∨
      ∃ e, FileEdit.write path options s = .error e s') :
    s'.trace = s.trace ∨ s'.trace = { s.trace with header := s.trace.header.refreshed } := by
  rw [FileEdit.write] at h
  split at h
  · rcases h with hok | ⟨e, herror⟩
    · obtain ⟨_, _, _, _, hupdate, -, -, rfl⟩ := patchHeader_eq_ok_iff.1 hok
      right
      rw [Header.refreshed_of_ok hupdate]
    · rcases patchHeader_eq_error_iff.1 herror with ⟨-, rfl⟩ | ⟨_, hupdate, rfl, -⟩
      · exact Or.inl rfl
      · right
        rw [Header.refreshed_of_ok hupdate]
  · simp only [run_eq_ok_iff, run_eq_error_iff, ofEdit_eq_ok_iff, ofEdit_eq_error_iff,
      replaceFolder_eq_ok_iff, replaceFolder_eq_error_iff] at h
    rcases h with ⟨_, _, ⟨_, hwrite, rfl⟩, _, -, rfl⟩ | ⟨e, ⟨_, herror, rfl⟩ |
      ⟨_, _, ⟨_, hwrite, rfl⟩, -, rfl⟩⟩
    · exact Or.inr (Edit.header_of_toBytes hwrite)
    · exact Or.inl (Edit.eq_of_toBytes_error herror)
    · exact Or.inr (Edit.header_of_toBytes hwrite)

/-! ### All that an operation can do -/

namespace Operation

open Edit
open Header (EqExceptCell)

/-- A trace and what an operation can make of it, whether it succeeds or fails. -/
inductive Effect (op : Operation) (t : Trace) : Trace → Prop
  /-- The trace is as it was. -/
  | kept : Effect op t t
  /-- A field is stored that distances do not depend on. -/
  | stored {name : String} {f : Field} {h : Header} (hname : op.field? = some name)
    (hfield : Schema.find? name = some f) (hmoves : movesDistances f.cell = false)
    (hcell : EqExceptCell f.cell t.header h) : Effect op t { t with header := h }
  /-- A field is stored that distances depend on, and these are brought up to date. -/
  | located {name : String} {f : Field} {h : Header} (hname : op.field? = some name)
    (hfield : Schema.find? name = some f) (hmoves : movesDistances f.cell = true)
    (hcell : EqExceptCell f.cell t.header h) : Effect op t { t with header := h.refreshed }
  /-- The distances are brought up to date. -/
  | refreshed : Effect op t { t with header := t.header.refreshed }
  /-- The distances are computed on demand. -/
  | computed {h : Header} (hupdate : t.header.updateDistances true = .ok h) :
    Effect op t { t with header := h }
  /-- The reference time is moved. -/
  | moved {i : Instant} {h : Header} (hmove : t.header.setReferenceTime i = .ok h) :
    Effect op t { t with header := h }
  /-- The samples are replaced or taken. -/
  | sampled (samples : Option (List Single)) : Effect op t (t.setSamples samples)
  /-- The byte order is replaced. -/
  | ordered (o : ByteOrder) : Effect op t { t with order := o }
  /-- Another trace is read. -/
  | read {data : List UInt8} {options : ReadOptions} {t' : Trace} (hreads : op.reads = true)
    (hread : Trace.ofBytes data options = .ok t') : Effect op t t'
  /-- The trace is made anew from a recording. -/
  | converted {r : Recording} {t' : Trace} (hconvert : r.toTrace = .ok t') : Effect op t t'

lemma after_of_ok {op : Operation} {t t' : Trace} (h : op.edit t = .ok () t') :
    op.after t = t' := by
  rw [after, h]

lemma after_of_error {op : Operation} {t t' : Trace} {e : Error} (h : op.edit t = .error e t') :
    op.after t = t' := by
  rw [after, h]

lemma after_of_updateDistances {op : Operation} {t t' : Trace}
    (h : op.edit t = Edit.updateDistances false t') :
    op.after t = { t' with header := t'.header.refreshed } := by
  rw [after, h, Edit.updateDistances, replaceHeader, Header.refreshed]
  cases t'.header.updateDistances false <;> rfl

theorem effect_of_field {op : Operation} {name : String} (hname : op.field? = some name)
    (t : Trace) : op.Effect t (op.after t) := by
  rcases storing hname t with ⟨err, -, hedit⟩ | ⟨f, h, hfield, -, hcell, hedit⟩
  · rw [after_of_error hedit]
    exact .kept
  · rcases hmoves : movesDistances f.cell
    · rw [afterStoring, hmoves] at hedit
      rw [after_of_ok hedit]
      exact .stored hname hfield hmoves hcell
    · rw [afterStoring, hmoves] at hedit
      rw [after_of_updateDistances hedit]
      exact .located hname hfield hmoves hcell

lemma effect_of_replace {op : Operation} {t : Trace} {other : Trace → Except Error Trace}
    (hedit : op.edit = Edit.replace other)
    (heffect : ∀ t', other t = .ok t' → op.Effect t t') : op.Effect t (op.after t) := by
  rw [after, hedit, Edit.replace]
  rcases hother : other t with e | t'
  · exact .kept
  · exact heffect t' hother

lemma effect_of_replaceHeader {op : Operation} {t : Trace} (change : Header → Except Error Header)
    (hedit : op.edit = replaceHeader change)
    (heffect : ∀ h, change t.header = .ok h → op.Effect t { t with header := h }) :
    op.Effect t (op.after t) := by
  rw [after, hedit, replaceHeader]
  rcases hchange : change t.header with e | h
  · exact .kept
  · exact heffect h hchange

lemma effect_toBytes (options : WriteOptions) (t : Trace) :
    (toBytes options).Effect t ((toBytes options).after t) := by
  rw [after, edit, silent]
  rcases hwrite : Edit.toBytes options t with ⟨out, t'⟩ | ⟨e, t'⟩
  · dsimp only
    rw [Edit.header_of_toBytes hwrite]
    exact .refreshed
  · dsimp only
    rw [Edit.eq_of_toBytes_error hwrite]
    exact .kept

lemma effect_write (d : Folder) (path : String) (options : WriteOptions) (t : Trace) :
    (write d path options).Effect t ((write d path options).after t) := by
  have hafter : ∃ s, (FileEdit.write path options ⟨t, d⟩ = .ok () s ∨
      ∃ e, FileEdit.write path options ⟨t, d⟩ = .error e s) ∧
      (write d path options).after t = s.trace := by
    rw [after, edit, silent, Edit.write]
    rcases FileEdit.write path options ⟨t, d⟩ with ⟨⟨⟩, s⟩ | ⟨e, s⟩
    · exact ⟨s, Or.inl rfl, rfl⟩
    · exact ⟨s, Or.inr ⟨e, rfl⟩, rfl⟩
  obtain ⟨s, hs, hafter⟩ := hafter
  rw [hafter]
  rcases FileEdit.trace_of_write hs with htrace | htrace
  · rw [htrace]
    exact .kept
  · rw [htrace]
    exact .refreshed

/-- What an operation makes of a trace is one of its effects. -/
theorem effect (op : Operation) (t : Trace) : op.Effect t (op.after t) := by
  cases op
  case setReferenceTime i =>
    exact effect_of_replaceHeader (·.setReferenceTime i) rfl fun h hmove => .moved hmove
  case updateDistances demanded =>
    refine effect_of_replaceHeader (·.updateDistances demanded) rfl fun h hupdate => ?_
    cases demanded
    · rw [← Header.refreshed_of_ok hupdate]
      exact .refreshed
    · exact .computed hupdate
  case setSamples samples => exact .sampled samples
  case takeSamples => exact .sampled none
  case setOrder o => exact .ordered o
  case toBytes options => exact effect_toBytes options t
  case write d path options => exact effect_write d path options t
  case ofBytes data options => exact effect_of_replace rfl fun t' hread => .read rfl hread
  case read d path options =>
    refine effect_of_replace rfl fun t' hread => ?_
    rw [Folder.read, bind_eq_ok_iff] at hread
    obtain ⟨⟨_, content⟩, -, hread⟩ := hread
    exact .read rfl hread
  case reconvert =>
    refine effect_of_replace rfl fun t' hconvert => ?_
    rw [bind_eq_ok_iff] at hconvert
    obtain ⟨r, -, hconvert⟩ := hconvert
    exact .converted hconvert
  all_goals exact effect_of_field rfl t

end Operation

/-- What every effect keeps is kept by a history. -/
theorem Trace.after_induction {P : Trace → Prop} {history : List Operation} {t : Trace} (h0 : P t)
    (hstep : ∀ op ∈ history, ∀ t t', op.Effect t t' → P t → P t') : P (t.after history) :=
  List.foldlRecOn history _ h0 fun t ht op hop => hstep op hop t _ (op.effect t) ht

end Seismogram
