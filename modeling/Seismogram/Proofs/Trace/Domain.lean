/-
# Traces that can be read and written

The header of a new trace is in its domain, and so is that of a trace made from values or from a
recording (`inDomain_origin`).  Every operation that does not replace the trace by one that is
read keeps it there, whether it succeeds or fails (`InDomain.after_operation`): what it puts into
a field has a meaning for the field, and everything else that it may change are numbers.  So no
history of such operations leads to a field that cannot be read, nor to a trace that cannot be
written because of one (`inDomain_after`).
-/
import Mathlib.Tactic.Common
import Seismogram.Proofs.Header.Domain
import Seismogram.Proofs.Recording.Stages
import Seismogram.Proofs.Trace.Effect

namespace Seismogram

open Seismogram.Number Seismogram.Time Seismogram.Outcome
open Header (InDomain EqExceptDistances)

namespace Header

variable {h k : Header} {values : List (String × Value)}

/-! ### New headers -/

lemma inDomain_blank : blank.InDomain := by
  intro f hf
  have hinteger (slot : Fin 40) : blank.storedInteger slot = nullInteger :=
    Vector.getElem_replicate _
  cases hcell : f.cell with
  | real | relativeTime | integer => trivial
  | logical slot => exact Or.inr (Or.inr (hinteger slot))
  | enumerated slot accepted => exact Or.inl (hinteger slot)
  | text span => exact (textWellFormed_of_blank rfl).field hf span hcell

lemma inDomain_null : null.InDomain := by
  refine List.foldlRecOn (motive := InDomain) Schema.fields _ inDomain_blank fun h hh f hf => ?_
  split
  · rename_i span hcell
    exact hh.puts hf (puts_setText hcell none)
  · exact hh

namespace InDomain

/-- The code of a symbol that the field accepts. -/
lemma setCode (hh : h.InDomain) (n : SymbolName) {s : String} (hs : s ∈ n.accepted) :
    (h.setInteger n.slot (Symbol.code? s)).InDomain := by
  obtain ⟨f, hf, hcell⟩ := Option.map_eq_some_iff.1 n.find?_name
  obtain ⟨hmem, -⟩ := Schema.find?_eq_some hf
  obtain ⟨code, hcode, -⟩ := Option.bind_eq_some_iff.1
    (Symbol.accepted_have_codes f hmem s (by rw [hcell]; exact hs))
  have hstored : h.Stores f.cell (.text s) (h.setInteger n.slot (some code)) :=
    hcell ▸ .symbol hs hcode
  rw [hcode]
  exact hh.puts hmem (Or.inr ⟨_, hstored⟩)

lemma setFlag (hh : h.InDomain) (n : FlagName) (b : Option Bool) :
    (h.setLogical n.slot b).InDomain :=
  hh.puts_name (exists_puts (Option.map_eq_some_iff.1 n.find?_name) fun _ hcell =>
    puts_setLogical hcell b)

lemma setText (hh : h.InDomain) (n : TextName) (s : Option String) :
    (h.setText n.span s).InDomain :=
  hh.puts_name (exists_puts (Option.map_eq_some_iff.1 n.find?_name) fun _ hcell =>
    puts_setText hcell s)

/-- Real numbers have no other domain. -/
lemma setReal (hh : h.InDomain) (slot : Fin 70) (x : Option Single) :
    (h.setReal slot x).InDomain :=
  hh.congr rfl fun _ _ => rfl

/-- Nor have the integers that come before all flags and codes. -/
lemma setEarlyInteger (hh : h.InDomain) {slot : Fin 40} (hslot : slot < 15) (n : Option Int32) :
    (h.setInteger slot n).InDomain :=
  hh.congr rfl fun late hlate => by
    rw [storedInteger_setInteger, if_neg (Fin.ne_of_lt (Nat.lt_of_lt_of_le hslot hlate))]

lemma setReferenceFields (hh : h.InDomain) (fields : ReferenceFields) :
    (h.setReferenceFields fields).InDomain :=
  hh.congr (text_setReferenceFields fields) fun _ hslot =>
    storedInteger_setReferenceFields fields (le_trans (by decide) hslot)

end InDomain

lemma inDomain_fresh : fresh.InDomain := by
  have hnumbers := (((inDomain_null.setEarlyInteger (by decide : versionSlot < 15)
    (some defaultVersion)).setEarlyInteger (by decide : countSlot < 15) (some 0)).setReal
    beginSlot (some (.zero false))).setReal deltaSlot (some (.ofInt 1))
  -- these integers are flags and codes, where not every word has a meaning
  have hcodes := (hnumbers.setCode .iftype (by decide : "itime" ∈ _)).setCode .iztype
    (by decide : "ib" ∈ _)
  have hflags := (hcodes.setFlag .leven (some true)).setFlag .lovrok (some true)
  have hfollow := hflags.puts_name (exists_puts (Option.map_eq_some_iff.1 cell_lcalda)
    fun _ hcell => puts_setLogical hcell (some false))
  exact hfollow.setReferenceFields _

/-! ### What follows from coordinates, samples and the reference time -/

namespace InDomain

lemma of_eqExceptDistances (hh : h.InDomain) (hk : EqExceptDistances h k) : k.InDomain :=
  hh.congr hk.text fun slot _ => hk.storedInteger_eq slot

lemma describe (hh : h.InDomain) (samples : List Single) : (h.describe samples).InDomain :=
  hh.congr (text_describe samples) fun slot hslot =>
    storedInteger_describe (Ne.symm (Fin.ne_of_lt (Nat.lt_of_lt_of_le (by decide) hslot)))

lemma setReferenceTime (hh : h.InDomain) {i : Instant} (hk : h.setReferenceTime i = .ok k) :
    k.InDomain := by
  obtain ⟨_, -, hmoved⟩ := moved_of_setReferenceTime hk
  exact hh.congr hmoved.text fun slot hslot => hmoved.integers slot (le_trans (by decide) hslot)

/-! ### Values -/

lemma storeAll (hh : h.InDomain) (hk : h.storeAll values = .ok k) : k.InDomain := by
  induction values generalizing h with
  | nil =>
      obtain rfl := Except.ok.inj hk
      exact hh
  | cons first rest ih =>
      obtain ⟨f, next, hf, hnext, hrest⟩ := storeAll_cons_eq_ok_iff.1 hk
      exact ih (hh.puts (Schema.find?_eq_some hf).1 (puts_of_store hnext)) hrest

end InDomain

end Header

/-! ### Where traces come from -/

namespace Trace

variable {t t' : Trace}

lemma inDomain_ofValues {pairs : List (String × Value)} {samples : Option (List Single)}
    (hvalues : ofValues pairs samples = .ok t) : t.header.InDomain := by
  simp only [ofValues, bind_eq_ok_iff, Except.ok.injEq] at hvalues
  obtain ⟨middle, hothers, stored, htimes, updated, hupdate, rfl⟩ := hvalues
  rw [storeTimes_eq] at htimes
  have hstored := (Header.inDomain_fresh.storeAll (storeOthers_eq_ok_iff.1 hothers).1).storeAll
    htimes
  refine InDomain.of_eqExceptDistances ?_ (Header.eqExceptDistances_of_update hupdate)
  cases samples with
  | none => exact hstored
  | some samples => exact hstored.describe samples

lemma inDomain_refer {r : Recording} {h k : Header} (hh : h.InDomain) (hk : r.refer h = .ok k) :
    k.InDomain := by
  rcases Recording.refer_eq_ok_iff.1 hk with ⟨-, rfl⟩ | ⟨-, start, -, hsymbol⟩
  · exact hh
  · exact (hh.setReferenceFields _).puts_name (Header.exists_puts
      (Option.map_eq_some_iff.1 SymbolName.iztype.find?_name) fun _ hcell =>
        Header.puts_setSymbol hcell hsymbol)

lemma inDomain_toTrace {r : Recording} (hconvert : r.toTrace = .ok t) : t.header.InDomain := by
  simp only [Recording.toTrace, bind_eq_ok_iff, Except.ok.injEq] at hconvert
  obtain ⟨base, hbase, referred, hrefer, _, -, _, hupdate, rfl⟩ := hconvert
  have hvalues : base.header.InDomain := by
    rw [Recording.base] at hbase
    split at hbase
    · exact inDomain_ofValues hbase
    · obtain rfl := Except.ok.inj hbase
      exact Header.inDomain_fresh
  have hidentified : (r.identify base.header).InDomain :=
    ((((hvalues.setText .knetwk _).setText .kstnm _).setText .khole _).setText .kcmpnm _).setReal
      _ _
  exact (((inDomain_refer hidentified hrefer).setReal _ _).describe _).of_eqExceptDistances
    (Header.eqExceptDistances_of_update hupdate)

/-- However a trace comes about without being read, its header is in the domain. -/
theorem inDomain_origin {origin : Origin} (hreads : origin.reads = false)
    (hbegin : origin.trace = .ok t) : t.header.InDomain := by
  cases origin with
  | new =>
      obtain rfl := Except.ok.inj hbegin
      exact Header.inDomain_fresh
  | values pairs samples => exact inDomain_ofValues hbegin
  | recording r => exact inDomain_toTrace hbegin
  | bytes | file => exact absurd hreads (by simp [Origin.reads])

end Trace

/-! ### Operations -/

namespace Operation

open Header

variable {op : Operation} {name : String} {h k : Header}

/-- Whatever an operation stores in the field that it names is put into that field. -/
lemma puts_of_store (hname : op.field? = some name) (hk : op.store h = .ok k) :
    ∃ f, Schema.find? name = some f ∧ h.Puts f k := by
  cases op <;> simp only [field?, Option.some.injEq, reduceCtorEq] at hname
  all_goals
    subst hname
    rw [store] at hk
  case set v =>
    obtain ⟨f, hf, hk⟩ := bind_eq_ok_iff.1 hk
    exact ⟨f, Schema.field_eq_ok_iff.1 hf, Header.puts_of_store hk⟩
  case clear =>
    obtain ⟨f, hf, hk⟩ := bind_eq_ok_iff.1 hk
    exact ⟨f, Schema.field_eq_ok_iff.1 hf, Or.inl (Except.ok.inj hk).symm⟩
  case setReal x =>
    obtain ⟨slot, hslot, hk⟩ := bind_eq_ok_iff.1 hk
    obtain ⟨f, hf, hcell⟩ := realSlot_eq_ok_iff.1 hslot
    exact ⟨f, hf, Except.ok.inj hk ▸ puts_setReal hcell x⟩
  case setInteger n =>
    obtain ⟨slot, hslot, hk⟩ := bind_eq_ok_iff.1 hk
    exact exists_puts (integerSlot_eq_ok_iff.1 hslot) fun _ hcell =>
      Except.ok.inj hk ▸ puts_setInteger hcell n
  case setLogical b =>
    obtain ⟨slot, hslot, hk⟩ := bind_eq_ok_iff.1 hk
    exact exists_puts (logicalSlot_eq_ok_iff.1 hslot) fun _ hcell =>
      Except.ok.inj hk ▸ puts_setLogical hcell b
  case setSymbol symbol =>
    obtain ⟨⟨slot, accepted⟩, hslot, hk⟩ := bind_eq_ok_iff.1 hk
    exact exists_puts (symbolSlot_eq_ok_iff.1 hslot) fun _ hcell => puts_setSymbol hcell hk
  case setText s =>
    obtain ⟨span, hspan, hk⟩ := bind_eq_ok_iff.1 hk
    exact exists_puts (textSpan_eq_ok_iff.1 hspan) fun _ hcell =>
      Except.ok.inj hk ▸ puts_setText hcell s
  case setInstant i =>
    obtain ⟨slot, hslot, hk⟩ := bind_eq_ok_iff.1 hk
    exact exists_puts (relativeTimeSlot_eq_ok_iff.1 hslot) fun _ hcell => puts_setInstant hcell hk
  -- the others know their cells
  case assignReal n x =>
    obtain ⟨f, hf, hslot⟩ := Schema.exists_realName n
    exact ⟨f, hf, Except.ok.inj hk ▸ puts_setReal hslot x⟩
  case assignCoordinate n x =>
    exact exists_puts (Option.map_eq_some_iff.1 n.find?_name) fun _ hcell =>
      Except.ok.inj hk ▸ puts_setReal (by rw [hcell]; rfl) x
  case assignInteger n x =>
    exact exists_puts (Option.map_eq_some_iff.1 n.find?_name) fun _ hcell =>
      Except.ok.inj hk ▸ puts_setInteger hcell x
  case assignFlag n b =>
    exact exists_puts (Option.map_eq_some_iff.1 n.find?_name) fun _ hcell =>
      Except.ok.inj hk ▸ puts_setLogical hcell b
  case assignDistancesFollow b =>
    exact exists_puts (Option.map_eq_some_iff.1 cell_lcalda) fun _ hcell =>
      Except.ok.inj hk ▸ puts_setLogical hcell b
  case assignSymbol n symbol =>
    exact exists_puts (Option.map_eq_some_iff.1 n.find?_name) fun _ hcell =>
      puts_setSymbol hcell hk
  case assignText n s =>
    exact exists_puts (Option.map_eq_some_iff.1 n.find?_name) fun _ hcell =>
      Except.ok.inj hk ▸ puts_setText hcell s

end Operation

namespace Header.InDomain

variable {t : Trace} {op : Operation}

lemma refreshed {h : Header} (hh : h.InDomain) : h.refreshed.InDomain :=
  hh.of_eqExceptDistances (eqExceptDistances_refreshed h)

/-- An operation that names a field. -/
lemma after_storing (ht : t.header.InDomain) {name : String} (hname : op.field? = some name) :
    (op.after t).header.InDomain := by
  rcases Operation.storing hname t with ⟨e, -, hedit⟩ | ⟨f, h, -, hstore, -, hedit⟩
  · rw [Operation.after_of_error hedit]
    exact ht
  · have hh := ht.puts_name (Operation.puts_of_store hname hstore)
    rw [Edit.afterStoring] at hedit
    split_ifs at hedit
    · rw [Operation.after_of_updateDistances hedit]
      exact hh.refreshed
    · rw [Operation.after_of_ok hedit]
      exact hh

/-- Every operation but reading keeps a header in its domain, whether it succeeds or fails. -/
theorem after_operation (ht : t.header.InDomain) (hop : op.reads = false) :
    (op.after t).header.InDomain := by
  -- the effects say in which cell something is stored, but not what
  rcases hname : op.field? with _ | name
  · have heffect := op.effect t
    generalize op.after t = t' at heffect
    cases heffect with
    | kept | ordered => exact ht
    | stored hfield | located hfield => exact absurd (hname.symm.trans hfield) (by simp)
    | refreshed => exact ht.refreshed
    | computed hupdate =>
        obtain ⟨_, _, l, -, -, rfl⟩ := updateDistances_demanded_inv hupdate
        exact ht.of_eqExceptDistances (eqExceptDistances_setLine l)
    | moved hmove => exact ht.setReferenceTime hmove
    | sampled samples =>
        cases samples with
        | none => exact ht
        | some samples => exact ht.describe samples
    | read hreads => exact absurd (hop.symm.trans hreads) (by simp)
    | converted hconvert => exact Trace.inDomain_toTrace hconvert
  · exact ht.after_storing hname

/-- So does a history of them. -/
theorem after_history (ht : t.header.InDomain) {history : List Operation}
    (hops : ∀ op ∈ history, op.reads = false) : (t.after history).header.InDomain :=
  List.foldlRecOn (motive := fun t : Trace => t.header.InDomain) history _ ht fun _ ht op hop =>
    ht.after_operation (hops op hop)

end Header.InDomain

/-! ### Errors -/

/-- The error complains of a stored integer that is no truth value or no code of a symbol. -/
def Error.isUnreadable : Error → Bool
  | notLogical _ _ | codeNotAccepted _ _ => true
  | _ => false

section Errors

variable {h : Header} {t t' : Trace} {e : Error}

/-- The flag `lcalda` is a truth value, so a latitude is all that an update can complain of. -/
lemma Header.InDomain.isUnreadable_updateDistances (hh : h.InDomain)
    (he : h.updateDistances false = .error e) : e.isUnreadable = false := by
  rcases Header.updateDistances_eq_error he with ⟨n, hn, hzero, hone, -⟩ | ⟨x, -, rfl⟩
  · obtain ⟨f, hf, hcell⟩ := Option.map_eq_some_iff.1 cell_lcalda
    have hflag := hh f (Schema.find?_eq_some hf).1
    rw [hcell] at hflag
    obtain ⟨hne, rfl⟩ := Header.integer?_eq_some_iff.1 hn
    -- the update complains of what is neither 0 nor 1 nor null
    rcases hflag with hflag | hflag | hflag
    · exact absurd hflag hzero
    · exact absurd hflag hone
    · exact absurd hflag hne
  · rfl

lemma Trace.isUnreadable_checkWritable {options : WriteOptions}
    (he : t.checkWritable options = .error e) : e.isUnreadable = false := by
  rw [checkWritable] at he
  split_ifs at he
  · rw [← Except.error.inj he]
    rfl
  · split at he
    · split_ifs at he
      rw [← Except.error.inj he]
      rfl
    · exact absurd he (by simp)

lemma Binary.isUnreadable_checkLength {data : List UInt8} {expected : ℕ}
    (he : checkLength data expected = .error e) : e.isUnreadable = false := by
  rw [checkLength] at he
  split_ifs at he
  rw [← Except.error.inj he]
  rfl

lemma Binary.isUnreadable_detectOrder {data : List UInt8} (he : detectOrder data = .error e) :
    e.isUnreadable = false := by
  rw [detectOrder] at he
  rcases bind_eq_error_iff.1 he with hlength | ⟨_, -, hfound⟩
  · exact isUnreadable_checkLength hlength
  · split_ifs at hfound
    rw [← Except.error.inj hfound]
    rfl

lemma Binary.isUnreadable_decodeHeader {data : List UInt8} {asked : Option ByteOrder}
    (he : decodeHeader data asked = .error e) : e.isUnreadable = false := by
  rw [decodeHeader] at he
  rcases bind_eq_error_iff.1 he with hlength | ⟨_, -, horder⟩
  · exact isUnreadable_checkLength hlength
  · cases asked with
    | some o =>
        dsimp only at horder
        split_ifs at horder
        · exact absurd horder (by simp)
        · rw [error_bind] at horder
          rw [← Except.error.inj horder]
          rfl
    | none =>
        rcases bind_eq_error_iff.1 horder with hdetect | ⟨_, -, hread⟩
        · exact isUnreadable_detectOrder hdetect
        · exact absurd hread (by simp)

lemma Folder.isUnreadable_fileAt {d : Folder} {path : String} (he : d.fileAt path = .error e) :
    e.isUnreadable = false := by
  rw [fileAt] at he
  split at he <;> cases he <;> rfl

lemma Folder.isUnreadable_putAt {d : Folder} {path : String} {data : List UInt8}
    (he : d.putAt path data = .error e) : e.isUnreadable = false := by
  rw [putAt] at he
  split at he
  · exact absurd he (by simp)
  · obtain rfl := Except.error.inj he
    rfl

lemma Header.InDomain.isUnreadable_toBytes (ht : t.header.InDomain) {options : WriteOptions}
    (he : Edit.toBytes options t = .error e t') : e.isUnreadable = false := by
  rcases (Edit.toBytes_eq_error_iff.1 he).1 with hcheck | ⟨-, hupdate⟩
  · exact Trace.isUnreadable_checkWritable hcheck
  · exact ht.isUnreadable_updateDistances hupdate

/-- Beside the trace itself a writer complains of paths, and of a file that is to be patched. -/
lemma Header.InDomain.isUnreadable_write {s s' : Desk} (hs : s.trace.header.InDomain)
    {path : String} {options : WriteOptions} (he : FileEdit.write path options s = .error e s') :
    e.isUnreadable = false := by
  rw [FileEdit.write] at he
  split_ifs at he
  · rcases FileEdit.patchHeader_eq_error_iff.1 he with ⟨hupdate, -⟩ |
      ⟨h, -, -, hfile | ⟨_, content, -, hpatch⟩⟩
    · exact hs.isUnreadable_updateDistances hupdate
    · exact Folder.isUnreadable_fileAt hfile
    · simp only [Folder.patch, bind_eq_error_iff, reduceCtorEq, and_false, exists_false,
        or_false] at hpatch
      exact Binary.isUnreadable_decodeHeader hpatch
  · simp only [run_eq_error_iff, FileEdit.ofEdit_eq_error_iff,
      FileEdit.replaceFolder_eq_error_iff] at he
    rcases he with ⟨_, hbytes, -⟩ | ⟨_, _, -, hput, -⟩
    · exact hs.isUnreadable_toBytes hbytes
    · exact Folder.isUnreadable_putAt hput

end Errors

/-- However a trace came about without being read, or if its header was in the domain, whatever
was done to it since but for reading, its header is in the domain: every flag holds a truth
value, every code is that of a symbol which its field accepts, where they are not null, and all
text is well formed.  Hence every field of the trace can be read, all of them together as well,
and neither an update of the distances nor writing, to bytes or to a file, complains of a flag
or a code. -/
theorem inDomain_after {t : Trace} {history : List Operation}
    (hbegin : t.header.InDomain ∨ ∃ origin : Origin, origin.reads = false ∧ origin.trace = .ok t)
    (hops : ∀ op ∈ history, op.reads = false) :
    let now := t.after history
    now.header.InDomain ∧
    (∀ f ∈ Schema.fields, ∃ x, now.header.get f.name = .ok x) ∧
    (∃ values, now.header.entries = .ok values) ∧
    (∀ e t', Edit.updateDistances false now = .error e t' → e.isUnreadable = false) ∧
    (∀ options e t', Edit.toBytes options now = .error e t' → e.isUnreadable = false) ∧
    (∀ d path options e s, FileEdit.write path options ⟨now, d⟩ = .error e s →
      e.isUnreadable = false) := by
  intro now
  have hfirst : t.header.InDomain := by
    rcases hbegin with ht | ⟨origin, hreads, horigin⟩
    · exact ht
    · exact Trace.inDomain_origin hreads horigin
  have hnow : now.header.InDomain := hfirst.after_history hops
  refine ⟨hnow, fun f => hnow.exists_get, ?_, fun e t' he => ?_, fun options e t' he => ?_,
    fun d path options e s he => ?_⟩
  · exact Header.exists_entries_iff.2 fun f hf => Header.exists_value? hf (hnow f hf)
  · exact hnow.isUnreadable_updateDistances (Edit.updateDistances_eq_error_iff.1 he).1
  · exact hnow.isUnreadable_toBytes he
  · exact hnow.isUnreadable_write he

/-- The name of the station is cut off within a character, what is stored as a truth value is no
number, and the symbol is none that its field accepts. -/
def Operation.unusual : List Operation :=
  [.assignText .kstnm (some "Reykjavík"), .set "lpspol" (.real (.nan false)),
    .setSymbol "iztype" (some "nothing"), .updateDistances true, .reconvert]

theorem inDomain_after_unusual :
    (∀ op ∈ Operation.unusual, op.reads = false) ∧
    (Trace.new.after Operation.unusual).header.InDomain ∧
    ∃ values, (Trace.new.after Operation.unusual).header.entries = .ok values := by
  have hops : ∀ op ∈ Operation.unusual, op.reads = false := by decide
  obtain ⟨hnow, -, hentries, -⟩ := inDomain_after (Or.inr ⟨.new, rfl, rfl⟩) hops
  exact ⟨hops, hnow, hentries⟩

end Seismogram
