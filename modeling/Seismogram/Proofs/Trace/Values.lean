/-
# Values stored by name

The entries of a header are the values that can be read from it, each name once
(`Header.mem_entries_iff`).  Values of distinct names that are stored one after the other do
not disturb each other: a field holds what was stored for its name
(`Header.storeAll_of_mem`), or what it held before (`Header.storeAll_sameCell`).  Absolute
times change no integer, so that all of them are measured from the reference time that the
other values left.
-/
import Mathlib.Data.List.Nodup
import Mathlib.Tactic.Common
import Seismogram.Proofs.Header.Stored
import Seismogram.Proofs.Trace.RelativeTimes

namespace Seismogram

open Seismogram.Number Seismogram.Time Seismogram.Outcome

/-- The value is an absolute time. -/
def Value.isTime : Value → Bool
  | time _ => true
  | _ => false

namespace Header

variable {h k : Header} {f : Field} {v : Value} {values : List (String × Value)}

/-! ### The entries of a header -/

/-- What was read of some fields, one by one. -/
def ReadFields (h : Header) (fields : List Field) (read : List (Option (String × Value))) : Prop :=
  List.Forall₂ (fun f entry => ∃ x, h.value? f = .ok x ∧ entry = x.map fun v => (f.name, v))
    fields read

lemma mem_of_readFields {fields : List Field} {read : List (Option (String × Value))}
    (hread : h.ReadFields fields read) {entry : String × Value} :
    entry ∈ read.filterMap id ↔
      ∃ f ∈ fields, ∃ v, h.value? f = .ok (some v) ∧ entry = (f.name, v) := by
  induction hread with
  | nil => simp
  | cons hfirst _ ih =>
      obtain ⟨x, hx, rfl⟩ := hfirst
      cases x with
      | none =>
          rw [Option.map_none, List.filterMap_cons, id, ih]
          simp [hx]
      | some v =>
          rw [Option.map_some, List.filterMap_cons, id, List.mem_cons, ih]
          simp [hx]

lemma names_sublist_of_readFields {fields : List Field} {read : List (Option (String × Value))}
    (hread : h.ReadFields fields read) :
    ((read.filterMap id).map Prod.fst).Sublist (fields.map Field.name) := by
  induction hread with
  | nil => simp
  | cons hfirst _ ih =>
      obtain ⟨x, -, rfl⟩ := hfirst
      cases x with
      | none => simpa using ih.cons _
      | some v => simpa using ih

lemma entries_eq_ok_iff : h.entries = .ok values ↔
    ∃ read, h.ReadFields Schema.fields read ∧ values = read.filterMap id := by
  simp only [entries, bind_eq_ok_iff, mapM_eq_ok_iff, Except.ok.injEq]
  refine exists_congr fun read => and_congr ?_ eq_comm
  simp only [ReadFields, eq_comm]

/-- The entries are the values that are read. -/
lemma mem_entries_iff (hvalues : h.entries = .ok values) (hf : f ∈ Schema.fields) :
    (f.name, v) ∈ values ↔ h.value? f = .ok (some v) := by
  obtain ⟨read, hread, rfl⟩ := entries_eq_ok_iff.1 hvalues
  rw [mem_of_readFields hread]
  constructor
  · rintro ⟨g, hg, w, hw, heq⟩
    rw [Prod.mk.injEq] at heq
    obtain rfl := List.inj_on_of_nodup_map Schema.names_nodup hf hg heq.1
    rw [hw, heq.2]
  · exact fun hv => ⟨f, hf, v, hv, rfl⟩

lemma exists_of_mem_entries (hvalues : h.entries = .ok values) {entry : String × Value}
    (hentry : entry ∈ values) :
    ∃ f ∈ Schema.fields, ∃ v, h.value? f = .ok (some v) ∧ entry = (f.name, v) := by
  obtain ⟨read, hread, rfl⟩ := entries_eq_ok_iff.1 hvalues
  exact (mem_of_readFields hread).1 hentry

lemma names_nodup_of_entries (hvalues : h.entries = .ok values) :
    (values.map Prod.fst).Nodup := by
  obtain ⟨read, hread, rfl⟩ := entries_eq_ok_iff.1 hvalues
  exact (names_sublist_of_readFields hread).nodup Schema.names_nodup

lemma exists_readFields_iff {fields : List Field} :
    (∃ read, h.ReadFields fields read) ↔ ∀ f ∈ fields, ∃ x, h.value? f = .ok x := by
  induction fields with
  | nil => simp [ReadFields]
  | cons first rest ih =>
      rw [List.forall_mem_cons, ← ih]
      simp only [ReadFields, List.forall₂_cons_left_iff]
      constructor
      · rintro ⟨_, _, read, ⟨x, hx, rfl⟩, hread, rfl⟩
        exact ⟨⟨x, hx⟩, read, hread⟩
      · rintro ⟨⟨x, hx⟩, read, hread⟩
        exact ⟨_, _, read, ⟨x, hx, rfl⟩, hread, rfl⟩

/-- There are entries if every field can be read. -/
lemma exists_entries_iff :
    (∃ values, h.entries = .ok values) ↔ ∀ f ∈ Schema.fields, ∃ x, h.value? f = .ok x := by
  rw [← exists_readFields_iff]
  constructor
  · rintro ⟨values, hvalues⟩
    obtain ⟨read, hread, -⟩ := entries_eq_ok_iff.1 hvalues
    exact ⟨read, hread⟩
  · rintro ⟨read, hread⟩
    exact ⟨_, entries_eq_ok_iff.2 ⟨read, hread, rfl⟩⟩

/-- No field holds an absolute time. -/
lemma isTime_of_value? (hv : h.value? f = .ok (some v)) : v.isTime = false := by
  rw [value?] at hv
  cases hcell : f.cell <;>
    simp only [hcell, bind_eq_ok_iff, Except.ok.injEq, Option.map_eq_some_iff] at hv
  case real => obtain ⟨_, -, rfl⟩ := hv; rfl
  case relativeTime => obtain ⟨_, -, rfl⟩ := hv; rfl
  case integer => obtain ⟨_, -, rfl⟩ := hv; rfl
  case logical => obtain ⟨_, -, _, -, rfl⟩ := hv; rfl
  case enumerated => obtain ⟨_, -, _, -, rfl⟩ := hv; rfl
  case text => obtain ⟨_, -, rfl⟩ := hv; rfl

/-! ### Values stored one after the other -/

/-- Values stored in the fields of their names, one after the other. -/
def storeAll (h : Header) (values : List (String × Value)) : Except Error Header :=
  values.foldlM (fun h entry => do h.store (← Schema.field entry.1) entry.2) h

lemma storeAll_cons_eq_ok_iff {entry : String × Value} :
    h.storeAll (entry :: values) = .ok k ↔ ∃ f next, Schema.find? entry.1 = some f ∧
      h.store f entry.2 = .ok next ∧ next.storeAll values = .ok k := by
  simp only [storeAll, List.foldlM_cons, bind_eq_ok_iff, Schema.field_eq_ok_iff]
  constructor
  · rintro ⟨next, ⟨f, hf, hnext⟩, hk⟩
    exact ⟨f, next, hf, hnext, hk⟩
  · rintro ⟨f, next, hf, hnext, hk⟩
    exact ⟨next, ⟨f, hf, hnext⟩, hk⟩

lemma storeAll_append_eq_ok_iff {later : List (String × Value)} :
    h.storeAll (values ++ later) = .ok k ↔
      ∃ next, h.storeAll values = .ok next ∧ next.storeAll later = .ok k := by
  rw [storeAll, List.foldlM_append, bind_eq_ok_iff]
  rfl

/-- What is stored for other names is not seen in a field. -/
lemma storeAll_sameCell (hk : h.storeAll values = .ok k) (hf : f ∈ Schema.fields)
    (hother : f.name ∉ values.map Prod.fst) : SameCell f.cell h k := by
  induction values generalizing h with
  | nil =>
      obtain rfl := Except.ok.inj hk
      exact SameCell.refl _ _
  | cons first rest ih =>
      rw [List.map_cons, List.mem_cons, not_or] at hother
      obtain ⟨g, next, hg, hnext, hrest⟩ := storeAll_cons_eq_ok_iff.1 hk
      obtain ⟨hmem, hname⟩ := Schema.find?_eq_some hg
      have hne : f ≠ g := fun heq => hother.1 (heq ▸ hname)
      have hfirst := (eqExceptCell_store hnext).sameCell (Schema.apart hf hmem hne)
      exact hfirst.trans (ih hrest hother.2)

/-- A field holds what was stored for its name. -/
lemma storeAll_of_mem (hk : h.storeAll values = .ok k) (hnodup : (values.map Prod.fst).Nodup)
    (hf : f ∈ Schema.fields) (hmem : (f.name, v) ∈ values) :
    ∃ before later g stored, values = before ++ later ∧ h.storeAll before = .ok g ∧
      g.store f v = .ok stored ∧ SameCell f.cell stored k := by
  obtain ⟨before, later, rfl⟩ := List.append_of_mem hmem
  obtain ⟨g, hg, hlater⟩ := storeAll_append_eq_ok_iff.1 hk
  obtain ⟨f', stored, hf', hstored, hlater⟩ := storeAll_cons_eq_ok_iff.1 hlater
  obtain rfl := Option.some.inj ((Schema.find?_name_of_mem hf).symm.trans hf')
  refine ⟨before, _, g, stored, rfl, hg, hstored, storeAll_sameCell hlater hf ?_⟩
  rw [List.map_append, List.map_cons] at hnodup
  exact (List.nodup_cons.1 (List.nodup_append.1 hnodup).2.1).1

/-- Values that every header takes can be stored one after the other. -/
lemma exists_storeAll (hvalues : ∀ entry ∈ values, ∃ f, Schema.find? entry.1 = some f ∧
    ∀ g : Header, ∃ next, g.store f entry.2 = .ok next) : ∃ k, h.storeAll values = .ok k := by
  induction values generalizing h with
  | nil => exact ⟨h, rfl⟩
  | cons first rest ih =>
      obtain ⟨⟨f, hf, hstore⟩, hrest⟩ := List.forall_mem_cons.1 hvalues
      obtain ⟨next, hnext⟩ := hstore h
      obtain ⟨k, hk⟩ := ih (h := next) hrest
      exact ⟨k, storeAll_cons_eq_ok_iff.2 ⟨f, next, hf, hnext, hk⟩⟩

/-- An absolute time is stored as its distance from the reference time. -/
lemma store_time_eq_ok_iff {t : Instant} :
    h.store f (.time t) = .ok k ↔ ∃ slot, f.cell = .relativeTime slot ∧
      h.setInstant slot t = .ok k := by
  unfold store
  cases f.cell <;> simp

/-- Absolute times change no integer. -/
lemma integers_storeAll (htimes : ∀ entry ∈ values, entry.2.isTime = true)
    (hk : h.storeAll values = .ok k) : k.integers = h.integers := by
  induction values generalizing h with
  | nil =>
      obtain rfl := Except.ok.inj hk
      rfl
  | cons first rest ih =>
      obtain ⟨name, v⟩ := first
      obtain ⟨hfirst, hlater⟩ := List.forall_mem_cons.1 htimes
      obtain ⟨f, next, -, hnext, hrest⟩ := storeAll_cons_eq_ok_iff.1 hk
      rw [ih hlater hrest]
      cases v with
      | time t =>
          obtain ⟨slot, -, hinstant⟩ := store_time_eq_ok_iff.1 hnext
          rw [setInstant, bind_eq_ok_iff] at hinstant
          obtain ⟨_, -, hset⟩ := hinstant
          obtain rfl := Except.ok.inj hset
          rfl
      | real | integer | logical | text => exact absurd hfirst (by simp [Value.isTime])

end Header

/-! ### Absolute times after the others -/

namespace Trace

variable {h k : Header} {f : Field} {values : List (String × Value)}

open Header

lemma storeTimes_eq : storeTimes h values = h.storeAll (values.filter fun e => e.2.isTime) := by
  induction values generalizing h with
  | nil => rfl
  | cons first rest ih =>
      obtain ⟨name, v⟩ := first
      simp only [storeTimes, storeAll, List.foldlM_cons] at ih ⊢
      cases v with
      | time t =>
          rw [List.filter_cons_of_pos rfl, List.foldlM_cons]
          exact congrArg _ (funext fun _ => ih)
      | real | integer | logical | text =>
          rw [List.filter_cons_of_neg (by simp [Value.isTime])]
          exact ih

lemma storeOthers_cons_eq_ok_iff {name : String} {v : Value} :
    storeOthers h ((name, v) :: values) = .ok k ↔ ∃ f next, Schema.find? name = some f ∧
      (if v.isTime then next = h else h.store f v = .ok next) ∧ storeOthers next values = .ok k := by
  simp only [storeOthers, List.foldlM_cons, bind_eq_ok_iff, Schema.field_eq_ok_iff]
  constructor
  · rintro ⟨next, ⟨f, hf, hnext⟩, hk⟩
    refine ⟨f, next, hf, ?_, hk⟩
    cases v with
    | time t => exact (Except.ok.inj hnext).symm
    | real | integer | logical | text => exact hnext
  · rintro ⟨f, next, hf, hnext, hk⟩
    refine ⟨next, ⟨f, hf, ?_⟩, hk⟩
    cases v with
    | time t => exact congrArg Except.ok (Eq.symm hnext)
    | real | integer | logical | text => exact hnext

/-- The other values are stored one after the other; of an absolute time the name alone is
looked up. -/
lemma storeOthers_eq_ok_iff : storeOthers h values = .ok k ↔
    h.storeAll (values.filter fun e => !e.2.isTime) = .ok k ∧
      ∀ entry ∈ values, ∃ f, Schema.find? entry.1 = some f := by
  induction values generalizing h with
  | nil => simp [storeOthers, storeAll]
  | cons first rest ih =>
      obtain ⟨name, v⟩ := first
      rw [storeOthers_cons_eq_ok_iff, List.forall_mem_cons]
      cases htime : v.isTime with
      | true =>
          rw [List.filter_cons_of_neg (by simp [htime])]
          simp only [if_true, ih]
          constructor
          · rintro ⟨f, next, hf, rfl, hk, hnames⟩
            exact ⟨hk, ⟨f, hf⟩, hnames⟩
          · rintro ⟨hk, ⟨f, hf⟩, hnames⟩
            exact ⟨f, h, hf, rfl, hk, hnames⟩
      | false =>
          rw [List.filter_cons_of_pos (by simp [htime]), storeAll_cons_eq_ok_iff]
          simp only [Bool.false_eq_true, if_false, ih]
          constructor
          · rintro ⟨f, next, hf, hnext, hk, hnames⟩
            exact ⟨⟨f, next, hf, hnext, hk⟩, ⟨f, hf⟩, hnames⟩
          · rintro ⟨⟨f, next, hf, hnext, hk⟩, -, hnames⟩
            exact ⟨f, next, hf, hnext, hk, hnames⟩

/-- Without absolute times there is nothing to be stored later. -/
lemma storeOthers_eq (hvalues : ∀ entry ∈ values, entry.2.isTime = false) :
    storeOthers h values = h.storeAll values := by
  induction values generalizing h with
  | nil => rfl
  | cons first rest ih =>
      obtain ⟨name, v⟩ := first
      obtain ⟨hfirst, hrest⟩ := List.forall_mem_cons.1 hvalues
      simp only [storeOthers, storeAll, List.foldlM_cons] at ih ⊢
      cases v with
      | time t => exact absurd hfirst (by simp [Value.isTime])
      | real | integer | logical | text => exact congrArg _ (funext fun _ => ih hrest)

lemma storeTimes_eq_self (hvalues : ∀ entry ∈ values, entry.2.isTime = false) :
    storeTimes h values = .ok h := by
  have hnone : values.filter (fun e => e.2.isTime) = [] :=
    List.filter_eq_nil_iff.2 fun e he => by rw [hvalues e he]; simp
  rw [storeTimes_eq, hnone]
  rfl

lemma integers_storeTimes (hk : storeTimes h values = .ok k) : k.integers = h.integers := by
  rw [storeTimes_eq] at hk
  exact integers_storeAll (fun e he => (List.mem_filter.1 he).2) hk

/-- What a field holds after values of distinct names were stored. -/
structure Stored (values : List (String × Value)) (f : Field) (h middle k : Header) : Prop where
  absent : (∀ v, (f.name, v) ∉ values) → SameCell f.cell h k
  present : ∀ v, (f.name, v) ∈ values → v.isTime = false →
    ∃ g stored : Header, g.store f v = .ok stored ∧ SameCell f.cell stored k
  instant : ∀ t, (f.name, .time t) ∈ values → ∃ slot reference, f.cell = .relativeTime slot ∧
    middle.referenceTime = .ok reference ∧
    k.storedReal slot = (secondsBetween t reference).narrow

lemma stored_of_storeTimes {middle : Header} (hothers : storeOthers h values = .ok middle)
    (htimes : storeTimes middle values = .ok k) (hnodup : (values.map Prod.fst).Nodup)
    (hf : f ∈ Schema.fields) : Stored values f h middle k := by
  replace hothers := (storeOthers_eq_ok_iff.1 hothers).1
  rw [storeTimes_eq] at htimes
  have hnames {p : String × Value → Bool} : ((values.filter p).map Prod.fst).Nodup :=
    (List.filter_sublist.map Prod.fst).nodup hnodup
  have hnotin {p : String × Value → Bool} (hnone : ∀ v, (f.name, v) ∈ values → p (f.name, v) = false) :
      f.name ∉ (values.filter p).map Prod.fst := by
    simp only [List.mem_map, List.mem_filter, not_exists, not_and]
    rintro ⟨_, v⟩ ⟨hmem, hp⟩ rfl
    exact absurd (hp.symm.trans (hnone v hmem)) (by simp)
  have hone {v w : Value} (hv : (f.name, v) ∈ values) (hw : (f.name, w) ∈ values) : v = w :=
    congrArg Prod.snd (List.inj_on_of_nodup_map hnodup hv hw rfl)
  refine ⟨fun habsent => ?_, fun v hv hother => ?_, fun t ht => ?_⟩
  · have hmiddle := storeAll_sameCell hothers hf (hnotin fun v hv => absurd hv (habsent v))
    exact hmiddle.trans (storeAll_sameCell htimes hf (hnotin fun v hv => absurd hv (habsent v)))
  · have hmem : (f.name, v) ∈ values.filter fun e => !e.2.isTime :=
      List.mem_filter.2 ⟨hv, by simp [hother]⟩
    obtain ⟨_, _, g, stored, -, -, hstored, hmiddle⟩ := storeAll_of_mem hothers hnames hf hmem
    refine ⟨g, stored, hstored, hmiddle.trans (storeAll_sameCell htimes hf (hnotin ?_))⟩
    intro w hw
    rw [hone hw hv]
    exact hother
  · have hmem : (f.name, .time t) ∈ values.filter fun e => e.2.isTime :=
      List.mem_filter.2 ⟨ht, rfl⟩
    obtain ⟨before, later, g, stored, hsplit, hg, hstored, hk⟩ :=
      storeAll_of_mem htimes hnames hf hmem
    obtain ⟨slot, hcell, hinstant⟩ := store_time_eq_ok_iff.1 hstored
    obtain ⟨reference, hreference, rfl⟩ := setInstant_eq_ok_iff.1 hinstant
    refine ⟨slot, reference, hcell, ?_, ?_⟩
    · -- the times before this one left the reference time
      have hbefore : ∀ e ∈ before, e.2.isTime = true := by
        intro e he
        have hmem : e ∈ values.filter fun e => e.2.isTime :=
          hsplit ▸ List.mem_append_left later he
        exact (List.mem_filter.1 hmem).2
      rw [← hreference]
      exact (referenceTime_congr fun _ _ =>
        storedInteger_congr (integers_storeAll hbefore hg) _).symm
    · rw [hk.reals slot (by rw [hcell]; rfl), storedReal_setReal, if_pos rfl, Option.getD_some]

end Trace

end Seismogram
