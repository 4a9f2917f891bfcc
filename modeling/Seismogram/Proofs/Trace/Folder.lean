/-
# Files in a folder

A file that was put into a folder is found by every path that led to it before
(`locate_put`), and every other file is as it was (`find?_put_of_ne`).  The last part says
of each step of an action on a trace and a folder what it does when it succeeds and what
when it fails.
-/
import Mathlib.Tactic.Common
import Seismogram.Trace.Folder
import Seismogram.Proofs.Outcome

namespace Seismogram

open Seismogram.Outcome

namespace Folder

variable (d : Folder) (name : FileName) (content new : List UInt8)

/-! ### Names -/

lemma find?_put : (d.put name new).find? name = some new := by
  simp [find?, put]

lemma find?_put_of_ne {other : FileName} (hne : other ≠ name) :
    (d.put name new).find? other = d.find? other := by
  rw [find?, find?, put, List.find?_cons_of_neg (by simpa using Ne.symm hne), List.find?_filter]
  congr 2
  funext file
  by_cases hfile : file.1 = other
  · simp [hfile, hne]
  · simp [hfile]

/-! ### Paths -/

variable {d name content}

/-- A path leads to the file with its last piece for a name, in the folder that the pieces before
lead to. -/
lemma name?_follow_cons {height : ℕ} {piece : List Char} {later : List (List Char)} :
    (d.follow height (piece :: later)).name? = some name ↔
      if stays piece then (d.follow height later).name? = some name
      else if rises piece then
        (d.follow (min (height + 1) d.names.length) later).name? = some name
      else (Text.utf8 piece).length ≤ maxNameSize ∧
        if d.inner? height = some (String.ofList piece) then
          (d.follow (height - 1) later).name? = some name
        else later = [] ∧ ⟨height, String.ofList piece⟩ = name := by
  rw [follow]
  split_ifs with hstay hrise hlong hinner hinner
  · rfl
  · rfl
  · exact iff_of_false (by simp [Place.name?]) fun h => absurd hlong (Nat.not_lt_of_le h.1)
  · exact iff_of_false (by simp [Place.name?]) fun h => absurd hlong (Nat.not_lt_of_le h.1)
  · exact (and_iff_right (Nat.le_of_not_lt hlong)).symm
  · rw [and_iff_right (Nat.le_of_not_lt hlong)]
    dsimp only
    cases d.find? ⟨height, String.ofList piece⟩ <;> cases later <;> simp [Place.name?]

/-- A path that leads to a file, there or not, leads to what is put in its place. -/
lemma follow_put {height : ℕ} {pieces : List (List Char)}
    (h : (d.follow height pieces).name? = some name) :
    (d.put name new).follow height pieces = .file name new := by
  induction pieces generalizing height with
  | nil => simp [follow, Place.name?] at h
  | cons piece later ih =>
      have hinner : (d.put name new).inner? height = d.inner? height := rfl
      rw [name?_follow_cons] at h
      rw [follow, hinner]
      split_ifs at h ⊢ with hstay hrise hlong
      · exact ih h
      · exact ih h
      · exact absurd hlong (Nat.not_lt_of_le h.1)
      · exact absurd hlong (Nat.not_lt_of_le h.1)
      · exact ih h.2
      · obtain ⟨-, rfl, rfl⟩ := h
        dsimp only
        rw [find?_put]

lemma locate_put_of_name? {path : String} (h : (d.locate path).name? = some name) :
    (d.put name new).locate path = .file name new := by
  rw [locate] at h ⊢
  split_ifs at h ⊢ with hempty hrefused
  · simp [Place.name?] at h
  · simp [Place.name?] at h
  · exact follow_put new h
  · exact follow_put new h

lemma locate_put {path : String} (h : d.locate path = .file name content) :
    (d.put name new).locate path = .file name new :=
  locate_put_of_name? new (by rw [h, Place.name?])

/-- What is written to a path is found there. -/
lemma locate_of_putAt {path : String} {data : List UInt8} {d' : Folder}
    (h : d.putAt path data = .ok d') : ∃ name, d'.locate path = .file name data := by
  rw [putAt] at h
  split at h
  · rename_i name hname
    obtain rfl := Except.ok.inj h
    exact ⟨name, locate_put_of_name? data hname⟩
  · exact absurd h (by simp)

lemma fileAt_eq_ok_iff {path : String} :
    d.fileAt path = .ok (name, content) ↔ d.locate path = .file name content := by
  rw [fileAt]
  cases d.locate path <;> simp

lemma read_of_locate {path : String} (h : d.locate path = .file name content)
    (asked : Option ByteOrder) (exact : Bool) :
    d.read path { order := asked, exactSize := exact } =
      Trace.ofBytes content { order := asked, exactSize := exact } := by
  simp [read, fileAt, h]

/-- What is read as a whole is what the file at the path holds. -/
lemma read_eq_ok_iff {path : String} {asked : Option ByteOrder} {exact : Bool} {t : Trace} :
    d.read path { order := asked, exactSize := exact } = .ok t ↔
      ∃ name content, d.locate path = .file name content ∧
        Trace.ofBytes content { order := asked, exactSize := exact } = .ok t := by
  simp [read, bind_eq_ok_iff, fileAt_eq_ok_iff]

end Folder

/-! ### Steps of an action on a trace and a folder -/

namespace FileEdit

variable {s s' : Desk} {e : Error}

lemma ofEdit_eq_ok_iff {α : Type} {edit : Edit α} {a : α} :
    ofEdit edit s = .ok a s' ↔ ∃ t, edit s.trace = .ok a t ∧ s' = { s with trace := t } := by
  rw [ofEdit]
  cases edit s.trace <;> simp [eq_comm]

lemma ofEdit_eq_error_iff {α : Type} {edit : Edit α} :
    ofEdit edit s = .error e s' ↔ ∃ t, edit s.trace = .error e t ∧ s' = { s with trace := t } := by
  rw [ofEdit]
  cases edit s.trace <;> simp [eq_comm]

lemma ask_eq_ok_iff {α : Type} {answer : Desk → Except Error α} {a : α} :
    ask answer s = .ok a s' ↔ answer s = .ok a ∧ s' = s := by
  rw [ask]
  cases answer s <;> simp [eq_comm]

lemma ask_eq_error_iff {α : Type} {answer : Desk → Except Error α} :
    ask answer s = .error e s' ↔ answer s = .error e ∧ s' = s := by
  rw [ask]
  cases answer s <;> simp [eq_comm]

lemma replaceFolder_eq_ok_iff {change : Folder → Except Error Folder} {u : Unit} :
    replaceFolder change s = .ok u s' ↔
      ∃ d, change s.folder = .ok d ∧ s' = { s with folder := d } := by
  rw [replaceFolder]
  cases change s.folder <;> simp [eq_comm]

lemma replaceFolder_eq_error_iff {change : Folder → Except Error Folder} :
    replaceFolder change s = .error e s' ↔ change s.folder = .error e ∧ s' = s := by
  rw [replaceFolder]
  cases change s.folder <;> simp [eq_comm]

end FileEdit

end Seismogram
