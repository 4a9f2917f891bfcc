/-
# Traces in files

Files stand in the folder that paths begin in and in the folders above it, up to the highest
one.  A path is walked piece by piece: two dots lead to the folder above, and the name of a
folder on the way leads down again.  Any other name is that of a file, there or not; no other
folder is.  Paths that no file can have are refused.  Reading a trace consults the files; writing
one acts on the trace and the files together.

Writing only the header patches the file that is there: its first bytes are replaced, the
samples and the fields that describe them stay, and so does the byte order.
-/
import Seismogram.Trace.Encoding

namespace Seismogram

open Seismogram.Number

/-- Where a file is: in the folder so many above the one that paths begin in, under a name. -/
structure FileName where
  height : Nat
  name : String
deriving DecidableEq

/-- Files in a folder and in the folders above it. -/
structure Folder where
  /-- The names of the folder and of those above it, up to the highest one, which has none. -/
  names : List String
  files : List (FileName × List UInt8)
deriving DecidableEq

/-- What a path leads to. -/
inductive Place
  /-- A file that is there. -/
  | file (name : FileName) (content : List UInt8)
  /-- A file that could be there. -/
  | vacant (name : FileName)
  /-- A folder. -/
  | folder
  /-- Something that is not there and could not be made, for want of its folder or of a name. -/
  | nowhere
  /-- Something that is not looked for: it would be in a file, as if that were a folder, or
  its path is none that a file can have. -/
  | refused
deriving DecidableEq

/-- The file that is there or could be. -/
def Place.name? : Place → Option FileName
  | .file name _ | .vacant name => some name
  | .folder | .nowhere | .refused => none

namespace Folder

/-- A folder without files, in the highest one. -/
def empty : Folder := ⟨["folder"], []⟩

/-- The content of a file. -/
def find? (d : Folder) (name : FileName) : Option (List UInt8) :=
  (d.files.find? (·.1 == name)).map Prod.snd

/-- The folder with a file of this content. -/
def put (d : Folder) (name : FileName) (content : List UInt8) : Folder :=
  { d with files := (name, content) :: d.files.filter (·.1 != name) }

/-- The pieces of a path between its slashes. -/
def pathPieces (path : String) : List (List Char) := Text.pieces (· == '/') path.toList

/-- A piece of a path that stays where it is. -/
def stays (piece : List Char) : Bool := piece == [] || piece == ['.']

/-- A piece of a path that leads to the folder above. -/
def rises (piece : List Char) : Bool := piece == ['.', '.']

/-- The most bytes that a name has. -/
def maxNameSize : Nat := 255

/-- The most bytes that a path has. -/
def maxPathSize : Nat := 4095

/-- The name of the one folder that is in the folder at a height. -/
def inner? (d : Folder) : Nat → Option String
  | 0 => none
  | height + 1 => d.names[height]?

/-- What the rest of a path leads to from the folder at a height.  The highest folder is its own
folder above. -/
def follow (d : Folder) (height : Nat) : List (List Char) → Place
  | [] => .folder
  | piece :: later =>
    if stays piece then d.follow height later
    else if rises piece then d.follow (min (height + 1) d.names.length) later
    else if maxNameSize < (Text.utf8 piece).length then .refused
    else if d.inner? height = some (String.ofList piece) then d.follow (height - 1) later
    else
      let name := ⟨height, String.ofList piece⟩
      match d.find? name, later with
      | some content, [] => .file name content
      | none, [] => .vacant name
      | some _, _ :: _ => .refused
      | none, _ :: _ => .nowhere

/-- What a path leads to.  One that begins with a slash leads from the highest folder, and the
one without a character leads nowhere. -/
def locate (d : Folder) (path : String) : Place :=
  if path.isEmpty then .nowhere
  else if path.toList.contains '\x00' || decide (maxPathSize < path.utf8ByteSize) then .refused
  else d.follow (if path.toList.head? = some '/' then d.names.length else 0) (pathPieces path)

/-- The file at a path, which must be there: its name and content. -/
def fileAt (d : Folder) (path : String) : Except Error (FileName × List UInt8) :=
  match d.locate path with
  | .file name content => .ok (name, content)
  | .vacant _ | .nowhere => .error (.fileNotFound path)
  | .folder | .refused => .error .fileSystem

/-- The trace in the file at a path.  Where only the header of a binary file is asked for,
no more than the header is read. -/
def read (d : Folder) (path : String) (options : ReadOptions) : Except Error Trace := do
  let (_, data) ← d.fileAt path
  let seen :=
    if options.headerOnly && !options.alphanumeric then data.take Binary.headerSize else data
  Trace.ofBytes seen options

/-- The slots of the real numbers that describe samples. -/
def sampleSlots : List (Fin 70) :=
  [Header.leastSlot, Header.greatestSlot, Header.meanSlot, Header.endSlot]

/-- The header of a patched file: that of the trace, with the fields that describe the
samples taken from the file. -/
def keepSampleFields (h stored : Header) : Header :=
  (sampleSlots.foldl (fun h slot => h.copyReal stored slot) h).copyInteger stored Header.countSlot

/-- The content of a file with its header patched.  The order that is asked for must be that
of the file. -/
def patch (content : List UInt8) (h : Header) (asked : Option ByteOrder) :
    Except Error (List UInt8) := do
  let (stored, o) ← Binary.decodeHeader (content.take Binary.headerSize) asked
  .ok (Binary.encodeHeader o (keepSampleFields h stored) ++ content.drop Binary.headerSize)

/-- The folder with bytes in the file at a path, which is made if it is not there. -/
def putAt (d : Folder) (path : String) (data : List UInt8) : Except Error Folder :=
  match (d.locate path).name? with
  | some name => .ok (d.put name data)
  | none => .error .fileSystem

/-! ## What paths lead to -/

example : (empty.put ⟨0, "f"⟩ []).locate "/folder/../folder/f" = .file ⟨0, "f"⟩ [] := by decide
example : (empty.put ⟨1, "f"⟩ []).locate "../f" = .file ⟨1, "f"⟩ [] := by decide

end Folder

/-! ## Writing -/

/-- A trace beside a folder. -/
structure Desk where
  trace : Trace
  folder : Folder
deriving DecidableEq

/-- An action on a trace and a folder.  What it has changed before it fails stays changed. -/
abbrev FileEdit (α : Type) := EStateM Error Desk α

namespace FileEdit

/-- An action on the trace alone. -/
def ofEdit {α : Type} (e : Edit α) : FileEdit α := fun s =>
  match e s.trace with
  | .ok a t => .ok a { s with trace := t }
  | .error err t => .error err { s with trace := t }

/-- An answer that changes nothing. -/
def ask {α : Type} (answer : Desk → Except Error α) : FileEdit α := fun s =>
  match answer s with
  | .ok a => .ok a s
  | .error e => .error e s

/-- Another folder, unless that fails. -/
def replaceFolder (change : Folder → Except Error Folder) : FileEdit Unit := fun s =>
  match change s.folder with
  | .ok d => .ok () { s with folder := d }
  | .error e => .error e s

/-- The header of the trace, its distances brought up to date, patched into the file at a
path. -/
def patchHeader (path : String) (asked : Option ByteOrder) : FileEdit Unit := do
  ofEdit (Edit.updateDistances false)
  let (name, content) ← ask (·.folder.fileAt path)
  let patched ← ask fun s => Folder.patch content s.trace.header asked
  replaceFolder fun d => .ok (d.put name patched)

/-- The trace written to the file at a path, or its header alone patched into that file. -/
def write (path : String) (options : WriteOptions) : FileEdit Unit :=
  if options.headerOnly && !options.alphanumeric then patchHeader path options.order
  else do
    let data ← ofEdit (Edit.toBytes options)
    replaceFolder (·.putAt path data)

end FileEdit

/-- The trace written beside a folder; the folder as it is afterwards. -/
def Edit.write (d : Folder) (path : String) (options : WriteOptions) : Edit Folder := fun t =>
  match FileEdit.write path options ⟨t, d⟩ with
  | .ok () s => .ok s.folder s.trace
  | .error e s => .error e s.trace

end Seismogram
