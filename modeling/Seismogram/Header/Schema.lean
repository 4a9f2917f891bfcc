/-
# The header fields

A header is 70 words of real numbers, 40 words of integers and 24 text slots of 8 bytes.
Every slot belongs to exactly one named field.  The cell of a field says where it is kept
and how what is kept there is read: a real number, a real number of seconds from the
reference time, an integer, a truth value, a code with a symbol, or text over one or more
slots.
-/

namespace Seismogram

/-- The number of words of real numbers. -/
def realSlots : Nat := 70

/-- The number of words of integers. -/
def integerSlots : Nat := 40

/-- The number of text slots. -/
def textSlots : Nat := 24

/-- The bytes of a text slot. -/
def textSlotWidth : Nat := 8

/-! There are slots of every kind, so numerals can name them. -/

instance neZero_realSlots : @NeZero Nat Zero.ofOfNat0 70 := ⟨Nat.succ_ne_zero _⟩

instance neZero_integerSlots : @NeZero Nat Zero.ofOfNat0 40 := ⟨Nat.succ_ne_zero _⟩

instance neZero_textSlots : @NeZero Nat Zero.ofOfNat0 24 := ⟨Nat.succ_ne_zero _⟩

instance neZero_textSlotPairs : @NeZero Nat Zero.ofOfNat0 23 := ⟨Nat.succ_ne_zero _⟩

/-- The kinds of field. -/
inductive Kind
  | real
  /-- A real number of seconds from the reference time. -/
  | relativeTime
  | integer
  /-- An integer that stands for a truth value: 0 or 1. -/
  | logical
  /-- An integer that is the code of a symbol. -/
  | enumerated
  | text
deriving DecidableEq, Repr

/-- The kind as messages and listings name it. -/
def Kind.name : Kind → String
  | real => "float"
  | relativeTime => "relative time"
  | integer => "integer"
  | logical => "logical"
  | enumerated => "enumerated"
  | text => "string"

/-- Consecutive text slots. -/
structure TextSpan where
  /-- The first slot. -/
  first : Nat
  /-- The number of slots. -/
  slots : Nat
  /-- The slots exist. -/
  fits : first + slots ≤ textSlots
deriving DecidableEq, Repr

namespace TextSpan

/-- One slot. -/
def one (slot : Fin 24) : TextSpan := ⟨slot, 1, slot.isLt⟩

/-- Two slots. -/
def two (first : Fin 23) : TextSpan := ⟨first, 2, Nat.succ_le_succ first.isLt⟩

/-- The first byte of the span among the text bytes. -/
def offset (s : TextSpan) : Nat := textSlotWidth * s.first

/-- The number of bytes of the span. -/
def width (s : TextSpan) : Nat := textSlotWidth * s.slots

end TextSpan

/-- Where a field is kept and how it is read. -/
inductive Cell
  | real (slot : Fin 70)
  /-- A real number of seconds from the reference time. -/
  | relativeTime (slot : Fin 70)
  | integer (slot : Fin 40)
  | logical (slot : Fin 40)
  /-- The code of one of the symbols that the field accepts. -/
  | enumerated (slot : Fin 40) (accepted : List String)
  | text (span : TextSpan)
deriving DecidableEq, Repr

namespace Cell

/-- The kind of what is kept. -/
def kind : Cell → Kind
  | real _ => .real
  | relativeTime _ => .relativeTime
  | integer _ => .integer
  | logical _ => .logical
  | enumerated _ _ => .enumerated
  | text _ => .text

/-- The number of the first slot, counted among the slots of its own array. -/
def slot : Cell → Nat
  | real s | relativeTime s => s
  | integer s | logical s | enumerated s _ => s
  | text span => span.first

/-- The bytes that are kept. -/
def width : Cell → Nat
  | text span => span.width
  | _ => 4

/-- The symbols that an enumerated field accepts. -/
def accepted : Cell → List String
  | enumerated _ symbols => symbols
  | _ => []

end Cell

/-- A named header field. -/
structure Field where
  name : String
  /-- Where it is kept and how it is read. -/
  cell : Cell
  /-- What it says, in one line. -/
  doc : String
deriving DecidableEq, Repr

/-- The kind of a field. -/
def Field.kind (f : Field) : Kind := f.cell.kind

namespace Schema

/-- The kinds of file. -/
def fileTypes : List String :=
  ["itime", "irlim", "iamph", "ixy", "ixyz"]

/-- What the samples measure. -/
def dependentVariables : List String :=
  ["iunkn", "idisp", "ivel", "ivolts", "iacc"]

/-- What the reference time is the time of. -/
def referenceEvents : List String :=
  ["iunkn", "ib", "iday", "io", "ia", "it0", "it1", "it2", "it3", "it4", "it5", "it6", "it7",
   "it8", "it9"]

/-- The types of event. -/
def eventTypes : List String :=
  ["iunkn", "inucl", "ipren", "ipostn", "iquake", "ipreq", "ipostq", "ichem", "iqb", "iqb1",
   "iqb2", "iqbx", "iqmt", "ieq", "ieq1", "ieq2", "ime", "iex", "inu", "inc", "io_", "il", "ir",
   "it", "iu", "iother"]

/-- The marks of synthetic data. -/
def syntheticFlags : List String :=
  ["irldta"]

/-- The magnitude scales. -/
def magnitudeTypes : List String :=
  ["imb", "ims", "iml", "imw", "imd", "imx"]

/-- The agencies that give magnitudes. -/
def magnitudeSources : List String :=
  ["ineic", "ipdeq", "ipdew", "ipde", "iisc", "ireb", "iusgs", "ibrk", "icaltech", "illnl",
   "ievloc", "ijsop", "iuser", "iunknown"]

/-- A field that holds a real number. -/
def real (name : String) (slot : Fin 70) (doc : String) : Field := ⟨name, .real slot, doc⟩

/-- A field that holds seconds from the reference time. -/
def relativeTime (name : String) (slot : Fin 70) (doc : String) : Field :=
  ⟨name, .relativeTime slot, doc⟩

/-- A field that holds an integer. -/
def integer (name : String) (slot : Fin 40) (doc : String) : Field := ⟨name, .integer slot, doc⟩

/-- A field that holds a truth value. -/
def logical (name : String) (slot : Fin 40) (doc : String) : Field := ⟨name, .logical slot, doc⟩

/-- A field that holds the code of a symbol. -/
def enumerated (name : String) (slot : Fin 40) (accepted : List String) (doc : String) : Field :=
  ⟨name, .enumerated slot accepted, doc⟩

/-- A field that holds text. -/
def text (name : String) (span : TextSpan) (doc : String) : Field := ⟨name, .text span, doc⟩

/-- Every field: real numbers, then integers, then text, each by rising slot. -/
def fields : List Field :=
  [real "delta" 0 "Increment between evenly spaced samples (nominal value).",
   real "depmin" 1 "Minimum value of dependent variable.",
   real "depmax" 2 "Maximum value of dependent variable.",
   real "scale" 3 "Multiplying scale factor for dependent variable.",
   real "odelta" 4 "Observed increment if different from nominal value.",
   relativeTime "b" 5 "Beginning value of the independent variable.",
   relativeTime "e" 6 "Ending value of the independent variable.",
   relativeTime "o" 7 "Event origin time (seconds relative to reference time).",
   relativeTime "a" 8 "First arrival time (seconds relative to reference time).",
   real "internal0" 9 "Internal.",
   relativeTime "t0" 10 "User defined time pick or marker 0.",
   relativeTime "t1" 11 "User defined time pick or marker 1.",
   relativeTime "t2" 12 "User defined time pick or marker 2.",
   relativeTime "t3" 13 "User defined time pick or marker 3.",
   relativeTime "t4" 14 "User defined time pick or marker 4.",
   relativeTime "t5" 15 "User defined time pick or marker 5.",
   relativeTime "t6" 16 "User defined time pick or marker 6.",
   relativeTime "t7" 17 "User defined time pick or marker 7.",
   relativeTime "t8" 18 "User defined time pick or marker 8.",
   relativeTime "t9" 19 "User defined time pick or marker 9.",
   relativeTime "f" 20 "Fini or end of event time (seconds relative to reference time).",
   real "resp0" 21 "Instrument response parameter 0.",
   real "resp1" 22 "Instrument response parameter 1.",
   real "resp2" 23 "Instrument response parameter 2.",
   real "resp3" 24 "Instrument response parameter 3.",
   real "resp4" 25 "Instrument response parameter 4.",
   real "resp5" 26 "Instrument response parameter 5.",
   real "resp6" 27 "Instrument response parameter 6.",
   real "resp7" 28 "Instrument response parameter 7.",
   real "resp8" 29 "Instrument response parameter 8.",
   real "resp9" 30 "Instrument response parameter 9.",
   real "stla" 31 "Station latitude (degrees, north positive).",
   real "stlo" 32 "Station longitude (degrees, east positive).",
   real "stel" 33 "Station elevation above sea level (meters).",
   real "stdp" 34 "Station depth below surface (meters).",
   real "evla" 35 "Event latitude (degrees, north positive).",
   real "evlo" 36 "Event longitude (degrees, east positive).",
   real "evel" 37 "Event elevation (meters).",
   real "evdp" 38 "Event depth below surface (kilometers).",
   real "mag" 39 "Event magnitude.",
   real "user0" 40 "User defined variable storage area 0.",
   real "user1" 41 "User defined variable storage area 1.",
   real "user2" 42 "User defined variable storage area 2.",
   real "user3" 43 "User defined variable storage area 3.",
   real "user4" 44 "User defined variable storage area 4.",
   real "user5" 45 "User defined variable storage area 5.",
   real "user6" 46 "User defined variable storage area 6.",
   real "user7" 47 "User defined variable storage area 7.",
   real "user8" 48 "User defined variable storage area 8.",
   real "user9" 49 "User defined variable storage area 9.",
   real "dist" 50 "Station to event distance (km).",
   real "az" 51 "Event to station azimuth (degrees).",
   real "baz" 52 "Station to event azimuth (degrees).",
   real "gcarc" 53 "Station to event great circle arc length (degrees).",
   real "internal1" 54 "Internal.",
   real "internal2" 55 "Internal.",
   real "depmen" 56 "Mean value of dependent variable.",
   real "cmpaz" 57 "Component azimuth (degrees clockwise from north).",
   real "cmpinc" 58 "Component incident angle (degrees from upward vertical).",
   real "xminimum" 59 "Minimum value of X (spectral files only).",
   real "xmaximum" 60 "Maximum value of X (spectral files only).",
   real "yminimum" 61 "Minimum value of Y (spectral files only).",
   real "ymaximum" 62 "Maximum value of Y (spectral files only).",
   real "unused6" 63 "Unused.",
   real "unused7" 64 "Unused.",
   real "unused8" 65 "Unused.",
   real "unused9" 66 "Unused.",
   real "unused10" 67 "Unused.",
   real "unused11" 68 "Unused.",
   real "unused12" 69 "Unused.",
   integer "nzyear" 0 "GMT year corresponding to reference (zero) time in file.",
   integer "nzjday" 1 "GMT julian day.",
   integer "nzhour" 2 "GMT hour.",
   integer "nzmin" 3 "GMT minute.",
   integer "nzsec" 4 "GMT second.",
   integer "nzmsec" 5 "GMT millisecond.",
   integer "nvhdr" 6 "Header version number.",
   integer "norid" 7 "Origin ID (CSS 3.0).",
   integer "nevid" 8 "Event ID (CSS 3.0).",
   integer "npts" 9 "Number of points per data component.",
   integer "internal3" 10 "Internal.",
   integer "nwfid" 11 "Waveform ID (CSS 3.0).",
   integer "nxsize" 12 "Spectral length (spectral files only).",
   integer "nysize" 13 "Spectral width (spectral files only).",
   integer "unused15" 14 "Unused.",
   enumerated "iftype" 15 fileTypes "Type of file.",
   enumerated "idep" 16 dependentVariables "Type of dependent variable.",
   enumerated "iztype" 17 referenceEvents "Reference time equivalence.",
   integer "unused16" 18 "Unused.",
   integer "iinst" 19 "Type of recording instrument.",
   integer "istreg" 20 "Station geographic region.",
   integer "ievreg" 21 "Event geographic region.",
   enumerated "ievtyp" 22 eventTypes "Type of event.",
   integer "iqual" 23 "Quality of data.",
   enumerated "isynth" 24 syntheticFlags "Synthetic data flag.",
   enumerated "imagtyp" 25 magnitudeTypes "Magnitude type.",
   enumerated "imagsrc" 26 magnitudeSources "Source of magnitude information.",
   integer "unused19" 27 "Unused.",
   integer "unused20" 28 "Unused.",
   integer "unused21" 29 "Unused.",
   integer "unused22" 30 "Unused.",
   integer "unused23" 31 "Unused.",
   integer "unused24" 32 "Unused.",
   integer "unused25" 33 "Unused.",
   integer "unused26" 34 "Unused.",
   logical "leven" 35 "TRUE if data is evenly spaced.",
   logical "lpspol" 36 "TRUE if station components have a positive polarity.",
   logical "lovrok" 37 "TRUE if it is okay to overwrite this file on disk.",
   logical "lcalda" 38 "TRUE if dist, az, baz and gcarc are calculated from coordinates.",
   integer "unused27" 39 "Unused.",
   text "kstnm" (.one 0) "Station name.",
   text "kevnm" (.two 1) "Event name.",
   text "khole" (.one 3) "Nuclear hole identifier or location identifier.",
   text "ko" (.one 4) "Event origin time identification.",
   text "ka" (.one 5) "First arrival time identification.",
   text "kt0" (.one 6) "User defined time pick identification 0.",
   text "kt1" (.one 7) "User defined time pick identification 1.",
   text "kt2" (.one 8) "User defined time pick identification 2.",
   text "kt3" (.one 9) "User defined time pick identification 3.",
   text "kt4" (.one 10) "User defined time pick identification 4.",
   text "kt5" (.one 11) "User defined time pick identification 5.",
   text "kt6" (.one 12) "User defined time pick identification 6.",
   text "kt7" (.one 13) "User defined time pick identification 7.",
   text "kt8" (.one 14) "User defined time pick identification 8.",
   text "kt9" (.one 15) "User defined time pick identification 9.",
   text "kf" (.one 16) "Fini identification.",
   text "kuser0" (.one 17) "User defined variable storage area 0.",
   text "kuser1" (.one 18) "User defined variable storage area 1.",
   text "kuser2" (.one 19) "User defined variable storage area 2.",
   text "kcmpnm" (.one 20) "Component name.",
   text "knetwk" (.one 21) "Name of seismic network.",
   text "kdatrd" (.one 22) "Date data was read onto computer.",
   text "kinst" (.one 23) "Generic name of recording instrument."]

/-- The field of a name. -/
def find? (name : String) : Option Field := fields.find? (·.name == name)

/-- The fields of a kind. -/
def ofKind (k : Kind) : List Field := fields.filter fun f => decide (f.kind = k)

/-! ## The names are names -/

/-- No two fields have the same name. -/
theorem names_nodup : (fields.map Field.name).Nodup := by decide +kernel

/-- A field is found by its name. -/
theorem find?_name_of_mem {f : Field} (hf : f ∈ fields) : find? f.name = some f := by
  have hfirst (others : List Field) (hnodup : (others.map Field.name).Nodup) (hf : f ∈ others) :
      others.find? (·.name == f.name) = some f := by
    induction others with
    | nil => exact absurd hf List.not_mem_nil
    | cons g rest ih =>
      obtain ⟨hother, hrest⟩ := List.nodup_cons.1 hnodup
      rcases List.mem_cons.1 hf with rfl | hf
      · exact List.find?_cons_of_pos (beq_self_eq_true _)
      · have hne : g.name ≠ f.name := fun heq => hother (heq ▸ List.mem_map_of_mem hf)
        rw [List.find?_cons_of_neg (by simpa using hne), ih hrest hf]
  exact hfirst fields names_nodup hf

/-- The field at a place of the schema is found by its name. -/
theorem find?_of_getElem? {i : Nat} {f : Field} (hf : fields[i]? = some f) :
    (find? f.name).map Field.cell = some f.cell := by
  rw [find?_name_of_mem (List.mem_of_getElem? hf), Option.map_some]

/-- The fields of real numbers take up the slots in order. -/
theorem real_slots : (fields.filterMap fun f =>
    match f.cell with
    | .real s | .relativeTime s => some s.val
    | _ => none) = List.range realSlots := by decide +kernel

/-- The fields of integers take up the slots in order. -/
theorem integer_slots : (fields.filterMap fun f =>
    match f.cell with
    | .integer s | .logical s | .enumerated s _ => some s.val
    | _ => none) = List.range integerSlots := by decide +kernel

/-- The fields of text take up the slots in order. -/
theorem text_slots : (fields.flatMap fun f =>
    match f.cell with
    | .text span => List.range' span.first span.slots
    | _ => []) = List.range textSlots := by decide +kernel

end Schema

end Seismogram
