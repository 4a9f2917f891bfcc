/-
# Names with a kind

A name of one of the types here is the name of a field of a known kind, so that the value
read or written has the right type and no look-up can fail.  The names of each type are
told apart by what setting them does: coordinates and the flag `lcalda` bring the distances
up to date and may fail at that, symbols may be refused, and the others only store.

Fields that the format keeps for itself have no such name; they are reached by their text
names alone.
-/
import Seismogram.Header.Basic

namespace Seismogram

/-- The fields of real numbers that are stored and nothing else, relative times included. -/
inductive RealName
  | delta | depmin | depmax | scale | odelta | b | e | o | a | t0 | t1 | t2 | t3 | t4 | t5 | t6
  | t7 | t8 | t9 | f | resp0 | resp1 | resp2 | resp3 | resp4 | resp5 | resp6 | resp7 | resp8
  | resp9 | stel | stdp | evel | evdp | mag | user0 | user1 | user2 | user3 | user4 | user5
  | user6 | user7 | user8 | user9 | dist | az | baz | gcarc | depmen | cmpaz | cmpinc | xminimum
  | xmaximum | yminimum | ymaximum
deriving DecidableEq, Repr

namespace RealName

/-- Every such name. -/
def all : List RealName :=
  [.delta, .depmin, .depmax, .scale, .odelta, .b, .e, .o, .a, .t0, .t1, .t2, .t3, .t4, .t5,
   .t6, .t7, .t8, .t9, .f, .resp0, .resp1, .resp2, .resp3, .resp4, .resp5, .resp6, .resp7,
   .resp8, .resp9, .stel, .stdp, .evel, .evdp, .mag, .user0, .user1, .user2, .user3, .user4,
   .user5, .user6, .user7, .user8, .user9, .dist, .az, .baz, .gcarc, .depmen, .cmpaz, .cmpinc,
   .xminimum, .xmaximum, .yminimum, .ymaximum]

/-- The name as text. -/
def name : RealName → String
  | delta => "delta"
  | depmin => "depmin"
  | depmax => "depmax"
  | scale => "scale"
  | odelta => "odelta"
  | b => "b"
  | e => "e"
  | o => "o"
  | a => "a"
  | t0 => "t0"
  | t1 => "t1"
  | t2 => "t2"
  | t3 => "t3"
  | t4 => "t4"
  | t5 => "t5"
  | t6 => "t6"
  | t7 => "t7"
  | t8 => "t8"
  | t9 => "t9"
  | f => "f"
  | resp0 => "resp0"
  | resp1 => "resp1"
  | resp2 => "resp2"
  | resp3 => "resp3"
  | resp4 => "resp4"
  | resp5 => "resp5"
  | resp6 => "resp6"
  | resp7 => "resp7"
  | resp8 => "resp8"
  | resp9 => "resp9"
  | stel => "stel"
  | stdp => "stdp"
  | evel => "evel"
  | evdp => "evdp"
  | mag => "mag"
  | user0 => "user0"
  | user1 => "user1"
  | user2 => "user2"
  | user3 => "user3"
  | user4 => "user4"
  | user5 => "user5"
  | user6 => "user6"
  | user7 => "user7"
  | user8 => "user8"
  | user9 => "user9"
  | dist => "dist"
  | az => "az"
  | baz => "baz"
  | gcarc => "gcarc"
  | depmen => "depmen"
  | cmpaz => "cmpaz"
  | cmpinc => "cmpinc"
  | xminimum => "xminimum"
  | xmaximum => "xmaximum"
  | yminimum => "yminimum"
  | ymaximum => "ymaximum"

/-- The slot. -/
def slot : RealName → Fin 70
  | delta => 0
  | depmin => 1
  | depmax => 2
  | scale => 3
  | odelta => 4
  | b => 5
  | e => 6
  | o => 7
  | a => 8
  | t0 => 10
  | t1 => 11
  | t2 => 12
  | t3 => 13
  | t4 => 14
  | t5 => 15
  | t6 => 16
  | t7 => 17
  | t8 => 18
  | t9 => 19
  | f => 20
  | resp0 => 21
  | resp1 => 22
  | resp2 => 23
  | resp3 => 24
  | resp4 => 25
  | resp5 => 26
  | resp6 => 27
  | resp7 => 28
  | resp8 => 29
  | resp9 => 30
  | stel => 33
  | stdp => 34
  | evel => 37
  | evdp => 38
  | mag => 39
  | user0 => 40
  | user1 => 41
  | user2 => 42
  | user3 => 43
  | user4 => 44
  | user5 => 45
  | user6 => 46
  | user7 => 47
  | user8 => 48
  | user9 => 49
  | dist => 50
  | az => 51
  | baz => 52
  | gcarc => 53
  | depmen => 56
  | cmpaz => 57
  | cmpinc => 58
  | xminimum => 59
  | xmaximum => 60
  | yminimum => 61
  | ymaximum => 62

/-- The schema has the name, with the slot that is used here. -/
theorem find?_name (n : RealName) :
    (Schema.find? n.name).map Field.cell = some (.real n.slot) ∨
      (Schema.find? n.name).map Field.cell = some (.relativeTime n.slot) := by
  obtain ⟨f, hf, hname, hcell⟩ : ∃ f, Schema.fields[n.slot.val]? = some f ∧ f.name = n.name ∧
      (f.cell = .real n.slot ∨ f.cell = .relativeTime n.slot) := by
    cases n <;> first | exact ⟨_, rfl, rfl, .inl rfl⟩ | exact ⟨_, rfl, rfl, .inr rfl⟩
  rw [← hname, Schema.find?_of_getElem? hf]
  exact hcell.imp (congrArg some) (congrArg some)

/-- No name is left out. -/
theorem mem_all (n : RealName) : n ∈ all := by cases n <;> decide

end RealName

/-- The coordinates of station and event. -/
inductive Coordinate
  | stla | stlo | evla | evlo
deriving DecidableEq, Repr

namespace Coordinate

/-- Every such name. -/
def all : List Coordinate :=
  [.stla, .stlo, .evla, .evlo]

/-- The name as text. -/
def name : Coordinate → String
  | stla => "stla"
  | stlo => "stlo"
  | evla => "evla"
  | evlo => "evlo"

/-- The slot. -/
def slot : Coordinate → Fin 70
  | stla => 31
  | stlo => 32
  | evla => 35
  | evlo => 36

/-- The schema has the name, with the cell that is used here. -/
theorem find?_name (n : Coordinate) : (Schema.find? n.name).map Field.cell = some (.real n.slot) := by
  obtain ⟨f, hf, hname, hcell⟩ : ∃ f, Schema.fields[n.slot.val]? = some f ∧
      f.name = n.name ∧ f.cell = .real n.slot := by
    cases n <;> exact ⟨_, rfl, rfl, rfl⟩
  rw [← hname, ← hcell, Schema.find?_of_getElem? hf]

/-- No name is left out. -/
theorem mem_all (n : Coordinate) : n ∈ all := by cases n <;> decide

end Coordinate

/-- The fields of integers. -/
inductive IntegerName
  | nzyear | nzjday | nzhour | nzmin | nzsec | nzmsec | nvhdr | norid | nevid | npts | nwfid
  | nxsize | nysize | iinst | istreg | ievreg | iqual
deriving DecidableEq, Repr

namespace IntegerName

/-- Every such name. -/
def all : List IntegerName :=
  [.nzyear, .nzjday, .nzhour, .nzmin, .nzsec, .nzmsec, .nvhdr, .norid, .nevid, .npts, .nwfid,
   .nxsize, .nysize, .iinst, .istreg, .ievreg, .iqual]

/-- The name as text. -/
def name : IntegerName → String
  | nzyear => "nzyear"
  | nzjday => "nzjday"
  | nzhour => "nzhour"
  | nzmin => "nzmin"
  | nzsec => "nzsec"
  | nzmsec => "nzmsec"
  | nvhdr => "nvhdr"
  | norid => "norid"
  | nevid => "nevid"
  | npts => "npts"
  | nwfid => "nwfid"
  | nxsize => "nxsize"
  | nysize => "nysize"
  | iinst => "iinst"
  | istreg => "istreg"
  | ievreg => "ievreg"
  | iqual => "iqual"

/-- The slot. -/
def slot : IntegerName → Fin 40
  | nzyear => 0
  | nzjday => 1
  | nzhour => 2
  | nzmin => 3
  | nzsec => 4
  | nzmsec => 5
  | nvhdr => 6
  | norid => 7
  | nevid => 8
  | npts => 9
  | nwfid => 11
  | nxsize => 12
  | nysize => 13
  | iinst => 19
  | istreg => 20
  | ievreg => 21
  | iqual => 23

/-- The schema has the name, with the cell that is used here. -/
theorem find?_name (n : IntegerName) : (Schema.find? n.name).map Field.cell = some (.integer n.slot) := by
  obtain ⟨f, hf, hname, hcell⟩ : ∃ f, Schema.fields[70 + n.slot.val]? = some f ∧
      f.name = n.name ∧ f.cell = .integer n.slot := by
    cases n <;> exact ⟨_, rfl, rfl, rfl⟩
  rw [← hname, ← hcell, Schema.find?_of_getElem? hf]

/-- No name is left out. -/
theorem mem_all (n : IntegerName) : n ∈ all := by cases n <;> decide

end IntegerName

/-- The fields of truth values that are stored and nothing else. -/
inductive FlagName
  | leven | lpspol | lovrok
deriving DecidableEq, Repr

namespace FlagName

/-- Every such name. -/
def all : List FlagName :=
  [.leven, .lpspol, .lovrok]

/-- The name as text. -/
def name : FlagName → String
  | leven => "leven"
  | lpspol => "lpspol"
  | lovrok => "lovrok"

/-- The slot. -/
def slot : FlagName → Fin 40
  | leven => 35
  | lpspol => 36
  | lovrok => 37

/-- The schema has the name, with the cell that is used here. -/
theorem find?_name (n : FlagName) : (Schema.find? n.name).map Field.cell = some (.logical n.slot) := by
  obtain ⟨f, hf, hname, hcell⟩ : ∃ f, Schema.fields[70 + n.slot.val]? = some f ∧
      f.name = n.name ∧ f.cell = .logical n.slot := by
    cases n <;> exact ⟨_, rfl, rfl, rfl⟩
  rw [← hname, ← hcell, Schema.find?_of_getElem? hf]

/-- No name is left out. -/
theorem mem_all (n : FlagName) : n ∈ all := by cases n <;> decide

end FlagName

/-- The fields of symbols. -/
inductive SymbolName
  | iftype | idep | iztype | ievtyp | isynth | imagtyp | imagsrc
deriving DecidableEq, Repr

namespace SymbolName

/-- Every such name. -/
def all : List SymbolName :=
  [.iftype, .idep, .iztype, .ievtyp, .isynth, .imagtyp, .imagsrc]

/-- The name as text. -/
def name : SymbolName → String
  | iftype => "iftype"
  | idep => "idep"
  | iztype => "iztype"
  | ievtyp => "ievtyp"
  | isynth => "isynth"
  | imagtyp => "imagtyp"
  | imagsrc => "imagsrc"

/-- The slot. -/
def slot : SymbolName → Fin 40
  | iftype => 15
  | idep => 16
  | iztype => 17
  | ievtyp => 22
  | isynth => 24
  | imagtyp => 25
  | imagsrc => 26

/-- The symbols that the field accepts. -/
def accepted : SymbolName → List String
  | iftype => Schema.fileTypes
  | idep => Schema.dependentVariables
  | iztype => Schema.referenceEvents
  | ievtyp => Schema.eventTypes
  | isynth => Schema.syntheticFlags
  | imagtyp => Schema.magnitudeTypes
  | imagsrc => Schema.magnitudeSources

/-- The schema has the name, with the cell that is used here. -/
theorem find?_name (n : SymbolName) : (Schema.find? n.name).map Field.cell = some (.enumerated n.slot n.accepted) := by
  obtain ⟨f, hf, hname, hcell⟩ : ∃ f, Schema.fields[70 + n.slot.val]? = some f ∧
      f.name = n.name ∧ f.cell = .enumerated n.slot n.accepted := by
    cases n <;> exact ⟨_, rfl, rfl, rfl⟩
  rw [← hname, ← hcell, Schema.find?_of_getElem? hf]

/-- No name is left out. -/
theorem mem_all (n : SymbolName) : n ∈ all := by cases n <;> decide

end SymbolName

/-- The fields of text. -/
inductive TextName
  | kstnm | kevnm | khole | ko | ka | kt0 | kt1 | kt2 | kt3 | kt4 | kt5 | kt6 | kt7 | kt8 | kt9
  | kf | kuser0 | kuser1 | kuser2 | kcmpnm | knetwk | kdatrd | kinst
deriving DecidableEq, Repr

namespace TextName

/-- Every such name. -/
def all : List TextName :=
  [.kstnm, .kevnm, .khole, .ko, .ka, .kt0, .kt1, .kt2, .kt3, .kt4, .kt5, .kt6, .kt7, .kt8,
   .kt9, .kf, .kuser0, .kuser1, .kuser2, .kcmpnm, .knetwk, .kdatrd, .kinst]

/-- The name as text. -/
def name : TextName → String
  | kstnm => "kstnm"
  | kevnm => "kevnm"
  | khole => "khole"
  | ko => "ko"
  | ka => "ka"
  | kt0 => "kt0"
  | kt1 => "kt1"
  | kt2 => "kt2"
  | kt3 => "kt3"
  | kt4 => "kt4"
  | kt5 => "kt5"
  | kt6 => "kt6"
  | kt7 => "kt7"
  | kt8 => "kt8"
  | kt9 => "kt9"
  | kf => "kf"
  | kuser0 => "kuser0"
  | kuser1 => "kuser1"
  | kuser2 => "kuser2"
  | kcmpnm => "kcmpnm"
  | knetwk => "knetwk"
  | kdatrd => "kdatrd"
  | kinst => "kinst"

/-- The span. -/
def span : TextName → TextSpan
  | kstnm => .one 0
  | kevnm => .two 1
  | khole => .one 3
  | ko => .one 4
  | ka => .one 5
  | kt0 => .one 6
  | kt1 => .one 7
  | kt2 => .one 8
  | kt3 => .one 9
  | kt4 => .one 10
  | kt5 => .one 11
  | kt6 => .one 12
  | kt7 => .one 13
  | kt8 => .one 14
  | kt9 => .one 15
  | kf => .one 16
  | kuser0 => .one 17
  | kuser1 => .one 18
  | kuser2 => .one 19
  | kcmpnm => .one 20
  | knetwk => .one 21
  | kdatrd => .one 22
  | kinst => .one 23

/-- The schema has the name, with the cell that is used here. -/
theorem find?_name (n : TextName) : (Schema.find? n.name).map Field.cell = some (.text n.span) := by
  -- one field takes two slots, the second and the third
  obtain ⟨f, hf, hname, hcell⟩ : ∃ f,
      Schema.fields[if n.span.first < 3 then 110 + n.span.first else 109 + n.span.first]? = some f ∧
        f.name = n.name ∧ f.cell = .text n.span := by
    cases n <;> exact ⟨_, rfl, rfl, rfl⟩
  rw [← hname, ← hcell, Schema.find?_of_getElem? hf]

/-- No name is left out. -/
theorem mem_all (n : TextName) : n ∈ all := by cases n <;> decide

end TextName

end Seismogram
