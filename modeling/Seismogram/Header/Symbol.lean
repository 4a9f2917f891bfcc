/-
# Symbols and their codes

Enumerated fields hold integer codes.  One table gives every symbol its code for all of
them; which symbols a field accepts is part of the field.  Each symbol has one code and each
code one symbol.
-/
import Seismogram.Header.Schema

namespace Seismogram.Symbol

/-- Every symbol with its code. -/
def codes : List (String × Int32) :=
  [("itime", 1), ("irlim", 2), ("iamph", 3), ("ixy", 4), ("iunkn", 5), ("idisp", 6), ("ivel", 7),
   ("iacc", 8), ("ib", 9), ("iday", 10), ("io", 11), ("ia", 12), ("it0", 13), ("it1", 14),
   ("it2", 15), ("it3", 16), ("it4", 17), ("it5", 18), ("it6", 19), ("it7", 20), ("it8", 21),
   ("it9", 22), ("iradnv", 23), ("itannv", 24), ("iradev", 25), ("itanev", 26), ("inorth", 27),
   ("ieast", 28), ("ihorza", 29), ("idown", 30), ("iup", 31), ("illlbb", 32), ("iwwsn1", 33),
   ("iwwsn2", 34), ("ihglp", 35), ("isro", 36), ("inucl", 37), ("ipren", 38), ("ipostn", 39),
   ("iquake", 40), ("ipreq", 41), ("ipostq", 42), ("ichem", 43), ("iother", 44), ("igood", 45),
   ("iglch", 46), ("idrop", 47), ("ilowsn", 48), ("irldta", 49), ("ivolts", 50), ("ixyz", 51),
   ("imb", 52), ("ims", 53), ("iml", 54), ("imw", 55), ("imd", 56), ("imx", 57), ("ineic", 58),
   ("ipdeq", 59), ("ipdew", 60), ("ipde", 61), ("iisc", 62), ("ireb", 63), ("iusgs", 64),
   ("ibrk", 65), ("icaltech", 66), ("illnl", 67), ("ievloc", 68), ("ijsop", 69), ("iuser", 70),
   ("iunknown", 71), ("iqb", 72), ("iqb1", 73), ("iqb2", 74), ("iqbx", 75), ("iqmt", 76),
   ("ieq", 77), ("ieq1", 78), ("ieq2", 79), ("ime", 80), ("iex", 81), ("inu", 82), ("inc", 83),
   ("io_", 84), ("il", 85), ("ir", 86), ("it", 87), ("iu", 88), ("ieq3", 89), ("ieq0", 90),
   ("iex0", 91), ("iqc", 92), ("iqb0", 93), ("igey", 94), ("ilit", 95), ("imet", 96),
   ("iodor", 97), ("ios", 103)]

/-- The code of a symbol. -/
def code? (symbol : String) : Option Int32 :=
  (codes.find? fun entry => entry.1 == symbol).map Prod.snd

/-- The symbol of a code. -/
def ofCode? (code : Int32) : Option String :=
  (codes.find? fun entry => entry.2 == code).map Prod.fst

/-- The symbols that a field accepts, with their codes. -/
def acceptedBy (f : Field) : List (String × Int32) :=
  f.cell.accepted.filterMap fun symbol => (code? symbol).map fun code => (symbol, code)

/-- No symbol has two codes. -/
theorem symbols_nodup : (codes.map Prod.fst).Nodup := by decide +kernel

/-- No code has two symbols. -/
theorem codes_nodup : (codes.map Prod.snd).Nodup := by decide +kernel

/-- Every symbol that a field accepts has a code, and that code has no other symbol. -/
theorem accepted_have_codes : ∀ f ∈ Schema.fields, ∀ symbol ∈ f.cell.accepted,
    (code? symbol).bind ofCode? = some symbol := by decide +kernel

end Seismogram.Symbol
