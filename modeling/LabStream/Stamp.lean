import LabStream.Calendar
import LabStream.Instant
import LabStream.Numeral

namespace LabStream

/-- Years of four digits stand alone; all others carry a sign. -/
def yearText (year : Int) : String :=
  if 0 ≤ year ∧ year ≤ 9999 then padded 4 year.toNat
  else (if year < 0 then "-" else "+") ++ padded 4 year.natAbs

namespace Instant

def date (t : Instant) : Date := Date.ofDay (t.seconds / 86400)

def secondOfDay (t : Instant) : Nat := (t.seconds % 86400).toNat

/-- Date and time of day up to the second; a leap second is second 60. -/
def stampHead (t : Instant) : String :=
  let date := t.date
  let s := t.secondOfDay
  yearText date.year ++ "-" ++ padded 2 date.month ++ "-" ++ padded 2 date.day ++ "T" ++
    padded 2 (s / 3600) ++ ":" ++ padded 2 (s / 60 % 60) ++ ":" ++
    padded 2 (s % 60 + t.nanos / 1000000000)

def fraction (t : Instant) : Nat := t.nanos % 1000000000

def fullStamp (t : Instant) : String := t.stampHead ++ "." ++ padded 9 t.fraction ++ "Z"

/-- The instant with as many groups of three digits after the point as it needs. -/
def briefStamp (t : Instant) : String :=
  let f := t.fraction
  let digits :=
    if f = 0 then ""
    else if f % 1000000 = 0 then "." ++ padded 3 (f / 1000000)
    else if f % 1000 = 0 then "." ++ padded 6 (f / 1000)
    else "." ++ padded 9 f
  t.stampHead ++ digits ++ "Z"

end Instant

end LabStream
