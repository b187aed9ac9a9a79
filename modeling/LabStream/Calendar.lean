namespace LabStream

/-- A day of the Gregorian calendar, extended in both directions. -/
structure Date where
  year : Int
  month : Nat
  day : Nat
  deriving DecidableEq

namespace Date

/-- Days from the first of March of year 0 to the first of January 1970. -/
def epochOffset : Int := 719468

/-- The date of a day counted from the first of January 1970. Years are counted from March, so
that a leap day ends its year: cycles of 400, 100, 4 and 1 years are taken off in turn. -/
def ofDay (day : Int) : Date :=
  let shifted := day + epochOffset
  let era := shifted / 146097
  let inEra := (shifted % 146097).toNat
  let century := min (inEra / 36524) 3
  let inCentury := inEra - 36524 * century
  let cycle := inCentury / 1461
  let inCycle := inCentury - 1461 * cycle
  let single := min (inCycle / 365) 3
  let inYear := inCycle - 365 * single
  let marchYear := 400 * era + (100 * century + 4 * cycle + single : Nat)
  let marchMonth := (5 * inYear + 2) / 153
  let dayOfMonth := inYear - (153 * marchMonth + 2) / 5 + 1
  if marchMonth < 10 then ⟨marchYear, marchMonth + 3, dayOfMonth⟩
  else ⟨marchYear + 1, marchMonth - 9, dayOfMonth⟩

end Date

end LabStream
