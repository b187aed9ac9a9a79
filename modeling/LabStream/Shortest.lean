import LabStream.Numeral

namespace LabStream

structure Ratio where
  num : Nat
  den : Nat

/-- The positive number `digits` times ten to the `exponent`. -/
structure Decimal where
  digits : Nat
  exponent : Int
  deriving DecidableEq

/-- The exponent of the power of ten just above a fraction: its digits before the point, or minus
its zeros after it. -/
def magnitude (r : Ratio) : Int :=
  if r.den ≤ r.num then (Nat.toDigits 10 (r.num / r.den)).length
  else
    let zeros := (Nat.toDigits 10 (r.den / r.num)).length - 1
    if r.den ≤ r.num * tenTo zeros then 1 - (zeros : Int) else - (zeros : Int)

/-- The part of `num / den` on the grid of ten to the `exponent`, with numerator and denominator
brought to that grid. -/
def onGrid (num den : Nat) (exponent : Int) : Nat × Nat :=
  if exponent ≥ 0 then (num, den * tenTo exponent.toNat) else (num * tenTo (-exponent).toNat, den)

/-- Of the two neighbours of `value` on a grid the one in the interval from `low` to `high`; of two
the nearer, and the larger of two that are equally near. All three share the denominator. -/
def gridChoice (low value high den : Nat) (closed : Bool) (exponent : Int) : Option Decimal :=
  let (v, d) := onGrid value den exponent
  let (lo, _) := onGrid low den exponent
  let (hi, _) := onGrid high den exponent
  let below := v / d
  let inside := fun n => if closed then lo ≤ n * d && n * d ≤ hi else lo < n * d && n * d < hi
  let down := inside below
  let up := inside (below + 1)
  if up && (!down || v * 2 ≥ (2 * below + 1) * d) then some ⟨below + 1, exponent⟩
  else if down then some ⟨below, exponent⟩
  else none

/-- The decimal of fewest digits that reads back as the number with these bits. -/
def shortestDecimal (mantissa : Nat) (exponent : Int) (narrowBelow : Bool) : Option Decimal :=
  let scale := fun n => if exponent ≥ 2 then n * twoTo (exponent - 2).toNat else n
  let den := if exponent ≥ 2 then 1 else twoTo (2 - exponent).toNat
  let value := scale (4 * mantissa)
  let low := scale (4 * mantissa - if narrowBelow then 1 else 2)
  let high := scale (4 * mantissa + 2)
  let top := magnitude ⟨value, den⟩
  (List.range 17).findSome? fun k =>
    gridChoice low value high den (mantissa % 2 == 0) (top - (k + 1 : Nat))

/-- A decimal written out in full, never with an exponent. -/
def Decimal.positional (d : Decimal) : String :=
  let digits := Nat.toDigits 10 d.digits
  if d.exponent ≥ 0 then String.ofList (digits ++ List.replicate d.exponent.toNat '0')
  else
    let places := (-d.exponent).toNat
    let filled := List.replicate (places + 1 - digits.length) '0' ++ digits
    let whole := filled.take (filled.length - places)
    let rest := (((filled.drop (filled.length - places)).reverse).dropWhile (· == '0')).reverse
    if rest.isEmpty then String.ofList whole else String.ofList (whole ++ '.' :: rest)

/-- A floating-point number in the fewest digits that read back, written out in full. -/
def floatText (x : Float) : String :=
  let bits := x.toBits.toNat
  let sign := if bits / twoTo 63 = 1 then "-" else ""
  let biased := bits / twoTo 52 % twoTo 11
  let fraction := bits % twoTo 52
  if biased = 2047 then if fraction = 0 then sign ++ "inf" else "NaN"
  else if biased = 0 ∧ fraction = 0 then sign ++ "0"
  else
    let mantissa := if biased = 0 then fraction else fraction + twoTo 52
    let exponent : Int := (max biased 1 : Nat) - 1075
    match shortestDecimal mantissa exponent (fraction = 0 ∧ biased > 1) with
    | some d => sign ++ d.positional
    | none => sign ++ "0"

end LabStream
