namespace LabStream

def nanosPerSecond : Nat := 1000000000

/-- A point in time: whole seconds since the epoch and the nanoseconds after them. Nanoseconds beyond the first
thousand million are those of a leap second that follows. -/
structure Instant where
  seconds : Int
  nanos : Nat
  nanos_valid : nanos < 2000000000
  deriving DecidableEq

namespace Instant

/-- The first second of year -262143. -/
def firstSecond : Int := -8334601228800

/-- The last second of year 262142. -/
def lastSecond : Int := 8210266876799

/-- The instant of a pair of seconds and nanoseconds, when the calendar reaches that far. A leap second has
to close a minute here. -/
def of? (seconds : Int) (nanos : Nat) : Option Instant :=
  if h : (nanos < 1000000000 ∨ (nanos < 2000000000 ∧ seconds % 60 = 59)) ∧
      firstSecond ≤ seconds ∧ seconds ≤ lastSecond then
    some ⟨seconds, nanos, by omega⟩
  else none

def epoch : Instant := ⟨0, 0, by decide⟩

/-- The instant that many nanoseconds after the epoch, or before it. -/
def ofNanos (total : Int) : Instant :=
  ⟨total / 1000000000, (total % 1000000000).toNat, by omega⟩

/-- Instants in the order in which they come; a leap second follows its second. -/
def precedes (a b : Instant) : Prop :=
  a.seconds < b.seconds ∨ (a.seconds = b.seconds ∧ a.nanos < b.nanos)

instance (a b : Instant) : Decidable (precedes a b) := by
  unfold precedes; infer_instance

end Instant

end LabStream
