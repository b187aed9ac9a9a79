import LabStream.Span

namespace LabStream

/-- A timer that fires again and again. Times are in nanoseconds of the clock. -/
structure Ticker where
  period : Nat
  due : Nat
  deriving DecidableEq

namespace Ticker

/-- A timer that first fires one period after `now`. -/
def after (period : Span) (now : Nat) : Ticker := ⟨period.nanos, now + period.nanos⟩

/-- How late a timer may be without skipping what it has missed. -/
def tolerance : Span := .ofMillis 5

/-- The timer after firing at `now`. One that is too late goes on with the next multiple of its
period. -/
def fire (t : Ticker) (now : Nat) : Ticker :=
  { t with due :=
      if t.due + tolerance.nanos < now then now + t.period - (now - t.due) % t.period
      else t.due + t.period }

end Ticker

end LabStream
