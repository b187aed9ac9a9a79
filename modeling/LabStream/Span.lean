import LabStream.Instant

namespace LabStream

/-- A length of time in nanoseconds. -/
structure Span where
  nanos : Nat
  deriving DecidableEq

namespace Span

def zero : Span := ⟨0⟩

def ofSeconds (seconds : Nat) : Span := ⟨seconds * nanosPerSecond⟩

def ofMillis (millis : Nat) : Span := ⟨millis * 1000000⟩

def wholeSeconds (d : Span) : Nat := d.nanos / nanosPerSecond

def subNanos (d : Span) : Nat := d.nanos % nanosPerSecond

def inSeconds (d : Span) : Float :=
  d.wholeSeconds.toUInt64.toFloat + d.subNanos.toUInt64.toFloat / 1000000000.0

/-- A sampling interval of nothing means five seconds; no interval is below one second. -/
def samplingInterval (d : Span) : Span :=
  if d.nanos = 0 then ofSeconds 5 else ⟨max d.nanos nanosPerSecond⟩

/-- A statistics interval of nothing means one second. -/
def statsInterval (d : Span) : Span :=
  if d.nanos = 0 then ofSeconds 1 else d

end Span

end LabStream
