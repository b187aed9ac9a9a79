import Std.Data.ExtTreeMap
import LabStream.Link
import LabStream.Shortest
import LabStream.Span

namespace LabStream

/-- Growth of a counter; one below its last reading has started again from zero. -/
def counterGrowth (previous current : Nat) : Nat :=
  if previous ≤ current then current - previous else current

/-- Counters and the rates at which they grew, in bits and packets per second. -/
structure LinkMetrics where
  current : LinkCounters
  rxBits : Float
  txBits : Float
  rxPackets : Float
  txPackets : Float
  interval : Span

def perSecond (growth : Nat) (interval : Span) : Float := growth.toUInt64.toFloat / interval.inSeconds

def bitsPerSecond (growth : Nat) (interval : Span) : Float :=
  growth.toUInt64.toFloat * 8.0 / interval.inSeconds

def LinkMetrics.between (previous current : LinkCounters) (interval : Span) : LinkMetrics where
  current := current
  rxBits := bitsPerSecond (counterGrowth previous.rxBytes current.rxBytes) interval
  txBits := bitsPerSecond (counterGrowth previous.txBytes current.txBytes) interval
  rxPackets := perSecond (counterGrowth previous.rxPackets current.rxPackets) interval
  txPackets := perSecond (counterGrowth previous.txPackets current.txPackets) interval
  interval := interval

/-- The last reading of every interface and the time it was taken, in nanoseconds. -/
abbrev LinkReadings := Std.ExtTreeMap Nat (LinkCounters × Nat)

namespace LinkReadings

/-- Takes a reading; there are metrics when an earlier one is left. -/
def observe (readings : LinkReadings) (index : Nat) (current : LinkCounters) (now : Nat) :
    LinkReadings × Option LinkMetrics :=
  let metrics := match readings[index]? with
    | some (previous, time) => if time < now then some (.between previous current ⟨now - time⟩) else none
    | none => none
  (readings.insert index (current, now), metrics)

/-- Starts again from a reading, or from none. -/
def rebase (readings : LinkReadings) (index : Nat) (counters : Option LinkCounters) (now : Nat) :
    LinkReadings :=
  match counters with
  | some c => readings.insert index (c, now)
  | none => readings.erase index

end LinkReadings

end LabStream
