import LabStream.Numeral
import LabStream.Span

namespace LabStream

def dropTrailingZeros (cs : List Char) : List Char :=
  (cs.reverse.dropWhile (· == '0')).reverse

/-- `value` in units of ten to the `places`, without superfluous zeros. -/
def unitText (value places : Nat) : String :=
  let whole := toString (value / tenTo places)
  let rest := value % tenTo places
  if rest = 0 then whole
  else whole ++ "." ++ String.ofList (dropTrailingZeros (padded places rest).toList)

/-- A length of time as compact text, such as `5s`, `1m30s`, `1.5s` or `250ms`. -/
def Span.windowText (d : Span) : String :=
  if d.nanos = 0 then "0s"
  else if d.nanos < 1000 then toString d.nanos ++ "ns"
  else if d.nanos < 1000000 then unitText d.nanos 3 ++ "\u00b5s"
  else if d.nanos < nanosPerSecond then unitText d.nanos 6 ++ "ms"
  else
    let seconds := d.wholeSeconds
    let hours := seconds / 3600
    let minutes := seconds % 3600 / 60
    let front :=
      if hours > 0 then toString hours ++ "h" ++ toString minutes ++ "m"
      else if minutes > 0 then toString minutes ++ "m"
      else ""
    front ++ unitText (seconds % 60 * nanosPerSecond + d.subNanos) 9 ++ "s"

end LabStream
