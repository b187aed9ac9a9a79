import LabStream.Blank
import LabStream.Lower

namespace LabStream

/-- A port of a container, published on the host when `hostPort` is not zero. -/
structure Port where
  hostIp : String
  hostPort : Nat
  containerPort : Nat
  protocol : String
  deriving DecidableEq

namespace Port

/-- Ports in the order in which they are shown. -/
def order (a b : Port) : Ordering :=
  (compare a.containerPort b.containerPort).then <| (compare a.protocol b.protocol).then <|
    (compare a.hostPort b.hostPort).then (compare a.hostIp b.hostIp)

def suffix (p : Port) : String :=
  let protocol := lowerText (trimBlanks p.protocol)
  if protocol.isEmpty then "" else "/" ++ protocol

/-- The address on the host: any address when there is none, brackets around one with colons. -/
def hostText (p : Port) : String :=
  if p.hostIp.isEmpty then "0.0.0.0"
  else if p.hostIp.toList.contains ':' then "[" ++ p.hostIp ++ "]"
  else p.hostIp

/-- The text of a port; a port of neither side has none. -/
def text? (p : Port) : Option String :=
  if p.hostPort > 0 then
    let published := p.hostText ++ ":" ++ toString p.hostPort ++ p.suffix
    if p.containerPort > 0 then some (published ++ "->" ++ toString p.containerPort) else some published
  else if p.containerPort = 0 then none
  else some (toString p.containerPort ++ p.suffix)

/-- All ports as one attribute, in an order that does not depend on theirs. -/
def listing (ports : List Port) : String :=
  ";".intercalate ((ports.mergeSort fun a b => (order a b).isLE).filterMap text?)

end Port

end LabStream
