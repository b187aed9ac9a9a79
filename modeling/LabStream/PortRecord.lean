import LabStream.Container
import LabStream.JsonShape

namespace LabStream

namespace Port

def shape : JsonShape :=
  .record [("host_ip", true, .string), ("host_port", true, .integer 0 65535),
    ("container_port", true, .integer 0 65535), ("protocol", true, .string)]

def toJson (p : Port) : Json :=
  .record [("host_ip", .text p.hostIp), ("host_port", .ofNat p.hostPort),
    ("container_port", .ofNat p.containerPort), ("protocol", .text p.protocol)]

def ofJson? (value : Json) : Option Port := do
  let record ← value.conform shape
  return ⟨← (← record.field? "host_ip").text?, (← (← record.field? "host_port").whole?).toNat,
    (← (← record.field? "container_port").whole?).toNat, ← (← record.field? "protocol").text?⟩

end Port

namespace ContainerState

/-- A state as a word; any word that names no state is the unknown one. -/
def shape : JsonShape := .oneOf fun _ => true

def ofJson? (value : Json) : Option ContainerState := do
  return ofWord (← (← value.conform shape).text?)

end ContainerState

end LabStream
