import LabStream.JsonField
import LabStream.LinkMessage
import LabStream.LinkRates
import LabStream.Tally

namespace LabStream

namespace Snapshot

def ofRecord (record : Json) : Snapshot :=
  ⟨record.natAt "index", record.textAt "name", record.textAt "alias", record.natAt "mtu",
    record.textAt "mac", record.textAt "state", record.textAt "kind"⟩

def recordFields (s : Snapshot) : List (String × Json) :=
  [("index", .ofNat s.index), ("name", .text s.name), ("alias", .text s.altName), ("mtu", .ofNat s.mtu),
   ("mac", .text s.mac), ("state", .text s.state), ("kind", .text s.kind)]

def toRecord (s : Snapshot) : Json := .record s.recordFields

end Snapshot

namespace LinkCounters

def ofRecord (record : Json) : LinkCounters :=
  ⟨(record.item 0).natOf, (record.item 1).natOf, (record.item 2).natOf, (record.item 3).natOf⟩

def toRecord (c : LinkCounters) : Json :=
  .list ([c.rxBytes, c.txBytes, c.rxPackets, c.txPackets].map .ofNat)

end LinkCounters

namespace Link

def ofRecord (record : Json) : Link :=
  ⟨.ofRecord record, (record.present? "counters").map LinkCounters.ofRecord, record.natAt? "controller"⟩

def toRecord (link : Link) : Json :=
  .record (link.snapshot.recordFields ++
    [("counters", .ofOption LinkCounters.toRecord link.counters),
     ("controller", .ofOption .ofNat link.controller)])

end Link

namespace LinkUpdate

def ofRecord (record : Json) : LinkUpdate :=
  match record.present? "upsert" with
  | some link => .upsert (.ofRecord link)
  | none => .removed (.ofRecord (record.fieldAt "removed"))

def toRecord : LinkUpdate → Json
  | upsert link => .record [("upsert", link.toRecord)]
  | removed link => .record [("removed", link.toRecord)]

end LinkUpdate

def LinkKind.ofRecord : Json → LinkKind
  | .text "Tun" => .tun
  | .text name => .known name
  | record => .unknown (record.textAt "other")

namespace LinkAttribute

def ofRecord (record : Json) : LinkAttribute :=
  let value := record.item 1
  match (record.item 0).textOf with
  | "name" => .name value.textOf
  | "alias" => .altName value.textOf
  | "mtu" => .mtu value.natOf
  | "address" => .address ((bytesOfHex value.textOf.toList).getD [])
  | "operstate" => .operState value.natOf
  | "controller" => .controller value.natOf
  | "linkinfo" => .info (value.items.map LinkKind.ofRecord)
  | "stats64" => .stats64 (.ofRecord value)
  | "stats" => .stats32 (.ofRecord value)
  | _ => .other

end LinkAttribute

def LinkMessage.ofRecord (record : Json) : LinkMessage :=
  ⟨record.natAt "index", (record.itemsAt "attributes").map LinkAttribute.ofRecord⟩

def LinkMetrics.toRecord (m : LinkMetrics) : Json :=
  .record
    [("current", m.current.toRecord), ("rx_bps", .text (floatText m.rxBits)),
     ("tx_bps", .text (floatText m.txBits)), ("rx_pps", .text (floatText m.rxPackets)),
     ("tx_pps", .text (floatText m.txPackets)), ("interval", .text (floatText m.interval.inSeconds))]

namespace Tally

/-- The counters of a list of rows: interface, direction, bucket, port, packets and bytes. -/
def ofRecord (record : Json) : Tally :=
  .ofPairs (record.items.map fun row =>
    (⟨(row.item 0).natOf, (row.item 1).natOf, (row.item 2).natOf, (row.item 3).natOf⟩,
      ⟨(row.item 4).natOf, (row.item 5).natOf⟩))

def toRecord (tally : Tally) : Json :=
  .list (tally.toList.map fun (k, v) =>
    .list ([k.ifindex, k.direction, k.bucket, k.port, v.packets, v.bytes].map .ofNat))

end Tally

end LabStream
