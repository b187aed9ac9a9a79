import LabStream.JsonField
import LabStream.PortRecord
import LabStream.RuntimeEvent

namespace LabStream

namespace Attributes

def ofRecord (record : Json) : Attributes :=
  .ofPairs (record.fields.map fun (name, value) => (name, value.textOf))

def toRecord (attrs : Attributes) : Json :=
  .record (attrs.toList.map fun (name, value) => (name, .text value))

end Attributes

namespace Instant

/-- An instant as the pair of its seconds and nanoseconds. -/
def toRecord (t : Instant) : Json := .list [.whole t.seconds, .ofNat t.nanos]

def ofRecord? (record : Json) : Option Instant := of? ((record.item 0).whole?.getD 0) (record.item 1).natOf

end Instant

namespace Port

def ofRecord (record : Json) : Port :=
  ⟨record.textAt "host_ip", record.natAt "host_port", record.natAt "container_port",
    record.textAt "protocol"⟩

end Port

namespace Container

/-- The container of a record; a field that is missing counts as empty. -/
def ofRecord (record : Json) : Container where
  id := record.textAt "id"
  shortId := record.textAt "short_id"
  names := record.textsAt "names"
  labels := .ofRecord (record.fieldAt "labels")
  state := .ofRuntime (record.textAt "state")
  status := record.textAt "status"
  image := record.textAt "image"
  pid := record.natAt? "pid"
  networkName := record.textAt "network_name"
  mgmtIpv4 := record.textAt "mgmt_ipv4"
  mgmtIpv6 := record.textAt "mgmt_ipv6"
  ports := (record.itemsAt "ports").map Port.ofRecord

def toRecord (c : Container) : Json :=
  .record
    [("id", .text c.id), ("short_id", .text c.shortId), ("names", .texts c.names),
     ("labels", c.labels.toRecord), ("state", .text c.state.word), ("status", .text c.status),
     ("image", .text c.image), ("pid", .ofOption .ofNat c.pid), ("network_name", .text c.networkName),
     ("mgmt_ipv4", .text c.mgmtIpv4), ("mgmt_ipv6", .text c.mgmtIpv6),
     ("ports", .list (c.ports.map Port.toJson))]

end Container

namespace RuntimeEvent

def ofRecord (record : Json) : RuntimeEvent where
  kind := record.textAt "kind"
  action := record.textAt "action"
  actorId := record.textAt "actor_id"
  actorFullId := record.textAt "actor_full_id"
  actorName := record.textAt "actor_name"
  attributes := .ofRecord (record.fieldAt "attributes")
  timestamp := (record.present? "ts").bind Instant.ofRecord?

def toRecord (e : RuntimeEvent) : Json :=
  .record
    [("kind", .text e.kind), ("action", .text e.action), ("actor_id", .text e.actorId),
     ("actor_full_id", .text e.actorFullId), ("actor_name", .text e.actorName),
     ("attributes", e.attributes.toRecord), ("ts", .ofOption Instant.toRecord e.timestamp)]

end RuntimeEvent

namespace Event

/-- The event of a record that says what it is made of; without a time it is that of the epoch. -/
def ofRecord (record : Json) : Event :=
  let time := (record.present? "ts").bind Instant.ofRecord?
  ((Event.make (time.getD .epoch) (.ofName (record.textAt "kind")) (record.textAt "action")).withActor
    (record.textAt "short") (record.textAt "name") (record.textAt "full_id")).withAttributes
    (Attributes.ofRecord (record.fieldAt "attributes")).toList

def toRecord (e : Event) : Json :=
  .record
    [("type", .text e.kind.name), ("action", .text e.action), ("actor_id", .text e.actorId),
     ("actor_name", .text e.actorName), ("actor_full_id", .text e.actorFullId),
     ("attributes", e.attributes.toRecord)]

end Event

end LabStream
