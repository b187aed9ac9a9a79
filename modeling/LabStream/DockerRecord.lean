import LabStream.JsonShape
import LabStream.RuntimeEvent

namespace LabStream

namespace DockerRecord

/-! What Docker tells about containers and events. Every field may be missing, the ports apart. -/

def word (words : List String) : JsonShape := .optional (.oneOf words.contains)

def texts : JsonShape := .optional (.list .string)

def table : JsonShape := .optional (.table .string)

/-- Whole numbers of 64 bits. -/
def long : JsonShape := .optional (.integer (-(twoTo 63)) (twoTo 63 - 1))

def field (name : String) (shape : JsonShape) : String × Bool × JsonShape := (name, false, shape)

def port : JsonShape :=
  .record [field "IP" (.optional .string), ("PrivatePort", true, .integer 0 65535),
    field "PublicPort" (.optional (.integer 0 65535)),
    ("Type", true, word ["", "tcp", "udp", "sctp"])]

def endpoint : JsonShape :=
  .record [field "IPAddress" (.optional .string), field "IPPrefixLen" long,
    field "GlobalIPv6Address" (.optional .string), field "GlobalIPv6PrefixLen" long]

def networks : JsonShape := .record [field "Networks" (.optional (.table endpoint))]

def summary : JsonShape :=
  .record [field "Id" (.optional .string), field "Names" texts, field "Image" (.optional .string),
    field "Ports" (.optional (.list port)), field "Labels" table,
    field "State" (word ["", "created", "running", "paused", "restarting", "exited", "removing", "dead",
      "stopping"]),
    field "Status" (.optional .string), field "NetworkSettings" (.optional networks)]

def inspection : JsonShape := .record [field "State" (.optional (.record [field "Pid" long]))]

def actor : JsonShape := .record [field "ID" (.optional .string), field "Attributes" table]

/-- One message of the feed; none at all may stand for it too. -/
def message : JsonShape :=
  .optional (.record
    [field "Type" (word ["", "builder", "config", "container", "daemon", "image", "network", "node",
      "plugin", "secret", "service", "volume"]),
     field "Action" (.optional .string), field "Actor" (.optional actor),
     field "scope" (word ["", "local", "swarm"]), field "time" long, field "timeNano" long])

/-! How it is read. -/

def textOf (value : Json) (name : String) : String := ((value.field? name).bind Json.text?).getD ""

def numberOf (value : Json) (name : String) : Int := ((value.field? name).bind Json.whole?).getD 0

def itemsOf (value : Json) (name : String) : List Json := ((value.field? name).map Json.items).getD []

def attributesOf (value : Json) (name : String) : Attributes :=
  .ofPairs (((value.field? name).map Json.fields).getD [] |>.map fun (key, v) => (key, v.text?.getD ""))

def portOf (value : Json) : Port :=
  ⟨textOf value "IP", (numberOf value "PublicPort").toNat, (numberOf value "PrivatePort").toNat,
    textOf value "Type"⟩

def nameOf (name : String) : String := String.ofList (name.toList.dropWhile (· = '/'))

/-- An address with the length of its network, nothing without an address. -/
def addressOf (value : Json) (address length : String) : String :=
  let text := textOf value address
  if text.isEmpty then "" else text ++ "/" ++ toString (numberOf value length)

/-- The first network of a container by name. -/
def network? (value : Json) : Option (String × Json) := do
  let all := (← (← value.present? "NetworkSettings").present? "Networks").fields
  (all.mergeSort fun a b => a.1 ≤ b.1).head?

def containerOf (value : Json) : Container :=
  let id := textOf value "Id"
  let (network, place) := (network? value).getD ("", .null)
  { id
    shortId := shortId id
    names := (itemsOf value "Names").map fun name => nameOf (name.text?.getD "")
    labels := attributesOf value "Labels"
    state := .ofRuntime (textOf value "State")
    status := textOf value "Status"
    image := textOf value "Image"
    pid := none
    networkName := network
    mgmtIpv4 := addressOf place "IPAddress" "IPPrefixLen"
    mgmtIpv6 := addressOf place "GlobalIPv6Address" "GlobalIPv6PrefixLen"
    ports := (itemsOf value "Ports").map portOf }

/-- The process of a container; a number that no process has counts as none. -/
def pidOf (value : Json) : Option Nat :=
  let pid := numberOf ((value.present? "State").getD .null) "Pid"
  if 0 < pid ∧ pid < twoTo 32 then some pid.toNat else none

/-- The time of a message: its nanoseconds if there are any, else its seconds. -/
def instantOf (value : Json) : Option Instant :=
  let nanos := numberOf value "timeNano"
  let seconds := numberOf value "time"
  if 0 < nanos then some (.ofNanos nanos)
  else if 0 < seconds then Instant.of? seconds 0
  else none

def eventOf (value : Json) : RuntimeEvent :=
  let actor := (value.field? "Actor").getD .null
  let id := textOf actor "ID"
  let attributes := attributesOf actor "Attributes"
  { kind := textOf value "Type"
    action := textOf value "Action"
    actorId := shortId id
    actorFullId := id
    actorName := attributes.valueOf "name"
    attributes
    timestamp := instantOf value }

end DockerRecord

end LabStream
