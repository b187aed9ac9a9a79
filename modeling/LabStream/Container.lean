import LabStream.Event
import LabStream.Port

namespace LabStream

inductive ContainerState where
  | created
  | running
  | exited
  | paused
  | restarting
  | dead
  | unknown
  deriving DecidableEq

namespace ContainerState

/-- The word for a state; an unknown one has none. -/
def word : ContainerState → String
  | created => "created"
  | running => "running"
  | exited => "exited"
  | paused => "paused"
  | restarting => "restarting"
  | dead => "dead"
  | unknown => ""

def known : List ContainerState := [created, running, exited, paused, restarting, dead]

def ofWord (word : String) : ContainerState := (known.find? (·.word = word)).getD unknown

def ofRuntime (word : String) : ContainerState := ofWord (lowerText word)

/-- The word for a state in a record, where the unknown one is named too. -/
def tag (state : ContainerState) : String := if state = unknown then "unknown" else state.word

end ContainerState

structure Container where
  id : String
  shortId : String
  names : List String
  labels : Attributes
  state : ContainerState
  status : String
  image : String
  pid : Option Nat
  networkName : String
  mgmtIpv4 : String
  mgmtIpv6 : String
  ports : List Port
  deriving DecidableEq

namespace Container

def blank : Container := ⟨"", "", [], ∅, .unknown, "", "", none, "", "", "", []⟩

def firstName (c : Container) : String := c.names.headD ""

/-- What a container is known by: its full id, or the short one when the full one is not known. -/
def identity (c : Container) : String := if c.id.isEmpty then c.shortId else c.id

def isRunning (c : Container) : Bool := c.state = .running

/-- The event for a container that was there before the stream began. -/
def snapshotEvent (c : Container) (now : Instant) : Event :=
  let state := c.state.word
  let labels := if c.labels.contains "origin" then c.labels else c.labels.insert "origin" "snapshot"
  let details :=
    [("image", c.image), ("status", c.status), ("state", state), ("network", c.networkName),
     ("mgmt_ipv4", c.mgmtIpv4), ("mgmt_ipv6", c.mgmtIpv6), ("ports", Port.listing c.ports)]
  let attrs := details.foldl (fun attrs (name, value) => attrs.insertFilled name value) labels
  ((Event.make now .container (if state.isEmpty then "snapshot" else state)).withActor
    c.shortId c.firstName c.id).withAttributes attrs.toList

/-- Whether a container is shown at the start: it runs or has ended, and the event names it. -/
def showsSnapshot (c : Container) (now : Instant) : Bool :=
  let event := c.snapshotEvent now
  (c.state = .running || c.state = .exited) && !(event.actorId.isEmpty && event.actorName.isEmpty)

end Container

end LabStream
