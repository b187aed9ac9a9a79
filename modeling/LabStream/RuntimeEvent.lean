import LabStream.Container

namespace LabStream

structure RuntimeEvent where
  kind : String
  action : String
  actorId : String
  actorFullId : String
  actorName : String
  attributes : Attributes
  timestamp : Option Instant
  deriving DecidableEq

namespace RuntimeEvent

def isContainer (e : RuntimeEvent) : Bool := lowerAscii e.kind = "container"

/-- The full id, or the short one when the full one is not known. -/
def fullId (e : RuntimeEvent) : String := if e.actorFullId.isEmpty then e.actorId else e.actorFullId

/-- The actor's name, or the `name` attribute when it has none. -/
def name (e : RuntimeEvent) : String :=
  if e.actorName.isEmpty then e.attributes.valueOf "name" else e.actorName

/-- The event of the stream, with `attributes` in place of the message's own. -/
def toEvent (e : RuntimeEvent) (attributes : Attributes) (now : Instant) : Event :=
  ((Event.make (e.timestamp.getD now) (EventKind.ofName e.kind) e.action).withActor
    e.actorId e.name e.fullId).withAttributes attributes.toList

/-- What a message tells about a container, unless it names none. -/
def container? (e : RuntimeEvent) (labLabel : String) : Option Container :=
  let id := e.fullId
  let name := e.name
  if id.isEmpty ∧ name.isEmpty then none
  else some { Container.blank with
    id
    shortId := shortId (if e.actorId.isEmpty then id else e.actorId)
    names := if name.isEmpty then [] else [name]
    labels := (∅ : Attributes).insertFilled labLabel (e.attributes.valueOf labLabel) }

end RuntimeEvent

end LabStream
