import Std.Data.ExtTreeMap
import LabStream.EventKind
import LabStream.Instant

namespace LabStream

/-- Attributes by name, in the order of their names. -/
abbrev Attributes := Std.ExtTreeMap String String

namespace Attributes

def ofPairs (pairs : List (String × String)) : Attributes :=
  pairs.foldl (fun attrs (name, value) => attrs.insert name value) ∅

/-- Inserts an attribute unless its value is empty. -/
def insertFilled (attrs : Attributes) (name value : String) : Attributes :=
  if value.isEmpty then attrs else attrs.insert name value

/-- The value of an attribute, empty when there is none. -/
def valueOf (attrs : Attributes) (name : String) : String := attrs.getD name ""

end Attributes

/-- The first twelve characters of a container id. -/
def shortId (id : String) : String := String.ofList (id.toList.take 12)

structure Event where
  timestamp : Instant
  kind : EventKind
  action : String
  actorId : String
  actorName : String
  actorFullId : String
  attributes : Attributes
  deriving DecidableEq

namespace Event

/-- An event without an actor; its action is lower-case. -/
def make (timestamp : Instant) (kind : EventKind) (action : String) : Event :=
  ⟨timestamp, kind, lowerText action, "", "", "", ∅⟩

/-- Names the actor. Without a short id, the full one is cut short. -/
def withActor (e : Event) (short name fullId : String) : Event :=
  { e with
    actorId := shortId (if short.isEmpty then fullId else short)
    actorName := name
    actorFullId := fullId }

/-- Adds attributes; a name that is there already gets the new value. -/
def withAttributes (e : Event) (pairs : List (String × String)) : Event :=
  { e with attributes := pairs.foldl (fun attrs (name, value) => attrs.insert name value) e.attributes }

/-- Attributes as they are shown: those that have a value, with the actor's name and full id over
any that are called `name` and `id`. -/
def shownAttributes (e : Event) : Attributes :=
  let filled : Attributes := e.attributes.filter fun _ (value : String) => !value.isEmpty
  (filled.insertFilled "name" e.actorName).insertFilled "id" e.actorFullId

end Event

end LabStream
