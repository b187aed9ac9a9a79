import LabStream.Blank
import LabStream.Event
import LabStream.Json
import LabStream.Stamp

namespace LabStream

/-- How events are written, one line each. -/
inductive LineFormat where
  | plain
  | json
  deriving DecidableEq

/-- The format of a name in any letter case; no name at all means plain lines. -/
def LineFormat.ofName? (name : String) : Option LineFormat :=
  let word := lowerText (trimBlanks name)
  if word = "" ∨ word = "plain" then some .plain
  else if word = "json" then some .json
  else none

namespace Event

/-- The most telling of the actor's names, a dash when it has none. -/
def actorColumn (e : Event) : String :=
  if e.actorFullId ≠ "" then e.actorFullId
  else if e.actorId ≠ "" then e.actorId
  else if e.actorName ≠ "" then e.actorName
  else "-"

/-- The attributes in parentheses, nothing when there are none. -/
def attributeColumn (e : Event) : String :=
  let pairs := e.shownAttributes.toList
  if pairs.isEmpty then ""
  else " (" ++ ", ".intercalate (pairs.map fun (name, value) => name ++ "=" ++ value) ++ ")"

def plainLine (e : Event) (stamp : String) : String :=
  stamp ++ " " ++ e.kind.name ++ " " ++ e.action ++ " " ++ e.actorColumn ++ e.attributeColumn ++ "\n"

def jsonFields (e : Event) (stamp : String) : List (String × Json) :=
  let pairs := e.shownAttributes.toList
  [("timestamp", .text stamp), ("type", .text e.kind.name), ("action", .text e.action),
   ("actor_id", .text e.actorId), ("actor_name", .text e.actorName),
   ("actor_full_id", .text e.actorFullId)] ++
    if pairs.isEmpty then []
    else [("attributes", .record (pairs.map fun (name, value) => (name, .text value)))]

def jsonLine (e : Event) (stamp : String) : String := (Json.record (e.jsonFields stamp)).render ++ "\n"

/-- The line of an event, with `stamp` for its time. -/
def stampedLine (e : Event) (stamp : String) : LineFormat → String
  | .plain => e.plainLine stamp
  | .json => e.jsonLine stamp

/-- The line of an event. Plain lines show every digit of the time, JSON lines only what it needs. -/
def line (e : Event) (format : LineFormat) : String :=
  e.stampedLine (match format with
    | .plain => e.timestamp.fullStamp
    | .json => e.timestamp.briefStamp) format

end Event

/-- Writes events out in a world of type `σ`. -/
structure EventWriter (σ : Type) where
  /-- Writes an event out; what becomes of it is of no concern to whoever has it written. -/
  put : LineFormat → Event → σ → σ
  /-- The events that have come out, oldest first. -/
  written : σ → List Event

/-- What comes out when an event is written. -/
def EventWriter.leaves {σ : Type} (w : EventWriter σ) (format : LineFormat) (event : Event) (world : σ) : List Event :=
  (w.written (w.put format event world)).drop (w.written world).length

end LabStream
