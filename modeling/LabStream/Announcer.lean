import LabStream.Container
import LabStream.Hub

namespace LabStream

/-- The task that shows the containers that were there before the stream began. -/
structure Announcer where
  containers : List Container
  event : Option Event

namespace Announcer

variable {σ : Type}

/-- An announcer with nothing left to do. -/
def finished : Announcer := ⟨[], none⟩

def ofContainers (containers : List Container) : Announcer := ⟨containers, none⟩

/-- One step; none when it has to wait or has nothing left to do. -/
def step (hub : Hub σ) (a : Announcer) : Option (Hub σ × Announcer) :=
  match a.event, a.containers with
  | some event, _ =>
    match hub.offer .announcer hub.token event with
    | none => none
    | some (hub, .blocked) => some (hub, a)
    | some (hub, .refused) => some (hub, finished)
    | some (hub, .sent) => some (hub, { a with event := none })
  | none, [] => none
  | none, c :: rest =>
    some (hub, ⟨rest, if c.showsSnapshot hub.instant then some (c.snapshotEvent hub.instant) else none⟩)

end Announcer

end LabStream
