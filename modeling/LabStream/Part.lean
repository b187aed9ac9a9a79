import LabStream.EventLine
import LabStream.Surroundings
import LabStream.TrafficBackend

namespace LabStream

/-- A part of type `α` of a world of type `σ`. -/
structure Part (σ α : Type) where
  get : σ → α
  set : α → σ → σ

variable {σ α : Type}

namespace Part

def change (part : Part σ α) (f : α → α) (world : σ) : σ := part.set (f (part.get world)) world

/-- Does something that only a part is needed for. -/
def act {β : Type} (part : Part σ α) (f : α → α × β) (world : σ) : σ × β :=
  let (a, result) := f (part.get world)
  (part.set a world, result)

end Part

def ContainerRuntime.within (part : Part σ α) (r : ContainerRuntime α) : ContainerRuntime σ where
  name := r.name
  askList f := part.act (r.askList f)
  answerList f := part.act (r.answerList f)
  subscribe label := part.act (r.subscribe label)
  nextEvent := part.act r.nextEvent
  namespacePath id := part.act (r.namespacePath id)

def LinkMonitor.within (part : Part σ α) (m : LinkMonitor α) : LinkMonitor σ where
  openAt path := part.act (m.openAt path)
  list handle path := part.act (m.list handle path)
  nextUpdate handle path := part.act (m.nextUpdate handle path)
  release handle path := part.change (m.release handle path)

def TrafficBackend.within {τ : Type} (part : Part σ α) (b : TrafficBackend α τ) : TrafficBackend σ τ where
  prepare := part.act b.prepare
  discover containers := part.act (b.discover containers)
  load scope := part.act (b.load scope)
  links table := part.act (b.links table)
  attach table ifname := part.act (b.attach table ifname)
  detach table ifname := part.change (b.detach table ifname)
  read table := part.act (b.read table)
  closeDelay table world := b.closeDelay table (part.get world)
  close table := part.change (b.close table)
  finish := part.change b.finish

def EventWriter.within (part : Part σ α) (w : EventWriter α) : EventWriter σ where
  put format event := part.change (w.put format event)
  written world := w.written (part.get world)

end LabStream
