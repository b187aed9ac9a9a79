import LabStream.Container
import LabStream.Json
import LabStream.Link
import LabStream.RuntimeEvent
import LabStream.Span
import LabStream.WatchFault

namespace LabStream

/-- Which containers to list; a part that is not set does not filter. -/
structure ContainerFilter where
  label : Option String
  id : Option String
  name : Option String
  withPid : Bool
  deriving DecidableEq

namespace ContainerFilter

/-- All containers that carry a label, with their processes. -/
def labelled (label : String) : ContainerFilter := ⟨some label, none, none, true⟩

def byId (id : String) : ContainerFilter := ⟨none, some id, none, false⟩

def byName (name : String) : ContainerFilter := ⟨none, none, some name, false⟩

def toJson (f : ContainerFilter) : Json :=
  .record [("id", .ofOption .text f.id), ("label", .ofOption .text f.label),
    ("name", .ofOption .text f.name), ("with_pid", .bool f.withPid)]

end ContainerFilter

inductive FeedPoll where
  | pending
  | ended
  | event (e : RuntimeEvent)
  | failed (fault : RuntimeFault)
  deriving DecidableEq

inductive LinkPoll where
  | pending
  | closed
  | update (u : LinkUpdate)

/-- A container runtime over a world of type `σ`. A listing is asked for first and answered after
some time. -/
structure ContainerRuntime (σ : Type) where
  name : String
  askList : ContainerFilter → σ → σ × Span
  answerList : ContainerFilter → σ → σ × Except RuntimeFault (List Container)
  subscribe : String → σ → σ × Except RuntimeFault Unit
  nextEvent : σ → σ × FeedPoll
  namespacePath : String → σ → σ × Except RuntimeFault String

/-- Access to the interfaces of namespaces over a world of type `σ`. An open namespace is known by
a number and the path it was opened at. -/
structure LinkMonitor (σ : Type) where
  openAt : String → σ → σ × Except WatchFault Nat
  list : Nat → String → σ → σ × Except WatchFault (List Link)
  nextUpdate : Nat → String → σ → σ × LinkPoll
  release : Nat → String → σ → σ

end LabStream
