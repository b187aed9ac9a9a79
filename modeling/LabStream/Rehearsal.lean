import LabStream.Clockwork
import LabStream.ScriptedWorld
import LabStream.EventStream

namespace LabStream

/-- A crew at work in a scripted world, with a consumer that takes every event at once. -/
structure CrewRehearsal where
  crew : Crew ScriptedWorld
  received : List Event

/-- A sampler at work in a scripted world, with a consumer that takes every event at once. -/
structure SamplerRehearsal where
  hub : Hub ScriptedWorld
  sampler : Sampler String
  received : List Event

namespace Rehearsal

/-- More steps than any rehearsal takes between two changes of its world. -/
def patience : Nat := 1000000

def root : Token := [0]

structure PathSearch (σ : Type) where
  host : Traced σ
  waited : Span
  result : Except RuntimeFault String

/-- Looks for the namespace of a container as a watcher does, from a number of attempts on. -/
def findPathFrom {σ : Type} (runtime : ContainerRuntime σ) (id : String) :
    Nat → Nat → Option RuntimeFault → Nat → Traced σ → PathSearch σ
  | 0, _, fault, now, host => ⟨host, ⟨now⟩, .error (fault.getD (.notReady id))⟩
  | left + 1, attempts, fault, now, host =>
    let (host, answer) := host.perform (.namespacePath id) (runtime.namespacePath id)
    match Watcher.afterAttempt id attempts fault now answer with
    | .ok (.resolving attempts fault wakeAt) =>
      findPathFrom runtime id left attempts fault wakeAt host
    | .ok (.opening path) => ⟨host, ⟨now⟩, .ok path⟩
    | .ok _ => ⟨host, ⟨now⟩, .ok ""⟩
    | .error fault => ⟨host, ⟨now⟩, .error fault⟩

def findPath {σ : Type} (runtime : ContainerRuntime σ) (id : String) (host : Traced σ) : PathSearch σ :=
  findPathFrom runtime id Watcher.maxAttempts 0 none 0 host

def enrich {σ : Type} (runtime : ContainerRuntime σ) (attrs : Attributes) (fullId name : String)
    (host : Traced σ) : Traced σ × Attributes :=
  match Enrichment.filter? attrs fullId name with
  | none => (host, attrs)
  | some filter =>
    let (host, _) := host.perform (.list filter) (runtime.askList filter)
    let (host, found) := host.observe (runtime.answerList filter)
    (host, Enrichment.fill attrs fullId name found)

def hub (host : Traced ScriptedWorld) (origin : Int) (capacity : Nat) : Hub ScriptedWorld :=
  ⟨host, 0, origin, [], .ofCapacity capacity, root⟩

end Rehearsal

namespace CrewRehearsal

def start (world : ScriptedWorld) (origin : Int) (options : WatchOptions) : CrewRehearsal :=
  ⟨{ Rehearsal.hub (.start world) origin 1 with roster := .empty, watchers := [], options }, []⟩

def receive (r : CrewRehearsal) : Option CrewRehearsal :=
  r.crew.channel.receive.map fun (event, channel) =>
    { crew := { r.crew with channel }, received := r.received ++ [event] }

def clockwork : Clockwork CrewRehearsal where
  step r :=
    ((r.crew.step (ScriptedWorld.runtime "") ScriptedWorld.monitor).map fun crew => { r with crew }).or
      r.receive
  now r := r.crew.now
  setNow r now := { r with crew.now := now }
  wakeTimes r := r.crew.wakeTimes

end CrewRehearsal

namespace SamplerRehearsal

def receive (r : SamplerRehearsal) : Option SamplerRehearsal :=
  r.hub.channel.receive.map fun (event, channel) =>
    { r with hub := { r.hub with channel }, received := r.received ++ [event] }

def clockwork : Clockwork SamplerRehearsal where
  step r :=
    ((r.sampler.step ScriptedWorld.backend r.hub).map fun (hub, sampler) => { r with hub, sampler }).or
      r.receive
  now r := r.hub.now
  setNow r now := { r with hub.now := now }
  wakeTimes r := r.sampler.wakeTime.toList

end SamplerRehearsal

namespace EventStream

def clockwork {σ τ : Type} (setup : StreamSetup σ τ) : Clockwork (EventStream σ τ) where
  step := EventStream.step setup
  now s := s.crew.now
  setNow := EventStream.setNow
  wakeTimes := EventStream.wakeTimes

end EventStream

end LabStream
