import LabStream.Machine
import LabStream.Rehearsal

namespace LabStream

/-- What happens on a machine at one moment, after which a number of lines is read. -/
structure Scene where
  input : FeedInput
  notices : List LinkNotice
  lines : Nat

abbrev MachineStream := EventStream Machine TcTable

structure Performance where
  /-- The events of every scene. -/
  scenes : List (List Event)
  /-- The events after the last scene. -/
  rest : List Event
  stream : MachineStream

namespace MachineStream

def machine (s : MachineStream) : Machine := s.crew.host.world

def setMachine (m : Machine) (s : MachineStream) : MachineStream := { s with crew.host.world := m }

/-- A stream that has gone as far as it can before anything happens. -/
def begin (setup : StreamSetup Machine TcTable) (m : Machine) (origin : Int) : MachineStream :=
  (EventStream.clockwork setup).settle Rehearsal.patience (EventStream.start setup (.start m) origin [])

/-- Takes the oldest events that were written, at most `count`. -/
def take (count : Nat) (s : MachineStream) : MachineStream × List Event :=
  let m := machine s
  (setMachine { m with written := m.written.drop count } s, m.written.take count)

/-- Whether a stream has to go on until as many events have been written. -/
def lacks (count : Nat) (s : MachineStream) : Bool :=
  s.result?.isNone && (machine s).written.length < count

def play (setup : StreamSetup Machine TcTable) (s : MachineStream) (scene : Scene) : MachineStream × List Event :=
  let clock := EventStream.clockwork setup
  let s := setMachine (((machine s).hear scene.input).notify scene.notices) s
  let s := clock.settle Rehearsal.patience s
  take scene.lines (clock.runWhile Rehearsal.patience (lacks scene.lines) s)

def playAll (setup : StreamSetup Machine TcTable) :
    List Scene → MachineStream → MachineStream × List (List Event)
  | [], s => (s, [])
  | scene :: scenes, s =>
    let (s, events) := play setup s scene
    let (s, more) := playAll setup scenes s
    (s, events :: more)

/-- Runs a stream to its end, which a signal may bring about. -/
def close (setup : StreamSetup Machine TcTable) (signalled : Bool) (s : MachineStream) : MachineStream :=
  let clock := EventStream.clockwork setup
  let s := if signalled then clock.settle Rehearsal.patience s.cancel else s
  clock.runWhile Rehearsal.patience (·.result?.isNone) s

def perform (setup : StreamSetup Machine TcTable) (m : Machine) (origin : Int) (scenes : List Scene)
    (signalled : Bool) : Performance :=
  let (s, events) := playAll setup scenes (begin setup m origin)
  let s := close setup signalled s
  ⟨events, (machine s).written, s⟩

end MachineStream

end LabStream
