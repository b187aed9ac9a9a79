import LabStream.ClassifierObject
import LabStream.Container
import LabStream.Link
import LabStream.Tally
import LabStream.TcCommand
import LabStream.TrafficScope
import LabStream.WatchFault

namespace LabStream

/-- What counting with classifier programs needs of a system in a world of type `σ`. Errors are error
numbers. -/
structure TcHost (σ : Type) where
  /-- Whether the command for traffic control can be found. -/
  hasTc : σ → Bool
  makeDirectory : String → σ → σ × Except Nat Unit
  removeFile : String → σ → σ
  removeTree : String → σ → σ
  /-- Whether the file system for pins is mounted at a path. -/
  isPinSystem : String → σ → Except Nat Bool
  mountPinSystem : String → σ → σ × Except Nat Unit
  /-- The object file at a path; nothing when it is none. -/
  readObject : String → σ → Except Nat (Option ClassifierObject)
  /-- Whether the maps of an object can be made. -/
  makeMaps : σ → Bool
  /-- Loads a program into the kernel, which may refuse it with a log. -/
  loadProgram : String → σ → Except String Unit
  /-- Pins a program or a map at a path, if that is possible. -/
  pin : String → σ → σ × Bool
  /-- Whether the namespace of a scope can be entered. -/
  enter : Option String → σ → Except Nat Unit
  /-- Runs a command in a namespace. -/
  runTc : Option String → TcCommand → σ → σ × TcOutcome
  links : Option String → σ → Except WatchFault (List Link)
  /-- The keys of the counter map. -/
  counterKeys : σ → Except Nat (List CounterKey)
  counter : CounterKey → σ → Except Nat Volume
  /-- The processes, below the directory of that name. -/
  processes : σ → ProcView

inductive TcAction where
  | mount (path : String)
  | command (netns : Option String) (command : TcCommand) (outcome : TcOutcome)
  deriving DecidableEq

/-- A world with what was done to it, the last action last. -/
structure TcWorld (σ : Type) where
  world : σ
  actions : List TcAction

namespace TcAction

def text : TcAction → String
  | mount path => "mount bpf " ++ path ++ " bpf 0 -"
  | command _ c _ => c.text

def isSeen : TcAction → Bool
  | mount _ => true
  | command _ _ outcome => outcome.hasStarted

end TcAction

end LabStream
