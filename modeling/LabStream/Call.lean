import LabStream.Surroundings

namespace LabStream

/-- A call to the surroundings, as it is noted. -/
inductive Call where
  | list (filter : ContainerFilter)
  | events (label : String)
  | namespacePath (id : String)
  | openLinks (path : String)
  | listLinks (path : String)
  | closeLinks (path : String)
  | prepare
  | discover (containers : Nat)
  | load (scope : String) (done : Bool)
  | scopeLinks (scope : String)
  | attach (scope ifname : String) (done : Bool)
  | detach (scope ifname : String)
  | read (scope : String)
  | close (scope : String)
  | finish
  deriving DecidableEq

namespace Call

def inScope (word scope : String) : String := word ++ " [" ++ scope ++ "]"

def text : Call → String
  | list filter => "list " ++ filter.toJson.render
  | events label => "events " ++ label
  | namespacePath id => "ns_path " ++ id
  | openLinks path => "open " ++ path
  | listLinks path => "links " ++ path
  | closeLinks path => "close " ++ path
  | prepare => "prepare"
  | discover containers => "discover " ++ toString containers
  | load scope _ => inScope "load" scope
  | scopeLinks scope => inScope "links" scope
  | attach scope ifname _ => inScope ("attach " ++ ifname) scope
  | detach scope ifname => inScope ("detach " ++ ifname) scope
  | read scope => inScope "read" scope
  | close scope => inScope "close" scope
  | finish => "finish"

end Call

/-- A world with all calls that were made to it, the last one last. -/
structure Traced (σ : Type) where
  world : σ
  calls : List Call

namespace Traced

variable {σ α : Type}

def start (world : σ) : Traced σ := ⟨world, []⟩

def note (t : Traced σ) (call : Call) : Traced σ := { t with calls := t.calls ++ [call] }

def perform (t : Traced σ) (call : Call) (action : σ → σ × α) : Traced σ × α :=
  let (world, result) := action t.world
  (⟨world, t.calls ++ [call]⟩, result)

def performNoting (t : Traced σ) (call : α → Call) (action : σ → σ × α) : Traced σ × α :=
  let (world, result) := action t.world
  (⟨world, t.calls ++ [call result]⟩, result)

def observe (t : Traced σ) (action : σ → σ × α) : Traced σ × α :=
  let (world, result) := action t.world
  (⟨world, t.calls⟩, result)

end Traced

end LabStream
