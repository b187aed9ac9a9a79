import Std.Data.ExtTreeMap

namespace LabStream

/-- The watchers in charge, by container. Every watcher has a number of its own. -/
structure Roster where
  entries : Std.ExtTreeMap String Nat
  nextNumber : Nat
  deriving DecidableEq

namespace Roster

def empty : Roster := ⟨∅, 0⟩

/-- Enters a new watcher for a container that has a name and no watcher yet. -/
def enter (roster : Roster) (key : String) : Roster × Option Nat :=
  if key.isEmpty || roster.entries.contains key then (roster, none)
  else (⟨roster.entries.insert key roster.nextNumber, roster.nextNumber + 1⟩, some roster.nextNumber)

/-- Takes out the watcher of a container, whichever it is. -/
def take (roster : Roster) (key : String) : Roster × Option Nat :=
  ({ roster with entries := roster.entries.erase key }, roster.entries[key]?)

def drain (roster : Roster) : Roster × List Nat :=
  ({ roster with entries := ∅ }, roster.entries.toList.map (·.2))

/-- A watcher takes itself out, unless another one has its place. -/
def release (roster : Roster) (key : String) (number : Nat) : Roster :=
  if roster.entries[key]? = some number then { roster with entries := roster.entries.erase key }
  else roster

end Roster

end LabStream
