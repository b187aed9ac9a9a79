import Std.Data.ExtTreeMap
import LabStream.Link

namespace LabStream

inductive LinkAction where
  | create
  | update
  | delete
  deriving DecidableEq

def LinkAction.word : LinkAction → String
  | create => "create"
  | update => "update"
  | delete => "delete"

/-- The last known snapshot of every interface, by index. -/
abbrev LinkTable := Std.ExtTreeMap Nat Snapshot

namespace LinkTable

def store (table : LinkTable) (s : Snapshot) : LinkTable := table.insert s.index s

/-- The table of an inventory; of two snapshots of one index the later counts. -/
def seed (inventory : List Snapshot) : LinkTable := inventory.foldl store ∅

/-- The table after an update and the change to report, if there is one. -/
def apply (table : LinkTable) : LinkUpdate → LinkTable × Option (LinkAction × Snapshot)
  | .removed link =>
    match table[link.snapshot.index]? with
    | some last => (table.erase link.snapshot.index, some (.delete, last))
    | none => (table, none)
  | .upsert link =>
    let fresh := link.snapshot
    match table[fresh.index]? with
    | some last => if last = fresh then (table, none) else (table.store fresh, some (.update, fresh))
    | none => (table.store fresh, some (.create, fresh))

def snapshots (table : LinkTable) : List Snapshot := table.toList.map (·.2)

end LinkTable

end LabStream
