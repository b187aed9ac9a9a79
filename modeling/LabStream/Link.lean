namespace LabStream

structure Snapshot where
  index : Nat
  name : String
  altName : String
  mtu : Nat
  mac : String
  state : String
  kind : String
  deriving DecidableEq

structure LinkCounters where
  rxBytes : Nat
  txBytes : Nat
  rxPackets : Nat
  txPackets : Nat
  deriving DecidableEq

structure Link where
  snapshot : Snapshot
  counters : Option LinkCounters
  controller : Option Nat
  deriving DecidableEq

/-- A change of one interface, with its state after it, or its last state before it went. -/
inductive LinkUpdate where
  | upsert (link : Link)
  | removed (link : Link)
  deriving DecidableEq

namespace LinkUpdate

def link : LinkUpdate → Link
  | upsert link => link
  | removed link => link

def index (update : LinkUpdate) : Nat := update.link.snapshot.index

end LinkUpdate

end LabStream
