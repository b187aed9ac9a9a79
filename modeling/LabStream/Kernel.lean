import LabStream.Disk
import LabStream.LinkMessage
import LabStream.Surroundings
import LabStream.TcHost

namespace LabStream

structure TcRule where
  start : String
  outcome : TcOutcome

inductive LinkNotice where
  | changed (message : LinkMessage)
  | gone (message : LinkMessage)
  | other

/-- A system whose answers are prepared. An error number of zero means success. -/
structure Kernel where
  disk : Disk
  objects : List (String × ClassifierObject)
  inventory : List LinkMessage
  setnsErrno : Nat
  socketErrno : Nat
  bindErrno : Nat
  dumpErrno : Nat
  pinsMounted : Bool
  statfsErrno : Nat
  mountErrno : Nat
  mapErrno : Nat
  loadErrno : Nat
  loadLog : String
  pinErrno : List (String × Nat)
  counters : Tally
  /-- Keys that are listed but not found. -/
  vanished : List CounterKey
  nextKeyErrno : Nat
  lookupErrno : Nat
  tcMissing : Bool
  tcRules : List TcRule
  processes : ProcView
  /-- What is on its way to everyone who watches the interfaces. -/
  queues : List (List LinkUpdate)
  /-- Whether all connections have been broken. -/
  hungUp : Bool

namespace Kernel

def loopback : LinkMessage :=
  ⟨1, [.name "lo", .mtu 65536, .address (List.replicate 6 0), .operState 2, .stats64 ⟨0, 0, 0, 0⟩]⟩

def pinMount : List String := ["sys", "fs", "bpf"]

def empty : Kernel :=
  { disk := [⟨pinMount, true⟩], objects := [], inventory := [loopback], setnsErrno := 0, socketErrno := 0,
    bindErrno := 0, dumpErrno := 0, pinsMounted := false, statfsErrno := 0, mountErrno := 0,
    mapErrno := 0, loadErrno := 0, loadLog := "", pinErrno := [], counters := ∅, vanished := [],
    nextKeyErrno := 0, lookupErrno := 0, tcMissing := false, tcRules := [],
    processes := ⟨fun _ => none, fun _ => []⟩, queues := [], hungUp := false }

/-- What an error number says of an action with the result `value`. -/
def orErrno {α : Type} (errno : Nat) (value : α) : Except Nat α := if errno = 0 then .ok value else .error errno

/-! Namespaces and interfaces. -/

inductive OpenFault where
  | nul
  | errno (number : Nat)

def OpenFault.text : OpenFault → String
  | nul => "file name contained an unexpected NUL byte"
  | errno number => Errno.text number

def openFile (path : String) (k : Kernel) : Except OpenFault Unit :=
  if path.toList.contains '\x00' then .error .nul
  else
    match k.disk.openFault? path with
    | some errno => .error (.errno errno)
    | none => .ok ()

/-- Enters the namespace at a path, none means that of the system itself. -/
def enterNamespace (netns : Option String) (k : Kernel) : Except OpenFault Unit :=
  match netns with
  | none => .ok ()
  | some path =>
    match k.openFile path with
    | .error fault => .error fault
    | .ok () => if k.setnsErrno = 0 then .ok () else .error (.errno k.setnsErrno)

def connect (netns : Option String) (k : Kernel) : Except WatchFault Unit :=
  match k.enterNamespace netns with
  | .error fault => .error (.namespace fault.text)
  | .ok () => if k.socketErrno = 0 then .ok () else .error (.namespace (Errno.text k.socketErrno))

/-- All interfaces, asked for on a socket. -/
def dump (k : Kernel) : Except WatchFault (List Link) :=
  if k.dumpErrno = 0 then .ok (k.inventory.map (·.received.link))
  else .error (.netlink ("Received a netlink error message " ++ Errno.text k.dumpErrno))

def listLinks (netns : Option String) (k : Kernel) : Except WatchFault (List Link) := do
  k.connect netns
  k.dump

def openAt (path : String) (k : Kernel) : Kernel × Except WatchFault Nat :=
  match k.connect (some path) with
  | .error fault => (k, .error fault)
  | .ok () =>
    if k.bindErrno ≠ 0 then (k, .error (.namespace (Errno.text k.bindErrno)))
    else ({ k with queues := k.queues ++ [[]] }, .ok k.queues.length)

def nextUpdate (handle : Nat) (k : Kernel) : Kernel × LinkPoll :=
  match k.queues[handle]? with
  | some (update :: rest) => ({ k with queues := k.queues.set handle rest }, .update update)
  | _ => (k, if k.hungUp then .closed else .pending)

def LinkNotice.update? : LinkNotice → Option LinkUpdate
  | .changed message => some (.upsert message.received.link)
  | .gone message => some (.removed message.received.link)
  | .other => none

def multicast (notices : List LinkNotice) (k : Kernel) : Kernel :=
  { k with queues := k.queues.map (· ++ notices.filterMap LinkNotice.update?) }

def monitor : LinkMonitor Kernel where
  openAt
  list _ _ k := (k, k.dump)
  nextUpdate handle _ := nextUpdate handle
  release _ _ k := k

/-! What is needed for counting. -/

def makeDirectory (path : String) (k : Kernel) : Kernel × Except Nat Unit :=
  let (disk, result) := k.disk.makeDirectory (Disk.parts path)
  ({ k with disk }, result)

def readObject (path : String) (k : Kernel) : Except Nat (Option ClassifierObject) :=
  match k.openFile path with
  | .error (.errno number) => .error number
  | .error .nul => .error Errno.noEntry
  | .ok () => .ok ((k.objects.find? (·.1 = path)).map (·.2))

def pin (path : String) (k : Kernel) : Kernel × Bool :=
  let parts := Disk.parts path
  let errno := ((k.pinErrno.find? (·.1 = parts.getLastD "")).map (·.2)).getD 0
  match if errno = 0 then k.disk.makeFile parts else none with
  | some disk => ({ k with disk }, true)
  | none => (k, false)

def nulReason : String := "nul byte found in provided data"

def runTc (_ : Option String) (c : TcCommand) (k : Kernel) : Kernel × TcOutcome :=
  (k,
    if c.arguments.any fun word => word.toList.contains '\x00' then .notStarted nulReason
    else if k.tcMissing then .notStarted (Errno.text Errno.noEntry)
    else match k.tcRules.find? fun rule => c.argumentText.startsWith rule.start with
      | some rule => rule.outcome
      | none => .exited 0 [])

def counterKeys (k : Kernel) : Except Nat (List CounterKey) :=
  orErrno k.nextKeyErrno (k.counters.keys ++ k.vanished.filter fun key => !k.counters.contains key)

def counter (key : CounterKey) (k : Kernel) : Except Nat Volume :=
  if k.lookupErrno ≠ 0 then .error k.lookupErrno
  else if k.vanished.contains key then .error Errno.noEntry
  else match k.counters[key]? with
    | some volume => .ok volume
    | none => .error Errno.noEntry

def tcHost : TcHost Kernel where
  hasTc k := !k.tcMissing
  makeDirectory
  removeFile path k := { k with disk := k.disk.removeFile (Disk.parts path) }
  removeTree path k := { k with disk := k.disk.removeTree (Disk.parts path) }
  isPinSystem _ k := orErrno k.statfsErrno k.pinsMounted
  mountPinSystem _ k :=
    if k.mountErrno = 0 then ({ k with pinsMounted := true }, .ok ()) else (k, .error k.mountErrno)
  readObject
  makeMaps k := k.mapErrno = 0
  loadProgram _ k := if k.loadErrno = 0 then .ok () else .error k.loadLog
  pin
  enter netns k := match k.enterNamespace netns with
    | .ok () => .ok ()
    | .error (.errno number) => .error number
    | .error .nul => .error Errno.noEntry
  runTc
  links := listLinks
  counterKeys
  counter
  processes k := k.processes

end Kernel

end LabStream
