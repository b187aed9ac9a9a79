import LabStream.Errno
import LabStream.Settings
import LabStream.TcHost
import LabStream.TrafficBackend

namespace LabStream

structure TcPlaces where
  paths : TrafficPaths
  /-- The name of the processor's architecture. -/
  machine : String
  deriving DecidableEq

structure TcTable where
  scope : TrafficScope
  directory : String
  deriving DecidableEq

namespace TcPlaces

def within (directory name : String) : String :=
  if directory.isEmpty || directory.endsWith "/" then directory ++ name else directory ++ "/" ++ name

/-- The word for an architecture in the name of an object file. -/
def archWord? : String → Option String
  | "x86_64" => some "x86"
  | "aarch64" => some "arm64"
  | _ => none

def objectPath (places : TcPlaces) : Except TrafficFault String :=
  match archWord? places.machine with
  | some word => .ok (within places.paths.objectDir ("traffic_proto_top." ++ word ++ ".o"))
  | none => .error (.unsupportedArch places.machine)

def scopeDirectory (places : TcPlaces) (scope : TrafficScope) : String :=
  within places.paths.bpffsRoot (directoryName scope.id)

end TcPlaces

namespace TcTable

def programName (hook : Hook) : String := hook.word ++ "_prog"

def mapName : String := "proto_counters"

def programPin (table : TcTable) (hook : Hook) : String :=
  TcPlaces.within table.directory (programName hook)

def mapPin (table : TcTable) : String := TcPlaces.within table.directory mapName

def pins (table : TcTable) : List String :=
  [table.programPin .ingress, table.programPin .egress, table.mapPin]

end TcTable

namespace TcHost

variable {σ : Type}

def pinMount : String := "/sys/fs/bpf"

/-- The sizes of a key and of a value of the counter map. -/
def keySize : Nat := 8
def valueSize : Nat := 16

/-- Makes a directory, with those on the way to it. -/
def directory (host : TcHost σ) (path : String) (s : TcWorld σ) : TcWorld σ × Except TrafficFault Unit :=
  let (world, result) := host.makeDirectory path s.world
  ({ s with world }, result.mapError fun errno => .file path (Errno.text errno))

/-- Mounts the file system for pins unless it is mounted. -/
def mountPins (host : TcHost σ) (s : TcWorld σ) : TcWorld σ × Except TrafficFault Unit :=
  match host.directory pinMount s with
  | (s, .error fault) => (s, .error fault)
  | (s, .ok ()) =>
    match host.isPinSystem pinMount s.world with
    | .error errno => (s, .error (.mountFailed pinMount errno))
    | .ok true => (s, .ok ())
    | .ok false =>
      let (world, result) := host.mountPinSystem pinMount s.world
      (⟨world, s.actions ++ [.mount pinMount]⟩, match result with
        | .ok () => .ok ()
        | .error errno => if errno = Errno.busy then .ok () else .error (.mountFailed pinMount errno))

def prepare (host : TcHost σ) (places : TcPlaces) (s : TcWorld σ) : TcWorld σ × Except TrafficFault Unit :=
  if !host.hasTc s.world then (s, .error .missingTc)
  else match host.mountPins s with
    | (s, .error fault) => (s, .error fault)
    | (s, .ok ()) => host.directory places.paths.bpffsRoot s

def discover (host : TcHost σ) (containers : List Container) (s : TcWorld σ) : List TrafficScope :=
  let proc := host.processes s.world
  proc.scopes "/proc/" containers (proc.inode "self/ns/net")

def removeFiles (host : TcHost σ) (paths : List String) (s : TcWorld σ) : TcWorld σ :=
  { s with world := paths.foldl (fun world path => host.removeFile path world) s.world }

def pinAt (host : TcHost σ) (path : String) (s : TcWorld σ) : TcWorld σ × Except TrafficFault Unit :=
  let (world, done) := host.pin path s.world
  ({ s with world }, if done then .ok () else .error (.pin path))

def loadProgramFor (host : TcHost σ) (object : ClassifierObject) (table : TcTable) (hook : Hook)
    (s : TcWorld σ) : TcWorld σ × Except TrafficFault Unit :=
  let name := TcTable.programName hook
  match object.program? name with
  | none => (s, .error (.missingObject name))
  | some program =>
    if !program.isClassifier then (s, .error (.program name .wrongType))
    else match host.loadProgram name s.world with
      | .error log => (s, .error (.program name (.rejected log)))
      | .ok () => host.pinAt (table.programPin hook) s

def mapFault? (m : ObjectMap) : Option MapFault :=
  if !ObjectMap.hashTypes.contains m.type then some (.wrongType m.type)
  else if m.keySize ≠ keySize then some (.wrongKey keySize m.keySize)
  else if m.valueSize ≠ valueSize then some (.wrongValue valueSize m.valueSize)
  else none

def loadMap (host : TcHost σ) (object : ClassifierObject) (table : TcTable) (s : TcWorld σ) :
    TcWorld σ × Except TrafficFault Unit :=
  match object.map? TcTable.mapName with
  | none => (s, .error (.missingObject TcTable.mapName))
  | some m =>
    match host.pinAt table.mapPin s with
    | (s, .error fault) => (s, .error fault)
    | (s, .ok ()) => (s, match mapFault? m with
      | some fault => .error (.map fault)
      | none => .ok ())

def loadObject (host : TcHost σ) (object : ClassifierObject) (table : TcTable) (s : TcWorld σ) :
    TcWorld σ × Except TrafficFault Unit :=
  match host.loadProgramFor object table .ingress s with
  | (s, .error fault) => (s, .error fault)
  | (s, .ok ()) =>
    match host.loadProgramFor object table .egress s with
    | (s, .error fault) => (s, .error fault)
    | (s, .ok ()) => host.loadMap object table s

/-- The object file, if it can be read and loaded. -/
def readLoadable (host : TcHost σ) (places : TcPlaces) (scope : TrafficScope) (s : TcWorld σ) :
    Except TrafficFault ClassifierObject :=
  match places.objectPath with
  | .error fault => .error fault
  | .ok path =>
    match host.readObject path s.world with
    | .error errno => .error (.file path (Errno.text errno))
    | .ok none => .error (.unloadable scope.label)
    | .ok (some object) =>
      if object.isLoadable && (object.maps.isEmpty || host.makeMaps s.world) then .ok object
      else .error (.unloadable scope.label)

/-- Loads what counts in one scope; pins that an earlier run has left are removed first. -/
def load (host : TcHost σ) (places : TcPlaces) (scope : TrafficScope) (s : TcWorld σ) :
    TcWorld σ × Except TrafficFault TcTable :=
  let table : TcTable := ⟨scope, places.scopeDirectory scope⟩
  match host.directory table.directory s with
  | (s, .error fault) => (s, .error fault)
  | (s, .ok ()) =>
    let s := host.removeFiles table.pins s
    match host.readLoadable places scope s with
    | .error fault => (s, .error fault)
    | .ok object =>
      match host.loadObject object table s with
      | (s, .error fault) => (s, .error fault)
      | (s, .ok ()) => (s, .ok table)

def scopeLinks (host : TcHost σ) (table : TcTable) (s : TcWorld σ) : Except TrafficFault (List Link) :=
  (host.links table.scope.netns s.world).mapError fun fault =>
    .interfaces table.scope.label fault.message

def command (host : TcHost σ) (table : TcTable) (c : TcCommand) (s : TcWorld σ) : TcWorld σ × TcOutcome :=
  let (world, outcome) := host.runTc table.scope.netns c s.world
  (⟨world, s.actions ++ [.command table.scope.netns c outcome]⟩, outcome)

def replaceFilter (host : TcHost σ) (table : TcTable) (ifname : String) (hook : Hook) (s : TcWorld σ) :
    TcWorld σ × Except TrafficFault Unit :=
  let c := TcCommand.replaceFilter ifname hook (table.programPin hook)
  let (s, outcome) := host.command table c s
  (s, match outcome.fault? with
    | some detail => .error (.command c.text detail)
    | none => .ok ())

/-- Attaches both programs to an interface. The first command fails where it has been run before. -/
def attach (host : TcHost σ) (table : TcTable) (ifname : String) (s : TcWorld σ) :
    TcWorld σ × Except TrafficFault Unit :=
  match host.enter table.scope.netns s.world with
  | .error errno => (s, .error (.namespace (Errno.text errno)))
  | .ok () =>
    let (s, _) := host.command table (.addQdisc ifname) s
    match host.replaceFilter table ifname .ingress s with
    | (s, .error fault) => (s, .error fault)
    | (s, .ok ()) => host.replaceFilter table ifname .egress s

/-- Takes both programs off an interface, as far as that is possible. -/
def detach (host : TcHost σ) (table : TcTable) (ifname : String) (s : TcWorld σ) : TcWorld σ :=
  match host.enter table.scope.netns s.world with
  | .error _ => s
  | .ok () =>
    let (s, _) := host.command table (.deleteFilter ifname .ingress) s
    (host.command table (.deleteFilter ifname .egress) s).1

/-- Adds the counter of a key, unless it has gone meanwhile. -/
def readCounter (host : TcHost σ) (world : σ) (tally : Tally) (key : CounterKey) :
    Except TrafficFault Tally :=
  match host.counter key world with
  | .ok volume => .ok (tally.insert key volume)
  | .error errno => if errno = Errno.noEntry then .ok tally else .error (.map .lookup)

def read (host : TcHost σ) (s : TcWorld σ) : Except TrafficFault Tally :=
  match host.counterKeys s.world with
  | .error errno => if errno = Errno.noEntry then .ok ∅ else .error (.map .nextKey)
  | .ok keys => keys.foldlM (host.readCounter s.world) ∅

def close (host : TcHost σ) (table : TcTable) (s : TcWorld σ) : TcWorld σ :=
  let s := host.removeFiles table.pins s
  { s with world := host.removeTree table.directory s.world }

def backend (host : TcHost σ) (places : TcPlaces) : TrafficBackend (TcWorld σ) TcTable where
  prepare := host.prepare places
  discover containers s := (s, .ok (host.discover containers s))
  load := host.load places
  links table s := (s, host.scopeLinks table s)
  attach := host.attach
  detach := host.detach
  read _ s := (s, host.read s)
  closeDelay _ _ := .zero
  close := host.close
  finish s := { s with world := host.removeTree places.paths.bpffsRoot s.world }

end TcHost

end LabStream
