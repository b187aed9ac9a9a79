import LabStream.Container
import LabStream.Link
import LabStream.TrafficSums

namespace LabStream

/-- One place where traffic is counted: the host, or a namespace. -/
structure TrafficScope where
  id : String
  label : String
  netns : Option String
  deriving DecidableEq

namespace TrafficScope

def host : TrafficScope := ⟨"host", "host", none⟩

def isHost (scope : TrafficScope) : Bool := scope.netns.isNone

def qualifier (scope : TrafficScope) : Option String := if scope.isHost then none else some scope.label

end TrafficScope

structure ProcView where
  /-- The inode that a path leads to. -/
  inode : String → Option Nat
  /-- The names in a directory, each with whether it is a directory itself. -/
  entries : String → List (String × Bool)

namespace ProcView

def scopeName (c : Container) (pid : Nat) : String :=
  if c.firstName ≠ "" then c.firstName
  else if c.shortId ≠ "" then c.shortId
  else "pid-" ++ toString pid

/-- The namespace files of a process, each with its label: its own, then the named ones in order. -/
def candidates (proc : ProcView) (c : Container) : List (String × String) :=
  match c.pid with
  | none | some 0 => []
  | some pid =>
    let name := scopeName c pid
    let nested := toString pid ++ "/root/var/run/netns"
    let names := ((proc.entries nested).filter (!·.2)).map (·.1)
    (toString pid ++ "/ns/net", name ++ "/root-netns") ::
      (names.mergeSort (· ≤ ·)).map fun entry => (nested ++ "/" ++ entry, name ++ "/" ++ entry)

/-- Adds the scope of a candidate unless its namespace is there already. -/
def addCandidate (proc : ProcView) (root : String) (found : List Nat × List TrafficScope)
    (candidate : String × String) : List Nat × List TrafficScope :=
  match proc.inode candidate.1 with
  | none => found
  | some inode =>
    if found.1.contains inode then found
    else (inode :: found.1,
      found.2 ++ [⟨"ns-" ++ toString inode, candidate.2, some (root ++ candidate.1)⟩])

/-- The host and every other namespace of the containers, each once. -/
def scopes (proc : ProcView) (root : String) (containers : List Container) (hostInode : Option Nat) :
    List TrafficScope :=
  ((containers.flatMap proc.candidates).foldl (proc.addCandidate root)
    (hostInode.toList, [TrafficScope.host])).2

end ProcView

def Link.isFabric (link : Link) : Bool :=
  (match link.controller with
    | some index => index != 0
    | none => false) ||
  ["docker0", "br-", "vnet"].any (fun start => link.snapshot.name.startsWith start) ||
  link.snapshot.kind = "veth" || link.snapshot.kind = "bridge"

def Link.isCounted (link : Link) : Bool := link.snapshot.name ≠ "" && link.snapshot.name ≠ "lo"

/-- The names of the interfaces to count on, in order: the fabric-facing ones if there are any, all
others if not. -/
def desiredInterfaces (links : List Link) : List String :=
  let counted := links.filter Link.isCounted
  let fabric := counted.filter Link.isFabric
  ((if fabric.isEmpty then counted else fabric).map (·.snapshot.name)).mergeSort (· ≤ ·)

/-- The names of all interfaces that count, by index. -/
def linkNames (links : List Link) : LinkNames :=
  (links.filter Link.isCounted).foldl (fun names link => names.insert link.snapshot.index link.snapshot.name) ∅

def directoryName (id : String) : String :=
  if id.isEmpty then "scope" else id.map fun c => if c.isAlphanum then c else '_'

end LabStream
