import LabStream.DockerFeed
import LabStream.DockerReply

namespace LabStream

/-- All that has come on a feed and was not taken yet, and whether it ends there. -/
structure FeedInput where
  text : String
  ended : Bool

/-- The way to Docker in a world of type `σ`. -/
structure DockerSocket (σ : Type) where
  ask : DockerRequest → σ → σ × DockerReply
  readFeed : σ → σ × FeedInput

structure DockerSession (σ : Type) where
  world : σ
  feed : DockerFeed

namespace DockerSocket

variable {σ : Type}

def scheme : String := "unix://"

/-- The path of the socket that is used when nothing else is said. -/
def standardPath : String := "/var/run/docker.sock"

/-- The part of a list that follows the first occurrence of `word`, after what is before it. -/
def cutOut (word : List Char) : List Char → List Char
  | [] => []
  | c :: rest => if word.isPrefixOf (c :: rest) then (c :: rest).drop word.length else c :: cutOut word rest

/-- The path of a socket: the one asked for, else the one that the surroundings name. -/
def path (asked : String) (named : Option String) : String :=
  let address :=
    if asked.isEmpty then ((named.filter (·.startsWith scheme)).getD (scheme ++ standardPath)) else asked
  String.ofList (cutOut scheme.toList address.toList)

def missingText (path : String) : String := "Socket not found: " ++ path

def pid (socket : DockerSocket σ) (id : String) (world : σ) : σ × Except RuntimeFault (Option Nat) :=
  let (world, reply) := socket.ask (.inspect id) world
  (world, (reply.value DockerRecord.inspection).map DockerRecord.pidOf)

/-- Adds the process of a container that runs, if it can be found out. -/
def withPid (socket : DockerSocket σ) (f : ContainerFilter) (state : σ × List Container) (c : Container) :
    σ × List Container :=
  if f.withPid && c.isRunning then
    match socket.pid c.id state.1 with
    | (world, .ok pid) => (world, state.2 ++ [{ c with pid }])
    | (world, .error _) => (world, state.2 ++ [c])
  else (state.1, state.2 ++ [c])

def list (socket : DockerSocket σ) (f : ContainerFilter) (world : σ) :
    σ × Except RuntimeFault (List Container) :=
  let (world, reply) := socket.ask (.list f) world
  match reply.value (.list DockerRecord.summary) with
  | .error fault => (world, .error fault)
  | .ok value =>
    let (world, containers) :=
      (value.items.map DockerRecord.containerOf).foldl (socket.withPid f) (world, [])
    (world, .ok containers)

def subscribe (socket : DockerSocket σ) (label : String) (s : DockerSession σ) :
    DockerSession σ × Except RuntimeFault Unit :=
  let (world, reply) := socket.ask (.events label) s.world
  let feed : DockerFeed := match reply.text with
    | .ok text => { DockerFeed.empty with text := text.toList }
    | .error fault => { DockerFeed.empty with fault := some fault }
  (⟨world, feed⟩, .ok ())

/-- The next event, from what was read before or else from what has come since. -/
def nextEvent (socket : DockerSocket σ) (s : DockerSession σ) : DockerSession σ × FeedPoll :=
  match s.feed.poll with
  | (feed, .pending) =>
    let (world, input) := socket.readFeed s.world
    match { feed with text := feed.text ++ input.text.toList }.poll with
    | (feed, .pending) =>
      let (feed, poll) := { feed with atEnd := input.ended }.poll
      (⟨world, feed⟩, poll)
    | (feed, poll) => (⟨world, feed⟩, poll)
  | (feed, poll) => ({ s with feed }, poll)

def namespacePath (socket : DockerSocket σ) (id : String) (world : σ) : σ × Except RuntimeFault String :=
  let (world, pid) := socket.pid id world
  (world, match pid with
    | .ok (some pid) => .ok ("/proc/" ++ toString pid ++ "/ns/net")
    | .ok none => .error (.noProcess id)
    | .error fault => .error fault)

def runtime (socket : DockerSocket σ) : ContainerRuntime (DockerSession σ) where
  name := "docker"
  askList _ s := (s, .zero)
  answerList f s :=
    let (world, found) := socket.list f s.world
    ({ s with world }, found)
  subscribe := socket.subscribe
  nextEvent := socket.nextEvent
  namespacePath id s :=
    let (world, path) := socket.namespacePath id s.world
    ({ s with world }, path)

end DockerSocket

end LabStream
