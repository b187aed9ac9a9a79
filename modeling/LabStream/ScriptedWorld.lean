import LabStream.EventLine
import LabStream.Surroundings
import LabStream.TrafficBackend

namespace LabStream

structure Subscription where
  number : Nat
  queue : List LinkUpdate
  isOpen : Bool
  deriving DecidableEq

structure ScriptedNamespace where
  path : String
  links : List Link
  listFails : Bool
  openFails : Bool
  /-- The subscription that gets the updates. -/
  current : Option Nat
  deriving DecidableEq

def ScriptedNamespace.blank (path : String) : ScriptedNamespace := ⟨path, [], false, false, none⟩

inductive AttachRule where
  | all
  | only (names : List String)
  deriving DecidableEq

def AttachRule.refuses : AttachRule → String → Bool
  | all, _ => true
  | only names, name => names.contains name

structure ScriptedScope where
  spec : TrafficScope
  links : List Link
  counters : Tally
  refused : AttachRule
  linksFault : Option TrafficFault
  readFault : Option TrafficFault
  loadFault : Option TrafficFault
  closeDelay : Span

/-- Surroundings that do what they are told: a runtime, namespaces and counters. -/
structure ScriptedWorld where
  containers : List Container
  /-- Whether listings are filtered. -/
  filters : Bool
  listFault : Option RuntimeFault
  listDelay : Span
  eventsFault : Option RuntimeFault
  /-- Prepared answers on the namespaces of containers; the last one of a container stays. -/
  paths : List (String × List (Except RuntimeFault String))
  feed : List (Except RuntimeFault RuntimeEvent)
  feedEnded : Bool
  namespaces : List ScriptedNamespace
  subscriptions : List Subscription
  scopes : List ScriptedScope
  prepareFault : Option TrafficFault
  discoverFault : Option TrafficFault
  sinkFails : Bool
  written : List Event

namespace ScriptedWorld

def empty : ScriptedWorld :=
  ⟨[], true, none, .zero, none, [], [], false, [], [], [], none, none, false, []⟩

/-! The runtime. -/

def shows (filter : ContainerFilter) (c : Container) : Bool :=
  (match filter.label with
    | some label => c.labels.contains label
    | none => true) &&
  (match filter.id with
    | some id => c.id.startsWith id
    | none => true) &&
  (match filter.name with
    | some name => c.names.contains name
    | none => true)

def listContainers (filter : ContainerFilter) (world : ScriptedWorld) :
    Except RuntimeFault (List Container) :=
  match world.listFault with
  | some fault => .error fault
  | none => .ok (if world.filters then world.containers.filter (shows filter) else world.containers)

def nextEvent (world : ScriptedWorld) : ScriptedWorld × FeedPoll :=
  match world.feed with
  | [] => (world, if world.feedEnded then .ended else .pending)
  | .ok e :: rest => ({ world with feed := rest }, .event e)
  | .error fault :: rest => ({ world with feed := rest }, .failed fault)

def listedPath (world : ScriptedWorld) (id : String) : Except RuntimeFault String :=
  if world.containers.any fun c => c.id = id && c.pid.isSome then .ok ("/ns/" ++ id)
  else .error (.noProcess id)

def namespacePath (id : String) (world : ScriptedWorld) : ScriptedWorld × Except RuntimeFault String :=
  match world.paths.find? (·.1 = id) with
  | some (_, answer :: more) =>
    let left := if more.isEmpty then [answer] else more
    ({ world with paths := (id, left) :: world.paths.filter (·.1 ≠ id) }, answer)
  | _ => (world, world.listedPath id)

def runtime (name : String) : ContainerRuntime ScriptedWorld where
  name
  askList _ world := (world, world.listDelay)
  answerList filter world := (world, world.listContainers filter)
  subscribe _ world := (world, match world.eventsFault with
    | some fault => .error fault
    | none => .ok ())
  nextEvent
  namespacePath

/-! The namespaces. -/

def namespace? (world : ScriptedWorld) (path : String) : Option ScriptedNamespace :=
  world.namespaces.find? (·.path = path)

/-- Changes a namespace, which is there afterwards. -/
def setNamespace (world : ScriptedWorld) (path : String)
    (change : ScriptedNamespace → ScriptedNamespace) : ScriptedWorld :=
  let ns := change ((world.namespace? path).getD (.blank path))
  { world with namespaces := ns :: world.namespaces.filter (·.path ≠ path) }

def setSubscription (world : ScriptedWorld) (number : Nat) (change : Subscription → Subscription) :
    ScriptedWorld :=
  { world with subscriptions :=
      world.subscriptions.map fun s => if s.number = number then change s else s }

/-- Ends the subscription that gets the updates of a namespace; whether there was one. -/
def hangUp (path : String) (world : ScriptedWorld) : ScriptedWorld × Bool :=
  match (world.namespace? path).bind (·.current) with
  | none => (world.setNamespace path id, false)
  | some number =>
    ((world.setSubscription number fun s => { s with isOpen := false }).setNamespace path
      fun ns => { ns with current := none }, true)

def openAt (path : String) (world : ScriptedWorld) : ScriptedWorld × Except WatchFault Nat :=
  match world.namespace? path with
  | none => (world, .error (.namespace (Errno.text Errno.noEntry)))
  | some ns =>
    if ns.openFails then (world, .error (.namespace (Errno.text Errno.noEntry)))
    else
      let number := world.subscriptions.length
      let world := (world.hangUp path).1
      let fresh : Subscription := ⟨number, [], true⟩
      ({ world with subscriptions := world.subscriptions ++ [fresh] }.setNamespace path
        fun ns => { ns with current := some number }, .ok number)

def listLinks (path : String) (world : ScriptedWorld) : Except WatchFault (List Link) :=
  let ns := (world.namespace? path).getD (.blank path)
  if ns.listFails then .error (.netlink (Errno.text Errno.notPermitted)) else .ok ns.links

def nextUpdate (number : Nat) (world : ScriptedWorld) : ScriptedWorld × LinkPoll :=
  match world.subscriptions.find? (·.number = number) with
  | none => (world, .closed)
  | some s =>
    match s.queue with
    | update :: rest => (world.setSubscription number fun s => { s with queue := rest }, .update update)
    | [] => (world, if s.isOpen then .pending else .closed)

def release (number : Nat) (path : String) (world : ScriptedWorld) : ScriptedWorld :=
  world.setNamespace path fun ns => if ns.current = some number then { ns with current := none } else ns

def monitor : LinkMonitor ScriptedWorld where
  openAt
  list _ path world := (world, world.listLinks path)
  nextUpdate number _ := nextUpdate number
  release

/-- Changes an interface of a namespace; whether anybody is told. -/
def changeLink (path : String) (update : LinkUpdate) (world : ScriptedWorld) : ScriptedWorld × Bool :=
  let world := world.setNamespace path fun ns =>
    let others := ns.links.filter (·.snapshot.index ≠ update.index)
    { ns with links := match update with
        | .upsert link => others ++ [link]
        | .removed _ => others }
  match (world.namespace? path).bind (·.current) with
  | none => (world, false)
  | some number => (world.setSubscription number fun s => { s with queue := s.queue ++ [update] }, true)

/-! The counters. -/

def veth (index : Nat) (name : String) : Link := ⟨⟨index, name, "", 1500, "", "up", "veth"⟩, none, none⟩

/-- A world whose only scope is that of the host. -/
def ofHost (links : List Link) (counters : Tally) : ScriptedWorld :=
  { empty with scopes := [⟨.host, links, counters, .only [], none, none, none, .zero⟩] }

def scope? (world : ScriptedWorld) (id : String) : Option ScriptedScope :=
  world.scopes.find? (·.spec.id = id)

def setScope (world : ScriptedWorld) (id : String) (change : ScriptedScope → ScriptedScope) :
    ScriptedWorld :=
  { world with scopes := world.scopes.map fun s => if s.spec.id = id then change s else s }

/-- What a scope answers, nothing without a fault. -/
def scopeAnswer {α : Type} (world : ScriptedWorld) (id : String) (none : α)
    (answer : ScriptedScope → Except TrafficFault α) : Except TrafficFault α :=
  match world.scope? id with
  | .some scope => answer scope
  | .none => .ok none

def orFault {α : Type} (fault : Option TrafficFault) (value : α) : Except TrafficFault α :=
  match fault with
  | some fault => .error fault
  | none => .ok value

def backend : TrafficBackend ScriptedWorld String where
  prepare world := (world, orFault world.prepareFault ())
  discover _ world := (world, orFault world.discoverFault (world.scopes.map (·.spec)))
  load spec world := (world, world.scopeAnswer spec.id spec.id fun s => orFault s.loadFault spec.id)
  links id world := (world, world.scopeAnswer id [] fun s => orFault s.linksFault s.links)
  attach id ifname world := (world, world.scopeAnswer id () fun s =>
    if s.refused.refuses ifname then
      .error (.command ("tc filter replace dev " ++ ifname) "exit status: 2")
    else .ok ())
  detach _ _ world := world
  read id world := (world, world.scopeAnswer id ∅ fun s => orFault s.readFault s.counters)
  closeDelay id world := ((world.scope? id).map (·.closeDelay)).getD .zero
  close _ world := world
  finish world := world

/-- Keeps an event that is written out, unless writing fails. -/
def write : EventWriter ScriptedWorld where
  put _ event world := if world.sinkFails then world else { world with written := world.written ++ [event] }
  written := written

end ScriptedWorld

end LabStream
