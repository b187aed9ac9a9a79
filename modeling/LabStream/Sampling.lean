import Std.Data.ExtTreeSet
import LabStream.Event
import LabStream.TrafficBackend
import LabStream.Window

namespace LabStream

structure CountedScope (τ : Type) where
  spec : TrafficScope
  table : τ
  attached : Std.ExtTreeSet String
  previous : Tally
  names : LinkNames

namespace CountedScope

variable {σ τ : Type}

def fresh (spec : TrafficScope) (table : τ) : CountedScope τ := ⟨spec, table, ∅, ∅, ∅⟩

/-- Attaches to an interface that is not attached yet; the first fault is kept. -/
def attachOne (b : TrafficBackend σ τ) (state : Traced σ × CountedScope τ × Option TrafficFault)
    (ifname : String) : Traced σ × CountedScope τ × Option TrafficFault :=
  let (host, scope, fault) := state
  if scope.attached.contains ifname then state
  else
    match host.performNoting
        (fun (result : Except TrafficFault Unit) => .attach scope.spec.id ifname result.toOption.isSome)
        (b.attach scope.table ifname) with
    | (host, .ok ()) => (host, { scope with attached := scope.attached.insert ifname }, fault)
    | (host, .error e) => (host, scope, fault.or (some e))

def detachOne (b : TrafficBackend σ τ) (state : Traced σ × CountedScope τ) (ifname : String) :
    Traced σ × CountedScope τ :=
  let (host, scope) := state
  let (host, _) := host.perform (.detach scope.spec.id ifname)
    fun world => (b.detach scope.table ifname world, ())
  (host, { scope with attached := scope.attached.erase ifname })

/-- Attaches to the interfaces that are wanted now and detaches from those that are not wanted any
more. A scope without any attachment gives the first fault of attaching. A failed listing and one
without wanted interfaces leave all attachments alone. -/
def reconcile (b : TrafficBackend σ τ) (host : Traced σ) (scope : CountedScope τ) :
    Traced σ × CountedScope τ × Option TrafficFault :=
  match host.perform (.scopeLinks scope.spec.id) (b.links scope.table) with
  | (host, .error _) => (host, scope, none)
  | (host, .ok links) =>
    let desired := desiredInterfaces links
    let scope := { scope with names := linkNames links }
    if desired.isEmpty then (host, scope, none)
    else
      let (host, scope, fault) := desired.foldl (attachOne b) (host, scope, none)
      let stale := scope.attached.toList.filter fun name => !desired.contains name
      let (host, scope) := stale.foldl (detachOne b) (host, scope)
      (host, scope, if scope.attached.isEmpty then fault else none)

def readTally (b : TrafficBackend σ τ) (host : Traced σ) (scope : CountedScope τ) :
    Traced σ × Except TrafficFault Tally :=
  host.perform (.read scope.spec.id) (b.read scope.table)

def detachAll (b : TrafficBackend σ τ) (host : Traced σ) (scope : CountedScope τ) :
    Traced σ × CountedScope τ :=
  scope.attached.toList.foldl (detachOne b) (host, scope)

end CountedScope

namespace Sampling

variable {σ τ : Type}

def attachedTotal (scopes : List (CountedScope τ)) : Nat := scopes.foldl (fun total s => total + s.attached.size) 0

/-- Loads scopes one after the other, with a first reading of each. Gives the scopes that have to be
closed in the end, the first fault of attaching, and the fault that ended the loading. -/
def loadScopes (b : TrafficBackend σ τ) : Traced σ → List (CountedScope τ) → Option TrafficFault →
    List TrafficScope → Traced σ × List (CountedScope τ) × Option TrafficFault × Option TrafficFault
  | host, loaded, first, [] => (host, loaded, first, none)
  | host, loaded, first, spec :: rest =>
    match host.performNoting
        (fun (result : Except TrafficFault τ) => .load spec.id result.toOption.isSome) (b.load spec) with
    | (host, .error e) => (host, loaded, first, some e)
    | (host, .ok table) =>
      let (host, scope, fault) := CountedScope.reconcile b host (.fresh spec table)
      let first := first.or fault
      match scope.readTally b host with
      | (host, .error e) => (host, loaded ++ [scope], first, some e)
      | (host, .ok baseline) =>
        loadScopes b host (loaded ++ [{ scope with previous := baseline }]) first rest

/-- Scopes in the order in which they are loaded. -/
def inOrder (specs : List TrafficScope) : List TrafficScope := specs.mergeSort fun a b => a.id ≤ b.id

/-- Prepares counting and loads every scope. The scopes that are loaded have to be closed, also when
there is a fault. -/
def load (b : TrafficBackend σ τ) (host : Traced σ) (containers : List Container) :
    Traced σ × List (CountedScope τ) × Option TrafficFault :=
  match host.perform .prepare b.prepare with
  | (host, .error e) => (host, [], some e)
  | (host, .ok ()) =>
    match host.perform (.discover containers.length) (b.discover containers) with
    | (host, .error e) => (host, [], some e)
    | (host, .ok specs) =>
      match loadScopes b host [] none (inOrder specs) with
      | (host, scopes, _, some e) => (host, scopes, some e)
      | (host, scopes, first, none) =>
        if scopes.isEmpty then (host, scopes, some .noScopes)
        else if attachedTotal scopes = 0 then (host, scopes, first)
        else (host, scopes, none)

def trafficEvent (now : Instant) (action actor : String) (attrs : List (String × String)) : Event :=
  ((Event.make now .traffic action).withActor "" actor "").withAttributes attrs

def sampleEvent (now : Instant) (window : String) (attached globalRows interfaceRows scopes : Nat) :
    Event :=
  trafficEvent now "sample" "tc-ebpf-map"
    [("window", window), ("interfaces", toString attached), ("global_rows", toString globalRows),
     ("iface_rows", toString interfaceRows), ("scopes", toString scopes)]

def globalEvent (now : Instant) (window protocol : String) (v : Volume) : Event :=
  trafficEvent now "global" protocol
    [("scope", "global"), ("protocol", protocol), ("packets", toString v.packets),
     ("bytes", toString v.bytes), ("window", window)]

def interfaceEvent (now : Instant) (window : String) (place : InterfaceProtocol) (v : Volume) : Event :=
  trafficEvent now "interface" place.interface
    [("scope", "interface"), ("interface", place.interface), ("protocol", place.protocol),
     ("packets", toString v.packets), ("bytes", toString v.bytes), ("window", window)]

structure Progress where
  sums : TrafficSums
  fault : Option TrafficFault

/-- Goes through the scopes of a tick; a reading that fails ends the tick. -/
def visit (b : TrafficBackend σ τ) (services : ServiceNames) : Traced σ → Progress →
    List (CountedScope τ) → List (CountedScope τ) →
    Traced σ × List (CountedScope τ) × Except TrafficFault Progress
  | host, p, seen, [] => (host, seen, .ok p)
  | host, p, seen, scope :: rest =>
    let (host, scope, fault) := scope.reconcile b host
    let p := { p with fault := p.fault.or fault }
    match scope.readTally b host with
    | (host, .error e) => (host, seen ++ scope :: rest, .error e)
    | (host, .ok current) =>
      let growth := scope.previous.growth current
      let scope := { scope with previous := current }
      let sums :=
        if growth.isEmpty then p.sums
        else p.sums.addScope scope.spec.qualifier scope.names growth services
      visit b services host { p with sums } (seen ++ [scope]) rest

/-- The events of sums that are not empty: one on the sample, then those by protocol, then those by
interface. -/
def events (now : Instant) (window : String) (scopes : List (CountedScope τ)) (sums : TrafficSums) :
    List Event :=
  let globalRows := sums.globalRows
  let interfaceRows := sums.interfaceRows
  sampleEvent now window (attachedTotal scopes) globalRows.length interfaceRows.length scopes.length ::
    (globalRows.map (fun (protocol, v) => globalEvent now window protocol v) ++
      interfaceRows.map (fun (place, v) => interfaceEvent now window place v))

/-- One tick: the scopes after it, and its events or the fault that ends the sampling. -/
def tick (b : TrafficBackend σ τ) (services : ServiceNames) (window : String) (now : Instant)
    (host : Traced σ) (scopes : List (CountedScope τ)) :
    Traced σ × List (CountedScope τ) × Except TrafficFault (List Event) :=
  match visit b services host ⟨.empty, none⟩ [] scopes with
  | (host, scopes, .error e) => (host, scopes, .error e)
  | (host, scopes, .ok p) =>
    match p.fault with
    | some e => if attachedTotal scopes = 0 then (host, scopes, .error e) else finish host scopes p.sums
    | none => finish host scopes p.sums
where
  finish (host : Traced σ) (scopes : List (CountedScope τ)) (sums : TrafficSums) :
      Traced σ × List (CountedScope τ) × Except TrafficFault (List Event) :=
    (host, scopes, .ok (if sums.isEmpty then [] else events now window scopes sums))

end Sampling

/-- The closing of scopes one after the other. A scope that is detached is closed at a time. -/
structure Teardown (τ : Type) where
  scopes : List (CountedScope τ)
  closeAt : Option Nat

namespace Teardown

variable {σ τ : Type}

def ofScopes (scopes : List (CountedScope τ)) : Teardown τ := ⟨scopes, none⟩

/-- One step: the teardown that is left, none after the last call; or nothing, while it has to wait. -/
def step (b : TrafficBackend σ τ) (now : Nat) (host : Traced σ) (t : Teardown τ) :
    Option (Traced σ × Option (Teardown τ)) :=
  match t.scopes with
  | [] => some ((host.perform .finish fun world => (b.finish world, ())).1, none)
  | scope :: rest =>
    match t.closeAt with
    | none =>
      let (host, scope) := scope.detachAll b host
      let delay := b.closeDelay scope.table host.world
      some (host, some ⟨scope :: rest, some (now + delay.nanos)⟩)
    | some time =>
      if now < time then none
      else
        let (host, _) := host.perform (.close scope.spec.id) fun world => (b.close scope.table world, ())
        some (host, some ⟨rest, none⟩)

end Teardown

end LabStream
