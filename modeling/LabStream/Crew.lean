import LabStream.Hub
import LabStream.Roster
import LabStream.Watcher

namespace LabStream

/-- The watchers at work on a hub, with the roster of those in charge. -/
structure Crew (σ : Type) extends Hub σ where
  roster : Roster
  watchers : List Watcher
  options : WatchOptions

namespace Crew

variable {σ : Type}

def watcherToken (crew : Crew σ) (number : Nat) : Token := crew.token ++ [number]

def watcher? (crew : Crew σ) (number : Nat) : Option Watcher :=
  crew.watchers.find? (·.number = number)

def setWatcher (crew : Crew σ) (w : Watcher) : Crew σ :=
  { crew with watchers := crew.watchers.map fun v => if v.number = w.number then w else v }

def isDone (crew : Crew σ) (number : Nat) : Bool :=
  match crew.watcher? number with
  | some w => match w.phase with
    | .done => true
    | _ => false
  | none => true

/-- Starts a watcher for a container unless it has one. -/
def start (crew : Crew σ) (c : Container) : Crew σ × Bool :=
  match crew.roster.enter c.identity with
  | (roster, none) => ({ crew with roster }, false)
  | (roster, some number) =>
    let w := Watcher.fresh number c.identity c (crew.watcherToken number) crew.now
    ({ crew with roster, watchers := crew.watchers ++ [w] }, true)

/-- Takes the watcher of a container out of the roster and cancels it; its number is given back, for
its end to be awaited. -/
def dismiss (crew : Crew σ) (key : String) : Crew σ × Option Nat :=
  match crew.roster.take key with
  | (roster, none) => ({ crew with roster }, none)
  | (roster, some number) =>
    ({ crew with roster, cancelled := crew.cancelled.cancel (crew.watcherToken number) }, some number)

def dismissAll (crew : Crew σ) : Crew σ × List Nat :=
  let (roster, numbers) := crew.roster.drain
  ({ crew with
      roster
      cancelled := numbers.foldl (fun (cancelled : Cancellations) number =>
        cancelled.cancel (crew.watcherToken number)) crew.cancelled }, numbers)

inductive Order where
  | begin (c : Container)
  | stop (key : String)

/-- The order in an event of a container's life, if it has one. -/
def orderOf (labLabel : String) (e : RuntimeEvent) : Option Order :=
  if !e.isContainer then none
  else
    let action := lowerText e.action
    if action = "start" ∨ action = "unpause" ∨ action = "restart" then
      (e.container? labLabel).map .begin
    else if action = "die" ∨ action = "stop" ∨ action = "destroy" ∨ action = "kill" then
      some (.stop e.fullId)
    else none

/-- Follows an event of a container's life. The number of a watcher that has to end is given back. -/
def obey (crew : Crew σ) (e : RuntimeEvent) : Crew σ × Option Nat :=
  match orderOf crew.options.labLabel e with
  | none => (crew, none)
  | some (.begin c) => ((crew.start c).1, none)
  | some (.stop key) => crew.dismiss key

def endWatch (monitor : LinkMonitor σ) (crew : Crew σ) (w : Watcher) : Crew σ :=
  let host := match w.links with
    | some (handle, path) =>
      (crew.host.perform (.closeLinks path) fun world => (monitor.release handle path world, ())).1
    | none => crew.host
  ({ crew with host }).setWatcher { w with phase := .leaving, links := none }

/-- The listing of a watcher's open namespace; none when it has none. -/
def listLinks (monitor : LinkMonitor σ) (crew : Crew σ) (w : Watcher) :
    Crew σ × Except WatchFault (List Link) :=
  match w.links with
  | some (handle, path) =>
    let (host, links) := crew.host.perform (.listLinks path) (monitor.list handle path)
    ({ crew with host }, links)
  | none => (crew, .ok [])

def proceed (crew : Crew σ) (w : Watcher) (reports : List LinkReport) (begins : Bool) : Crew σ :=
  crew.setWatcher (w.report crew.options reports begins crew.now crew.instant)

/-- Takes a tick or an update, whichever is there. -/
def watch (monitor : LinkMonitor σ) (crew : Crew σ) (w : Watcher) : Option (Crew σ) :=
  let due := match w.ticker with
    | some t => crew.reaches t.due
    | none => false
  if due then
    let w := { w with ticker := w.ticker.map (·.fire crew.now) }
    match crew.listLinks monitor w with
    | (crew, .error _) => some (crew.setWatcher w)
    | (crew, .ok links) =>
      let (w, reports) := w.readAll links crew.now
      some (crew.proceed w reports false)
  else match w.links with
    | none => none
    | some (handle, path) =>
      let (host, poll) := crew.host.observe (monitor.nextUpdate handle path)
      let crew := { crew with host }
      match poll with
      | .pending => none
      | .closed => some (crew.endWatch monitor w)
      | .update update =>
        let (w, reports) := w.learn update crew.now
        some (crew.proceed w reports false)

/-- One step of a watcher; none when it has to wait. -/
def stepWatcher (runtime : ContainerRuntime σ) (monitor : LinkMonitor σ) (crew : Crew σ)
    (w : Watcher) : Option (Crew σ) :=
  match w.phase with
  | .done => none
  | .leaving =>
    some (({ crew with roster := crew.roster.release w.key w.number }).setWatcher
      { w with phase := .done })
  | .resolving attempts fault wakeAt =>
    if crew.isCancelled w.token then some (crew.endWatch monitor w)
    else if !crew.reaches wakeAt then none
    else
      let id := w.container.identity
      let (host, answer) := crew.host.perform (.namespacePath id) (runtime.namespacePath id)
      let crew := { crew with host }
      match Watcher.afterAttempt id attempts fault crew.now answer with
      | .ok phase => some (crew.setWatcher { w with phase })
      | .error _ => some (crew.endWatch monitor w)
  | .opening path =>
    if crew.isCancelled w.token then some (crew.endWatch monitor w)
    else
      match crew.host.perform (.openLinks path) (monitor.openAt path) with
      | (host, .error _) => some (({ crew with host }).endWatch monitor w)
      | (host, .ok handle) =>
        some (({ crew with host }).setWatcher { w with phase := .surveying, links := some (handle, path) })
  | .surveying =>
    let (crew, links) := crew.listLinks monitor w
    let inventory := match links with
      | .ok links => links
      | .error _ => []
    let w := w.survey inventory crew.now
    let reports := if crew.options.initialState then w.table.snapshots.map .snapshot else []
    some (crew.proceed w reports true)
  | .sending event rest begins =>
    match crew.offer (.watcher w.number) w.token event with
    | none => none
    | some (hub, .blocked) => some { crew with toHub := hub }
    | some (hub, .refused) => some (({ crew with toHub := hub }).endWatch monitor w)
    | some (hub, .sent) => some (({ crew with toHub := hub }).proceed w rest begins)
  | .watching =>
    if crew.isCancelled w.token then some (crew.endWatch monitor w) else crew.watch monitor w

def wakeTime (w : Watcher) : Option Nat :=
  match w.phase with
  | .resolving _ _ wakeAt => some wakeAt
  | .watching => w.ticker.map (·.due)
  | _ => none

/-- One step of the first watcher that can make one. -/
def step (runtime : ContainerRuntime σ) (monitor : LinkMonitor σ) (crew : Crew σ) : Option (Crew σ) :=
  crew.watchers.findSome? (crew.stepWatcher runtime monitor)

def wakeTimes (crew : Crew σ) : List Nat := crew.watchers.filterMap wakeTime

end Crew

end LabStream
