import LabStream.LinkEvent
import LabStream.LinkTable
import LabStream.Surroundings
import LabStream.Ticker
import LabStream.Token

namespace LabStream

structure WatchOptions where
  labLabel : String
  initialState : Bool
  statsInterval : Option Span
  deriving DecidableEq

inductive LinkReport where
  | snapshot (s : Snapshot)
  | change (action : LinkAction) (s : Snapshot)
  | metrics (s : Snapshot) (m : LinkMetrics)

def LinkReport.event (c : Container) (labLabel : String) (now : Instant) : LinkReport → Event
  | snapshot s => linkEvent c labLabel "snapshot" s now
  | change action s => linkEvent c labLabel action.word s now
  | metrics s m => metricsEvent c labLabel s m now

/-- What a watcher does next. Times are in nanoseconds of the clock. -/
inductive WatchPhase where
  /-- Asks for the path of the namespace at a time, having asked `attempts` times in vain. -/
  | resolving (attempts : Nat) (fault : Option RuntimeFault) (wakeAt : Nat)
  | opening (path : String)
  | surveying
  /-- Sends an event; `rest` comes after it, and then the watch begins or goes on. -/
  | sending (event : Event) (rest : List LinkReport) (begins : Bool)
  | watching
  /-- Has let go of the namespace and leaves the roster. -/
  | leaving
  | done

structure Watcher where
  number : Nat
  key : String
  container : Container
  token : Token
  phase : WatchPhase
  /-- The open namespace. -/
  links : Option (Nat × String)
  table : LinkTable
  readings : LinkReadings
  ticker : Option Ticker

namespace Watcher

def maxAttempts : Nat := 5

def retryDelay : Span := .ofMillis 200

def fresh (number : Nat) (key : String) (c : Container) (token : Token) (now : Nat) : Watcher :=
  ⟨number, key, c, token, .resolving 0 none now, none, ∅, ∅, none⟩

/-- What follows an attempt to find the namespace: its path, another attempt, or the end with the
last fault. An empty path is no path, but no fault either. -/
def afterAttempt (id : String) (attempts : Nat) (last : Option RuntimeFault) (now : Nat)
    (answer : Except RuntimeFault String) : Except RuntimeFault WatchPhase :=
  let retry := fun (fault : Option RuntimeFault) =>
    if attempts + 1 < maxAttempts then
      .ok (.resolving (attempts + 1) fault (now + retryDelay.nanos))
    else .error (fault.getD (.notReady id))
  match answer with
  | .ok path => if path.isEmpty then retry last else .ok (.opening path)
  | .error fault => retry (some fault)

def survey (w : Watcher) (inventory : List Link) (now : Nat) : Watcher :=
  { w with
    table := LinkTable.seed (inventory.map (·.snapshot))
    readings := inventory.foldl
      (fun (readings : LinkReadings) link => readings.rebase link.snapshot.index link.counters now) ∅ }

def learn (w : Watcher) (update : LinkUpdate) (now : Nat) : Watcher × List LinkReport :=
  let readings : LinkReadings := match update with
    | .removed link => w.readings.erase link.snapshot.index
    | .upsert link => w.readings.rebase link.snapshot.index link.counters now
  let (table, change) := w.table.apply update
  ({ w with table, readings }, (change.map fun (action, s) => LinkReport.change action s).toList)

def readLink (table : LinkTable) (now : Nat) (state : LinkReadings × List LinkReport) (link : Link) :
    LinkReadings × List LinkReport :=
  let index := link.snapshot.index
  if !table.contains index then state
  else match link.counters with
    | none => (state.1.erase index, state.2)
    | some counters =>
      let (readings, metrics) := state.1.observe index counters now
      (readings, state.2 ++ (metrics.map (LinkReport.metrics link.snapshot)).toList)

def readAll (w : Watcher) (links : List Link) (now : Nat) : Watcher × List LinkReport :=
  let (readings, reports) := links.foldl (readLink w.table now) (w.readings, [])
  ({ w with readings }, reports)

def beginWatch (w : Watcher) (options : WatchOptions) (now : Nat) : Watcher :=
  { w with
    phase := .watching
    ticker := options.statsInterval.map fun d => .after d.statsInterval now }

/-- Goes on to the first of some reports, or to watching when there is none. -/
def report (w : Watcher) (options : WatchOptions) (reports : List LinkReport) (begins : Bool)
    (now : Nat) (instant : Instant) : Watcher :=
  match reports with
  | [] => if begins then w.beginWatch options now else { w with phase := .watching }
  | r :: rest => { w with phase := .sending (r.event w.container options.labLabel instant) rest begins }

end Watcher

end LabStream
