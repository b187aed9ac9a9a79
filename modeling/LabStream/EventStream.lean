import LabStream.Announcer
import LabStream.Forwarder
import LabStream.Sampler
import LabStream.Settings
import LabStream.StreamFault

namespace LabStream

/-- What a stream runs with. Without a backend no traffic can be counted. -/
structure StreamSetup (σ τ : Type) where
  options : StreamOptions
  runtime : ContainerRuntime σ
  monitor : LinkMonitor σ
  backend : Option (TrafficBackend σ τ)
  services : ServiceNames
  writer : EventWriter σ

inductive StreamPhase (τ : Type) where
  /-- Waits for the listing of the containers. -/
  | listing (answerAt : Nat)
  /-- Closes what was loaded before counting failed. -/
  | unloading (teardown : Teardown τ) (fault : TrafficFault)
  | running
  /-- Waits for the end of watchers. -/
  | dismissing (numbers : List Nat)
  /-- Waits for the end of the sampler, but not for ever. -/
  | closing (deadline : Nat)
  | ended (result : Except StreamFault Unit)

structure EventStream (σ τ : Type) where
  crew : Crew σ
  announcer : Announcer
  /-- The task that passes runtime events on, while its end is awaited. -/
  forwarder : Option Forwarder
  /-- The task that samples traffic. -/
  sampler : Option (Sampler τ)
  /-- Whether the sampler's end has been seen. -/
  samplerSeen : Bool
  phase : StreamPhase τ

namespace StreamSetup

variable {σ τ : Type}

def fault? (setup : StreamSetup σ τ) : Option StreamFault :=
  if (LineFormat.ofName? setup.options.format).isNone then
    some (.unsupportedFormat setup.options.format)
  else if lowerAscii setup.runtime.name ≠ lowerAscii setup.options.runtime then
    some (.runtimeNotInitialized setup.options.runtime)
  else if setup.options.traffic ∧ setup.backend.isNone then some .noBackend
  else if twoTo 61 ≤ setup.options.capacity then some .channelTooLarge
  else none

def format (setup : StreamSetup σ τ) : LineFormat :=
  (LineFormat.ofName? setup.options.format).getD .plain

def watchOptions (setup : StreamSetup σ τ) : WatchOptions :=
  ⟨setup.options.labLabel, setup.options.initialState,
    if setup.options.interfaceStats then some setup.options.statsInterval else none⟩

def filter (setup : StreamSetup σ τ) : ContainerFilter := .labelled setup.options.labLabel

end StreamSetup

namespace EventStream

variable {σ τ : Type}

def closingGrace : Span := .ofSeconds 5

def fresh (setup : StreamSetup σ τ) (host : Traced σ) (origin : Int) (cancelled : Cancellations) :
    EventStream σ τ where
  crew :=
    { host, now := 0, origin, cancelled
      channel := .ofCapacity (max setup.options.capacity 1)
      token := [0]
      roster := .empty
      watchers := []
      options := setup.watchOptions }
  announcer := .finished
  forwarder := none
  sampler := none
  samplerSeen := false
  phase := .listing 0

/-- Ends the stream: all of its tasks are cancelled and nothing is received any more. -/
def finish (s : EventStream σ τ) (result : Except StreamFault Unit) : EventStream σ τ :=
  { s with
    crew.cancelled := s.crew.cancelled.cancel s.crew.token
    crew.channel := s.crew.channel.close
    phase := .ended result }

/-- A stream that has asked for its containers, if there is nothing against it. -/
def start (setup : StreamSetup σ τ) (host : Traced σ) (origin : Int) (cancelled : Cancellations) :
    EventStream σ τ :=
  let s := fresh setup host origin cancelled
  match setup.fault? with
  | some fault => s.finish (.error fault)
  | none =>
    let (host, delay) := host.perform (.list setup.filter) (setup.runtime.askList setup.filter)
    { s with crew.host := host, phase := .listing delay.nanos }

def startWatchers (crew : Crew σ) (containers : List Container) : Crew σ :=
  (containers.filter (·.isRunning)).foldl (fun crew c => (crew.start c).1) crew

/-- Loads the counters and begins to sample them, if traffic is asked for. -/
def startSampler (setup : StreamSetup σ τ) (containers : List Container) (s : EventStream σ τ) : EventStream σ τ :=
  match setup.options.traffic, setup.backend with
  | true, some b =>
    match Sampling.load b s.crew.host containers with
    | (host, scopes, some fault) =>
      { s with crew.host := host, phase := .unloading (.ofScopes scopes) fault }
    | (host, scopes, none) =>
      let interval := setup.options.trafficInterval.samplingInterval
      { s with
        crew.host := host
        sampler := some (.start interval setup.services scopes s.crew.now)
        phase := .running }
  | _, _ => { s with phase := .running }

/-- Goes on with the containers that were listed: watches the running ones, subscribes to what is to
come and starts all other tasks. -/
def launch (setup : StreamSetup σ τ) (containers : List Container) (s : EventStream σ τ) : EventStream σ τ :=
  let announcer : Announcer :=
    if setup.options.initialState then .ofContainers containers else .finished
  let s := { s with announcer, crew := startWatchers s.crew containers }
  let label := setup.options.labLabel
  let (host, subscribed) := s.crew.host.perform (.events label) (setup.runtime.subscribe label)
  let s := { s with crew.host := host }
  match subscribed with
  | .error fault => s.finish (.error (.runtime fault))
  | .ok () => startSampler setup containers { s with forwarder := some .waiting }

def receive (setup : StreamSetup σ τ) (s : EventStream σ τ) : Option (EventStream σ τ) :=
  s.crew.channel.receive.map fun (event, channel) =>
    let (host, _) := s.crew.host.observe fun world => (setup.writer.put setup.format event world, ())
    { s with crew.channel := channel, crew.host := host }

/-- Takes note of the end of a task; a fault of one ends the stream. -/
def join (s : EventStream σ τ) : Option (EventStream σ τ) :=
  match s.forwarder with
  | some (.done (.error fault)) => some (s.finish (.error (.runtime fault)))
  | some (.done (.ok ())) => some { s with forwarder := none }
  | _ =>
    match s.sampler with
    | none => none
    | some sampler =>
      if s.samplerSeen || !sampler.isDone then none
      else match sampler.fault with
        | some fault => some ({ s with samplerSeen := true }.finish (.error (.traffic fault)))
        | none => some { s with samplerSeen := true }

def isSampling (s : EventStream σ τ) : Bool :=
  match s.sampler with
  | some sampler => !sampler.isDone
  | none => false

/-- One step of the stream itself; none when it has to wait. -/
def stepMain (setup : StreamSetup σ τ) (s : EventStream σ τ) : Option (EventStream σ τ) :=
  match s.phase with
  | .ended _ => none
  | .listing answerAt =>
    if !s.crew.reaches answerAt then none
    else
      let (host, listed) := s.crew.host.observe (setup.runtime.answerList setup.filter)
      let s := { s with crew.host := host }
      match listed with
      | .error fault => some (s.finish (.error (.runtime fault)))
      | .ok containers => some (launch setup containers s)
  | .unloading teardown fault =>
    match setup.backend with
    | none => some (s.finish (.error (.traffic fault)))
    | some b =>
      match teardown.step b s.crew.now s.crew.host with
      | none => none
      | some (host, some teardown) =>
        some { s with crew.host := host, phase := .unloading teardown fault }
      | some (host, none) => some ({ s with crew.host := host }.finish (.error (.traffic fault)))
  | .running =>
    if s.crew.isCancelled s.crew.token then
      let (crew, numbers) := s.crew.dismissAll
      some { s with crew, phase := .dismissing numbers }
    else (receive setup s).or s.join
  | .dismissing numbers =>
    if numbers.all s.crew.isDone then
      some { s with phase := .closing (s.crew.now + closingGrace.nanos) }
    else none
  | .closing deadline =>
    if !s.isSampling || s.crew.reaches deadline then some (s.finish (.ok ())) else none

def stepForwarder (setup : StreamSetup σ τ) (s : EventStream σ τ) : Option (EventStream σ τ) := do
  let (crew, forwarder) ← (← s.forwarder).step setup.runtime s.crew
  return { s with crew, forwarder := some forwarder }

def stepAnnouncer (s : EventStream σ τ) : Option (EventStream σ τ) := do
  let (hub, announcer) ← s.announcer.step s.crew.toHub
  return { s with crew.toHub := hub, announcer }

def stepSampler (setup : StreamSetup σ τ) (s : EventStream σ τ) : Option (EventStream σ τ) := do
  let (hub, sampler) ← (← s.sampler).step (← setup.backend) s.crew.toHub
  return { s with crew.toHub := hub, sampler := some sampler }

def stepWatchers (setup : StreamSetup σ τ) (s : EventStream σ τ) : Option (EventStream σ τ) := do
  return { s with crew := ← s.crew.step setup.runtime setup.monitor }

/-- One step of the first task that can make one. The stream itself comes last, so that all that can
be sent is sent before it is received. -/
def step (setup : StreamSetup σ τ) (s : EventStream σ τ) : Option (EventStream σ τ) :=
  s.stepAnnouncer.or <| (s.stepWatchers setup).or <| (s.stepForwarder setup).or <|
    (s.stepSampler setup).or (s.stepMain setup)

def wakeTimes (s : EventStream σ τ) : List Nat :=
  s.crew.wakeTimes ++ (s.forwarder.bind Forwarder.wakeTime).toList ++
    (s.sampler.bind Sampler.wakeTime).toList ++
    match s.phase with
    | .listing answerAt => [answerAt]
    | .unloading teardown _ => teardown.closeAt.toList
    | .closing deadline => [deadline]
    | _ => []

def setNow (s : EventStream σ τ) (now : Nat) : EventStream σ τ := { s with crew.now := now }

def cancel (s : EventStream σ τ) : EventStream σ τ := { s with crew.cancelled := s.crew.cancelled.cancel [] }

def result? (s : EventStream σ τ) : Option (Except StreamFault Unit) :=
  match s.phase with
  | .ended result => some result
  | _ => none

end EventStream

end LabStream
