import LabStream.Proofs.Charges

namespace LabStream

variable {σ τ : Type}

namespace RuntimeEvent

/-- The record of a message but for its time. -/
def undatedRecord (e : RuntimeEvent) (attributes : Attributes) : Event :=
  (e.toEvent attributes (.ofNanos 0)).undated

end RuntimeEvent

namespace Announcer

def outline (a : Announcer) : Announcer := { a with event := a.event.map Event.undated }

/-- The announcer after a turn in which it does not have to wait. -/
def after (isCancelled : Bool) (a : Announcer) : Announcer :=
  match a.event, a.containers with
  | some _, _ => if isCancelled then finished else { a with event := none }
  | none, [] => a
  | none, c :: rest =>
    ⟨rest, if c.showsSnapshot (.ofNanos 0) then some (c.snapshotEvent (.ofNanos 0)) else none⟩

end Announcer

/-- What the forwarder sees in a turn. -/
inductive ForwarderSight where
  | nothing
  | feed (poll : FeedPoll)
  | found (answer : Except RuntimeFault (List Container))

namespace Forwarder

/-- A forwarder that passes on an event, but for the times of its records. -/
def passing (e : RuntimeEvent) : Forwarder :=
  match if e.isContainer then Enrichment.filter? e.attributes e.fullId e.name else none with
  | none => .sending (e.undatedRecord e.attributes)
  | some filter => .asking e filter 0

/-- A forwarder but for the times of its records, and for the watcher whose end it waits for. -/
def outline : Forwarder → Forwarder
  | waiting => waiting
  | dismissing _ e => passing e
  | asking e filter _ => asking e filter 0
  | sending event => sending event.undated
  | done result => done result

/-- The forwarder after a turn in which it does not have to wait. -/
def after (isCancelled : Bool) (sight : ForwarderSight) : Forwarder → Forwarder
  | waiting => match sight with
    | .feed .pending => waiting
    | .feed (.failed fault) => done (.error fault)
    | .feed (.event e) => passing e
    | .feed .ended | .nothing | .found _ => done (.ok ())
  | asking e filter answerAt => match sight with
    | .found answer => sending (e.undatedRecord (Enrichment.fill e.attributes e.fullId e.name answer))
    | .nothing | .feed _ => asking e filter answerAt
  | sending _ => if isCancelled then done (.ok ()) else waiting
  | dismissing number e => dismissing number e
  | done result => done result

/-- The events that a forwarder sends in its turn. -/
def said : Forwarder → List Event
  | sending event => [event]
  | waiting | dismissing .. | asking .. | done _ => []

def result? : Forwarder → Option (Except RuntimeFault Unit)
  | done result => some result
  | waiting | dismissing .. | asking .. | sending _ => none

theorem outline_result? (f : Forwarder) : f.outline.result? = f.result? := by
  cases f with
  | dismissing number e =>
    rw [outline, passing]
    split <;> rfl
  | waiting | asking | sending | done => rfl

theorem outline_enrich (runtime : ContainerRuntime σ) (crew : Crew σ) (e : RuntimeEvent) :
    (enrich runtime crew e).2.outline = passing e := by
  unfold enrich passing
  cases if e.isContainer then Enrichment.filter? e.attributes e.fullId e.name else none <;> rfl

theorem outline_meet (runtime : ContainerRuntime σ) (crew : Crew σ) (e : RuntimeEvent) :
    (meet runtime crew e).2.outline = passing e := by
  unfold meet
  split
  · rfl
  · exact outline_enrich _ _ _

end Forwarder

/-- What the sampler sees in a turn: what counting makes of its scopes, or whether it has closed them all. -/
inductive SamplerSight (τ : Type) where
  | nothing
  | counted (answer : List (CountedScope τ) → List (CountedScope τ) × Except TrafficFault (List Event))
  | closed (all : Bool)

namespace Sampler

/-- A sampler but for the times of its ticks and records, and for what is left to close. -/
def outline (s : Sampler τ) : Sampler τ :=
  { s with
    ticker := ⟨0, 0⟩
    phase := match s.phase with
      | .sending events => .sending (events.map Event.undated)
      | .closing _ => .closing ⟨[], none⟩
      | phase => phase }

/-- The sampler after a turn in which it does not have to wait. -/
def after (isCancelled : Bool) (sight : SamplerSight τ) (s : Sampler τ) : Sampler τ :=
  match s.phase with
  | .waiting => match sight with
    | .counted answer => match answer s.scopes with
      | (scopes, .error e) => ({ s with scopes }.stop (some e)).outline
      | (scopes, .ok events) => { s with scopes, phase := .sending events }
    | .nothing | .closed _ => (s.stop none).outline
  | .sending [] => { s with phase := .waiting }
  | .sending (_ :: rest) => if isCancelled then (s.stop none).outline else { s with phase := .sending rest }
  | .closing _ => match sight with
    | .closed true => { s with phase := .done }
    | .closed false | .nothing | .counted _ => s
  | .done => s

/-- The events that a sampler sends in its turn. -/
def said (s : Sampler τ) : List Event :=
  match s.phase with
  | .sending (event :: _) => [event]
  | _ => []

theorem outline_said (s : Sampler τ) : s.outline.said = s.said.map Event.undated := by
  unfold said outline
  rcases s.phase with _ | (_ | _) | _ | _ <;> rfl

end Sampler

/-- What the stream itself sees in a turn that leads from phase to phase. -/
inductive MainSight (τ : Type) where
  | nothing
  | listed (answer : Except RuntimeFault (List Container)) (subscribed : Except RuntimeFault Unit)
    (loaded : List (CountedScope τ) × Option TrafficFault)
  | closed (all : Bool)

def StreamPhase.outline : StreamPhase τ → StreamPhase τ
  | listing _ => listing 0
  | unloading _ fault => unloading ⟨[], none⟩ fault
  | running => running
  | dismissing _ | closing _ => closing 0
  | ended result => ended result

/-- What one turn of a task gets to see. -/
inductive StreamSight (τ : Type) where
  | cancelled
  | announcer
  | watcher (key : String) (sight : WatchSight)
  | forwarder (sight : ForwarderSight)
  | sampler (sight : SamplerSight τ)
  | joiner
  | main (sight : MainSight τ)

/-- Who sends a record. All watchers of one container count as one. -/
inductive Source where
  | announcer
  | forwarder
  | sampler
  | watcher (key : String)
  deriving DecidableEq

/-- A stream as it can be told from outside, but for its hidden containers. -/
@[ext]
structure StreamView (τ : Type) where
  announcer : Announcer
  forwarder : Option Forwarder
  sampler : Option (Sampler τ)
  samplerSeen : Bool
  phase : StreamPhase τ
  isCancelled : Bool
  charges : Charges

def EventStream.view (hidden : String → Bool) (s : EventStream σ τ) : StreamView τ where
  announcer := s.announcer.outline
  forwarder := s.forwarder.map Forwarder.outline
  sampler := s.sampler.map Sampler.outline
  samplerSeen := s.samplerSeen
  phase := s.phase.outline
  isCancelled := s.crew.isCancelled s.crew.token
  charges := if s.crew.isCancelled s.crew.token then fun _ => none else s.crew.charges hidden

namespace StreamView

/-- A cancelled stream has nobody in charge any more. -/
def cancel (v : StreamView τ) : StreamView τ :=
  { v with
    isCancelled := true
    charges := fun _ => none }

def finish (v : StreamView τ) (result : Except StreamFault Unit) : StreamView τ :=
  { v.cancel with phase := .ended result }

def fresh (setup : StreamSetup σ τ) : StreamView τ :=
  let v : StreamView τ := ⟨.finished, none, none, false, .listing 0, false, fun _ => none⟩
  match setup.fault? with
  | some fault => v.finish (.error fault)
  | none => v

def startSampler (setup : StreamSetup σ τ) (loaded : List (CountedScope τ) × Option TrafficFault)
    (v : StreamView τ) : StreamView τ :=
  match setup.options.traffic, setup.backend, loaded with
  | true, some _, (_, some fault) => { v with phase := .unloading ⟨[], none⟩ fault }
  | true, some _, (scopes, none) =>
    { v with
      sampler := some (Sampler.start setup.options.trafficInterval.samplingInterval setup.services scopes 0).outline
      phase := .running }
  | _, _, _ => { v with phase := .running }

def launch (setup : StreamSetup σ τ) (hidden : String → Bool) (containers : List Container)
    (subscribed : Except RuntimeFault Unit) (loaded : List (CountedScope τ) × Option TrafficFault)
    (v : StreamView τ) : StreamView τ :=
  let v := { v with
    announcer := if setup.options.initialState then .ofContainers containers else .finished
    charges := if v.isCancelled then v.charges
      else (containers.filter Container.isRunning).foldl (Charges.enter hidden) v.charges }
  match subscribed with
  | .error fault => v.finish (.error (.runtime fault))
  | .ok () => startSampler setup loaded { v with forwarder := some .waiting }

def join (v : StreamView τ) : StreamView τ :=
  match v.forwarder.bind Forwarder.result?, v.sampler.bind (·.fault) with
  | some (.error fault), _ => v.finish (.error (.runtime fault))
  | some (.ok ()), _ => { v with forwarder := none }
  | none, some fault => { v with samplerSeen := true }.finish (.error (.traffic fault))
  | none, none => { v with samplerSeen := true }

/-- What becomes of a stream by what one of its tasks gets to see. -/
def after (setup : StreamSetup σ τ) (hidden : String → Bool) (v : StreamView τ) :
    StreamSight τ → StreamView τ
  | .cancelled => v.cancel
  | .announcer => { v with announcer := v.announcer.after v.isCancelled }
  | .watcher key sight => match v.charges key with
    | some w =>
      let left := if w.isLeaving then none else some (w.after setup.watchOptions sight)
      { v with charges := Function.update v.charges key left }
    | none => v
  | .forwarder sight =>
    let charges := match v.forwarder, sight with
      | some .waiting, .feed (.event e) =>
        if v.isCancelled then v.charges else v.charges.obey hidden setup.options.labLabel e
      | _, _ => v.charges
    { v with charges, forwarder := v.forwarder.map (·.after v.isCancelled sight) }
  | .sampler sight => { v with sampler := v.sampler.map (·.after v.isCancelled sight) }
  | .joiner => v.join
  | .main sight => match v.phase, sight with
    | .listing _, .listed (.error fault) _ _ => v.finish (.error (.runtime fault))
    | .listing _, .listed (.ok containers) subscribed loaded => v.launch setup hidden containers subscribed loaded
    | .unloading _ fault, .closed true => v.finish (.error (.traffic fault))
    | .running, _ => { v with phase := .closing 0 }
    | .closing _, _ => v.finish (.ok ())
    | _, _ => v

/-- What is sent in a turn. -/
def record (v : StreamView τ) : StreamSight τ → List (Source × Event)
  | .announcer => if v.isCancelled then [] else v.announcer.event.toList.map (.announcer, ·)
  | .watcher key _ => (v.charges key).toList.flatMap fun w => w.said.map (.watcher key, ·)
  | .forwarder _ => if v.isCancelled then [] else (v.forwarder.toList.flatMap (·.said)).map (.forwarder, ·)
  | .sampler _ => if v.isCancelled then [] else (v.sampler.toList.flatMap (·.said)).map (.sampler, ·)
  | .cancelled | .joiner | .main _ => []

/-- A stream after one more turn, with all records that have been sent. -/
def advance (setup : StreamSetup σ τ) (hidden : String → Bool) (state : StreamView τ × List (Source × Event))
    (sight : StreamSight τ) : StreamView τ × List (Source × Event) :=
  (state.1.after setup hidden sight, state.2 ++ state.1.record sight)

/-- A stream by what has been seen in its turns. -/
def replay (setup : StreamSetup σ τ) (hidden : String → Bool) (seen : List (StreamSight τ)) :
    StreamView τ × List (Source × Event) :=
  seen.foldl (advance setup hidden) (fresh setup, [])

theorem replay_append (setup : StreamSetup σ τ) (hidden : String → Bool) (seen : List (StreamSight τ))
    (sight : StreamSight τ) :
    replay setup hidden (seen ++ [sight]) = advance setup hidden (replay setup hidden seen) sight := by
  rw [replay, List.foldl_append]
  rfl

end StreamView

end LabStream
