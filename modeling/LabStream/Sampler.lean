import LabStream.Hub
import LabStream.Sampling
import LabStream.Ticker

namespace LabStream

inductive SamplerPhase (τ : Type) where
  | waiting
  | sending (events : List Event)
  | closing (teardown : Teardown τ)
  | done

/-- The task that samples the counters of all scopes again and again. -/
structure Sampler (τ : Type) where
  interval : Span
  services : ServiceNames
  scopes : List (CountedScope τ)
  ticker : Ticker
  phase : SamplerPhase τ
  /-- The fault that has ended the sampling. -/
  fault : Option TrafficFault

namespace Sampler

variable {σ τ : Type}

/-- A sampler whose first tick comes one interval after `now`. -/
def start (interval : Span) (services : ServiceNames) (scopes : List (CountedScope τ)) (now : Nat) :
    Sampler τ :=
  ⟨interval, services, scopes, .after interval now, .waiting, none⟩

def isDone (s : Sampler τ) : Bool :=
  match s.phase with
  | .done => true
  | _ => false

def stop (s : Sampler τ) (fault : Option TrafficFault) : Sampler τ :=
  { s with phase := .closing (.ofScopes s.scopes), scopes := [], fault }

/-- One step; none when it has to wait or is done. -/
def step (b : TrafficBackend σ τ) (hub : Hub σ) (s : Sampler τ) : Option (Hub σ × Sampler τ) :=
  match s.phase with
  | .done => none
  | .waiting =>
    if hub.isCancelled hub.token then some (hub, s.stop none)
    else if !hub.reaches s.ticker.due then none
    else
      let s := { s with ticker := s.ticker.fire hub.now }
      match Sampling.tick b s.services s.interval.windowText hub.instant hub.host s.scopes with
      | (host, scopes, .error e) => some ({ hub with host }, ({ s with scopes }).stop (some e))
      | (host, scopes, .ok events) =>
        some ({ hub with host }, { s with scopes, phase := .sending events })
  | .sending [] => some (hub, { s with phase := .waiting })
  | .sending (event :: rest) =>
    match hub.offer .sampler hub.token event with
    | none => none
    | some (hub, .blocked) => some (hub, s)
    | some (hub, .refused) => some (hub, s.stop none)
    | some (hub, .sent) => some (hub, { s with phase := .sending rest })
  | .closing t =>
    match t.step b hub.now hub.host with
    | none => none
    | some (host, some t) => some ({ hub with host }, { s with phase := .closing t })
    | some (host, none) => some ({ hub with host }, { s with phase := .done })

def wakeTime (s : Sampler τ) : Option Nat :=
  match s.phase with
  | .waiting => some s.ticker.due
  | .closing t => t.closeAt
  | _ => none

end Sampler

end LabStream
