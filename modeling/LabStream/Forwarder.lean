import LabStream.Crew
import LabStream.Enrichment

namespace LabStream

inductive Forwarder where
  | waiting
  /-- Waits for the end of a watcher that an event has dismissed. -/
  | dismissing (number : Nat) (e : RuntimeEvent)
  /-- Waits for a listing to fill the gaps of an event. -/
  | asking (e : RuntimeEvent) (filter : ContainerFilter) (answerAt : Nat)
  | sending (event : Event)
  | done (result : Except RuntimeFault Unit)

namespace Forwarder

variable {σ : Type}

/-- Asks for what an event lacks, if it is about a container that can be asked for. -/
def enrich (runtime : ContainerRuntime σ) (crew : Crew σ) (e : RuntimeEvent) : Crew σ × Forwarder :=
  match if e.isContainer then Enrichment.filter? e.attributes e.fullId e.name else none with
  | none => (crew, .sending (e.toEvent e.attributes crew.instant))
  | some filter =>
    let (host, delay) := crew.host.perform (.list filter) (runtime.askList filter)
    ({ crew with host }, .asking e filter (crew.now + delay.nanos))

def meet (runtime : ContainerRuntime σ) (crew : Crew σ) (e : RuntimeEvent) : Crew σ × Forwarder :=
  match crew.obey e with
  | (crew, some number) => (crew, .dismissing number e)
  | (crew, none) => enrich runtime crew e

/-- One step; none when it has to wait. -/
def step (runtime : ContainerRuntime σ) (crew : Crew σ) : Forwarder → Option (Crew σ × Forwarder)
  | waiting =>
    if crew.isCancelled crew.token then some (crew, done (.ok ()))
    else
      let (host, poll) := crew.host.observe runtime.nextEvent
      let crew := { crew with host }
      match poll with
      | .pending => none
      | .ended => some (crew, done (.ok ()))
      | .failed fault => some (crew, done (.error fault))
      | .event e => some (meet runtime crew e)
  | dismissing number e => if crew.isDone number then some (enrich runtime crew e) else none
  | asking e filter answerAt =>
    if !crew.reaches answerAt then none
    else
      let (host, found) := crew.host.observe (runtime.answerList filter)
      let attrs := Enrichment.fill e.attributes e.fullId e.name found
      some ({ crew with host }, sending (e.toEvent attrs crew.instant))
  | sending event =>
    match crew.offer .forwarder crew.token event with
    | none => none
    | some (hub, .blocked) => some ({ crew with toHub := hub }, sending event)
    | some (hub, .refused) => some ({ crew with toHub := hub }, done (.ok ()))
    | some (hub, .sent) => some ({ crew with toHub := hub }, waiting)
  | done _ => none

def wakeTime : Forwarder → Option Nat
  | asking _ _ answerAt => some answerAt
  | _ => none

end Forwarder

end LabStream
