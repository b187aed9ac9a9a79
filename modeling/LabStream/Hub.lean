import LabStream.Call
import LabStream.Channel
import LabStream.Event
import LabStream.Token

namespace LabStream

inductive Producer where
  | watcher (number : Nat)
  | forwarder
  | announcer
  | sampler
  deriving DecidableEq

/-- What all tasks of a stream share: the world around them, the clock, the cancelled tokens and the
channel of events. -/
structure Hub (σ : Type) where
  host : Traced σ
  /-- Nanoseconds since the start. -/
  now : Nat
  /-- The start of the clock, in nanoseconds since the epoch. -/
  origin : Int
  cancelled : Cancellations
  channel : Channel Event Producer
  /-- The token of the stream. -/
  token : Token

namespace Hub

variable {σ : Type}

def instant (hub : Hub σ) : Instant := .ofNanos (hub.origin + hub.now)

def isCancelled (hub : Hub σ) (token : Token) : Bool := hub.cancelled.covers token

def cancel (hub : Hub σ) (token : Token) : Hub σ :=
  { hub with cancelled := hub.cancelled.cancel token }

def send (hub : Hub σ) (p : Producer) (token : Token) (event : Event) : Hub σ × SendPoll :=
  let (channel, poll) := hub.channel.poll p (hub.isCancelled token) event
  ({ hub with channel }, poll)

/-- Tries to send an event; none while the producer stands in line for room. -/
def offer (hub : Hub σ) (p : Producer) (token : Token) (event : Event) : Option (Hub σ × SendPoll) :=
  match hub.send p token event with
  | (after, .blocked) =>
    if hub.channel.waiting.contains p then none else some (after, .blocked)
  | answer => some answer

def reaches (hub : Hub σ) (time : Nat) : Bool := time ≤ hub.now

end Hub

end LabStream
