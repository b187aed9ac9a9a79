namespace LabStream

/-- A bounded queue between producers `π` and one consumer. A producer that finds no room waits in
line; room that comes free is granted to the first in line, who takes it when it is looked at next. -/
structure Channel (α π : Type) where
  capacity : Nat
  queue : List α
  waiting : List π
  granted : List π
  isOpen : Bool

inductive SendPoll where
  | sent
  | refused
  | blocked
  deriving DecidableEq

namespace Channel

variable {α π : Type} [DecidableEq π]

def ofCapacity (capacity : Nat) : Channel α π := ⟨capacity, [], [], [], true⟩

/-- Whether a producer that does not wait yet may put an item in. -/
def hasRoom (ch : Channel α π) : Bool :=
  ch.waiting.isEmpty && decide (ch.queue.length + ch.granted.length < ch.capacity)

/-- Grants free room to the first in line. -/
def grant (ch : Channel α π) : Channel α π :=
  match ch.waiting with
  | [] => ch
  | p :: rest =>
    if ch.queue.length + ch.granted.length < ch.capacity then
      { ch with waiting := rest, granted := ch.granted ++ [p] }
    else ch

/-- Takes a producer out of the line; room granted to it goes to the next one. -/
def leave (ch : Channel α π) (p : π) : Channel α π :=
  grant { ch with waiting := ch.waiting.erase p, granted := ch.granted.erase p }

/-- Looks at the send of an item. A cancelled send is refused first of all, then one that nobody
will receive. -/
def poll (ch : Channel α π) (p : π) (cancelled : Bool) (item : α) : Channel α π × SendPoll :=
  if cancelled then (ch.leave p, .refused)
  else if !ch.isOpen then (ch.leave p, .refused)
  else if ch.granted.contains p then
    ({ ch with queue := ch.queue ++ [item], granted := ch.granted.erase p }, .sent)
  else if ch.waiting.contains p then (ch, .blocked)
  else if ch.hasRoom then ({ ch with queue := ch.queue ++ [item] }, .sent)
  else ({ ch with waiting := ch.waiting ++ [p] }, .blocked)

def receive (ch : Channel α π) : Option (α × Channel α π) :=
  match ch.queue with
  | [] => none
  | item :: rest => some (item, grant { ch with queue := rest })

/-- The consumer goes away, and with it all that is queued. -/
def close (ch : Channel α π) : Channel α π := { ch with queue := [], isOpen := false }

end Channel

end LabStream
