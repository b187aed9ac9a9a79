import LabStream.DockerRecord
import LabStream.RuntimeFault
import LabStream.Surroundings

namespace LabStream

structure DockerFeed where
  text : List Char
  /-- Whether nothing more will come. -/
  atEnd : Bool
  fault : Option RuntimeFault

namespace DockerFeed

def empty : DockerFeed := ⟨[], false, none⟩

/-- One look at the text: a message, the need for more text, or a fault. -/
inductive Look where
  | message (value : Json)
  | more
  | broken

/-- Reads one message. A message that is not finished at the end of its line goes on in the next. -/
def look (text : List Char) : List Char × Look :=
  let line := text.takeWhile (· ≠ '\n')
  let rest := text.drop (line.length + 1)
  if text.isEmpty then (text, .more)
  else match DockerRecord.message.parse (String.ofList line) with
    | .ok .null => (line ++ rest, .more)
    | .ok value => (rest, .message value)
    | .error .unfinished => (line ++ rest, .more)
    | .error .malformed => (rest, .broken)

/-- The next event of a feed. A fault ends it, and so does text that is left at the end. -/
def poll (feed : DockerFeed) : DockerFeed × FeedPoll :=
  let broken : DockerFeed := { feed with fault := some .undecoded }
  match feed.fault with
  | some fault => (feed, .failed fault)
  | none =>
    match look feed.text with
    | (text, .message value) => ({ feed with text }, .event (DockerRecord.eventOf value))
    | (_, .broken) => (broken, .failed .undecoded)
    | (text, .more) =>
      if !feed.atEnd then ({ feed with text }, .pending)
      else if text.isEmpty then ({ feed with text }, .ended)
      else (broken, .failed .undecoded)

end DockerFeed

end LabStream
