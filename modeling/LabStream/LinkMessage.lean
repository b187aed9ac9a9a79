import LabStream.Link
import LabStream.Lower
import LabStream.Numeral

namespace LabStream

inductive LinkKind where
  | tun
  | known (name : String)
  | unknown (name : String)
  deriving DecidableEq

def LinkKind.word : LinkKind → String
  | tun => "tuntap"
  | known name => lowerText name
  | unknown name => lowerText name

/-- Kinds whose name on the wire is not that of the kind. -/
def LinkKind.wireNames : List (String × LinkKind) :=
  [("tun", .tun), ("ip6gretap", .known "GreTap6"), ("ipip", .known "IpTun"), ("sit", .known "SitTun"),
   ("gre", .known "GreTun"), ("ip6gre", .known "GreTun6")]

/-- The kind that is read where `kind` was written: a name that stands for a kind is that kind. -/
def LinkKind.received : LinkKind → LinkKind
  | unknown name => ((wireNames.find? (·.1 = name)).map (·.2)).getD (.unknown name)
  | kind => kind

inductive LinkAttribute where
  | name (value : String)
  | altName (value : String)
  | mtu (value : Nat)
  | address (bytes : List UInt8)
  | operState (code : Nat)
  | controller (index : Nat)
  | info (kinds : List LinkKind)
  | stats64 (counters : LinkCounters)
  | stats32 (counters : LinkCounters)
  | other
  deriving DecidableEq

def LinkAttribute.received : LinkAttribute → LinkAttribute
  | info kinds => .info (kinds.map LinkKind.received)
  | a => a

structure LinkMessage where
  index : Nat
  attributes : List LinkAttribute
  deriving DecidableEq

namespace LinkMessage

def stateWord : Nat → String
  | 1 => "not-present"
  | 2 => "down"
  | 3 => "lower-layer-down"
  | 4 => "testing"
  | 5 => "dormant"
  | 6 => "up"
  | _ => "unknown"

def macText (bytes : List UInt8) : String := ":".intercalate (bytes.map hexByte)

/-- An interface of which nothing but the index is known. -/
def bare (index : Nat) : Link := ⟨⟨index, "", "", 0, "", "unknown", "device"⟩, none, none⟩

/-- One attribute read into a link. Counters of 32 bits count only while there are no others. -/
def learn (link : Link) : LinkAttribute → Link
  | .name value => { link with snapshot.name := value }
  | .altName value => { link with snapshot.altName := value }
  | .mtu value => { link with snapshot.mtu := value }
  | .address bytes => { link with snapshot.mac := macText bytes }
  | .operState code => { link with snapshot.state := stateWord code }
  | .controller index => { link with controller := some index }
  | .info kinds =>
    match kinds.getLast? with
    | some kind => { link with snapshot.kind := kind.word }
    | none => link
  | .stats64 counters => { link with counters := some counters }
  | .stats32 counters => { link with counters := some (link.counters.getD counters) }
  | .other => link

def link (message : LinkMessage) : Link := message.attributes.foldl learn (bare message.index)

def received (message : LinkMessage) : LinkMessage :=
  { message with attributes := message.attributes.map LinkAttribute.received }

end LinkMessage

end LabStream
