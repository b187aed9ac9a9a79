import Std.Data.ExtTreeMap
import LabStream.Blank
import LabStream.Numeral

namespace LabStream

inductive Transport where
  | tcp
  | udp
  deriving DecidableEq

structure ServiceEntry where
  transport : Transport
  port : Nat
  name : String
  deriving DecidableEq

structure ServiceNames where
  tcp : Std.ExtTreeMap Nat String
  udp : Std.ExtTreeMap Nat String
  deriving DecidableEq

namespace ServiceNames

def empty : ServiceNames := ⟨∅, ∅⟩

def lines : List Char → List (List Char)
  | [] => [[]]
  | c :: rest =>
    if c = '\n' then [] :: lines rest
    else match lines rest with
      | [] => [[c]]
      | line :: more => (c :: line) :: more

def transportOf (word : List Char) : Option Transport :=
  if word = "tcp".toList then some .tcp
  else if word = "udp".toList then some .udp
  else none

/-- The entry of a line: a name, a port and a transport protocol, before any comment. -/
def entry? (line : List Char) : Option ServiceEntry :=
  match blankWords (line.takeWhile (· ≠ '#')) with
  | name :: place :: _ => do
    let port ← readNatural 65535 (place.takeWhile (· ≠ '/'))
    match place.dropWhile (· ≠ '/') with
    | [] => none
    | _ :: word => return ⟨← transportOf word, port, String.ofList name⟩
  | _ => none

/-- Adds an entry unless its port has a name. -/
def add (names : ServiceNames) (e : ServiceEntry) : ServiceNames :=
  match e.transport with
  | .tcp => { names with tcp := names.tcp.insertIfNew e.port e.name }
  | .udp => { names with udp := names.udp.insertIfNew e.port e.name }

/-- The names that a text lists; the first entry of a port counts. -/
def ofText (text : String) : ServiceNames := ((lines text.toList).filterMap entry?).foldl add empty

def lookup (names : ServiceNames) : Transport → Nat → Option String
  | .tcp, port => names.tcp[port]?
  | .udp, port => names.udp[port]?

end ServiceNames

end LabStream
