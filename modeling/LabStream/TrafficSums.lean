import LabStream.ProtocolLabel
import LabStream.Tally

namespace LabStream

structure InterfaceProtocol where
  interface : String
  protocol : String
  deriving DecidableEq

namespace InterfaceProtocol

instance : Ord InterfaceProtocol := ⟨compareLex (compareOn interface) (compareOn protocol)⟩

instance : Std.TransOrd InterfaceProtocol :=
  inferInstanceAs (Std.TransCmp (compareLex (compareOn interface) (compareOn protocol)))

instance : Std.LawfulEqOrd InterfaceProtocol where
  eq_of_compare {a b} h := by
    have h : compareLex (compareOn interface) (compareOn protocol) a b = .eq := h
    simp only [compareLex_eq_eq, compareOn, Std.LawfulEqOrd.compare_eq_iff_eq] at h
    cases a; cases b; simp_all

end InterfaceProtocol

/-- The name of every interface, by index. -/
abbrev LinkNames := Std.ExtTreeMap Nat String

/-- The traffic of one tick, summed up over scopes. -/
structure TrafficSums where
  global : Std.ExtTreeMap String Volume
  interfaces : Std.ExtTreeMap InterfaceProtocol Volume
  deriving DecidableEq

namespace TrafficSums

def empty : TrafficSums := ⟨∅, ∅⟩

/-- The name of an interface, after the name of its scope if that has one. -/
def interfaceName (qualifier : Option String) (names : LinkNames) (ifindex : Nat) : String :=
  let name := names.getD ifindex ""
  let name := if name.isEmpty then "ifindex-" ++ toString ifindex else name
  match qualifier with
  | some scope => scope ++ ":" ++ name
  | none => name

/-- Adds the growth of one counter; one without a label does not count. -/
def addCounter (qualifier : Option String) (names : LinkNames) (services : ServiceNames)
    (sums : TrafficSums) (key : CounterKey) (volume : Volume) : TrafficSums :=
  match protocolLabel services key.bucket key.port with
  | none => sums
  | some protocol =>
    let place := ⟨interfaceName qualifier names key.ifindex, protocol⟩
    { global := sums.global.insert protocol ((sums.global.getD protocol .zero).add volume)
      interfaces := sums.interfaces.insert place ((sums.interfaces.getD place .zero).add volume) }

def addScope (sums : TrafficSums) (qualifier : Option String) (names : LinkNames) (growth : Tally)
    (services : ServiceNames) : TrafficSums :=
  growth.toList.foldl
    (fun sums (key, volume) => addCounter qualifier names services sums key volume) sums

def isEmpty (sums : TrafficSums) : Bool := sums.global.isEmpty && sums.interfaces.isEmpty

/-- More bytes first, then more packets. -/
def heavier (a b : Volume) : Ordering :=
  (compare b.bytes a.bytes).then (compare b.packets a.packets)

/-- The sums by protocol, heaviest first. -/
def globalRows (sums : TrafficSums) : List (String × Volume) :=
  sums.global.toList.mergeSort fun a b => ((heavier a.2 b.2).then (compare a.1 b.1)).isLE

/-- The sums by interface and protocol, heaviest first. -/
def interfaceRows (sums : TrafficSums) : List (InterfaceProtocol × Volume) :=
  sums.interfaces.toList.mergeSort fun a b => ((heavier a.2 b.2).then (compare a.1 b.1)).isLE

end TrafficSums

end LabStream
