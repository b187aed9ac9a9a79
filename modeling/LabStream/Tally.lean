import Std.Data.ExtTreeMap

namespace LabStream

/-- What one counter counts: an interface, a direction, a protocol bucket and a port. -/
structure CounterKey where
  ifindex : Nat
  direction : Nat
  bucket : Nat
  port : Nat
  deriving DecidableEq

namespace CounterKey

instance : Ord CounterKey :=
  ⟨compareLex (compareOn ifindex)
    (compareLex (compareOn direction) (compareLex (compareOn bucket) (compareOn port)))⟩

instance : Std.TransOrd CounterKey :=
  inferInstanceAs (Std.TransCmp (compareLex (compareOn ifindex)
    (compareLex (compareOn direction) (compareLex (compareOn bucket) (compareOn port)))))

instance : Std.LawfulEqOrd CounterKey where
  eq_of_compare {a b} h := by
    have h : compareLex (compareOn ifindex) (compareLex (compareOn direction)
        (compareLex (compareOn bucket) (compareOn port))) a b = .eq := h
    simp only [compareLex_eq_eq, compareOn, Std.LawfulEqOrd.compare_eq_iff_eq] at h
    cases a; cases b; simp_all

end CounterKey

/-- Packets and bytes. -/
structure Volume where
  packets : Nat
  bytes : Nat
  deriving DecidableEq

namespace Volume

def zero : Volume := ⟨0, 0⟩

def add (a b : Volume) : Volume := ⟨a.packets + b.packets, a.bytes + b.bytes⟩

/-- Growth from `b` to `a`, nothing where a counter went down. -/
def growth (a b : Volume) : Volume := ⟨a.packets - b.packets, a.bytes - b.bytes⟩

end Volume

abbrev Tally := Std.ExtTreeMap CounterKey Volume

namespace Tally

def ofPairs (pairs : List (CounterKey × Volume)) : Tally :=
  pairs.foldl (fun tally (key, volume) => tally.insert key volume) ∅

/-- The growth of every counter between two readings, without those that did not grow. -/
def growth (previous current : Tally) : Tally :=
  current.filterMap fun key now =>
    let delta := now.growth (previous.getD key .zero)
    if delta = .zero then none else some delta

end Tally

end LabStream
