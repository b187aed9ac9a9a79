import LabStream.LinkRates
import LabStream.Proofs.TallyGrowth

namespace LabStream

/-- What happens to a cumulative counter. -/
inductive CounterEvent where
  | counted (n : Nat)
  | restarted
  deriving DecidableEq

namespace CounterEvent

def next (value : Nat) : CounterEvent → Nat
  | counted n => value + n
  | restarted => 0

def amount : CounterEvent → Nat
  | counted n => n
  | restarted => 0

/-- What a counter shows after some events. -/
def valueAfter (value : Nat) (events : List CounterEvent) : Nat := events.foldl next value

/-- All that was counted, whatever the counter shows of it. -/
def total (events : List CounterEvent) : Nat := (events.map amount).sum

variable {events : List CounterEvent}

theorem valueAfter_of_unbroken (h : .restarted ∉ events) (value : Nat) :
    valueAfter value events = value + total events := by
  induction events generalizing value with
  | nil => rfl
  | cons e events ih =>
    have hrest : .restarted ∉ events := fun hm => h (List.mem_cons_of_mem e hm)
    cases e with
    | counted n =>
      have hvalue : valueAfter value (counted n :: events) = value + n + total events := ih hrest (value + n)
      rw [hvalue, Nat.add_assoc]
      rfl
    | restarted => exact absurd List.mem_cons_self h

/-- A counter that has started again shows less than was counted. -/
theorem valueAfter_le_total (h : .restarted ∈ events) (value : Nat) : valueAfter value events ≤ total events := by
  induction events generalizing value with
  | nil => cases h
  | cons e events ih =>
    have htotal : total (e :: events) = e.amount + total events := by simp [total]
    change valueAfter (next value e) events ≤ _
    by_cases hrest : .restarted ∈ events
    · have := ih hrest (next value e)
      omega
    · obtain rfl : e = restarted := ((List.mem_cons.mp h).resolve_right hrest).symm
      rw [valueAfter_of_unbroken hrest, htotal]
      rfl

theorem counterGrowth_le_total (value : Nat) (events : List CounterEvent) :
    counterGrowth value (valueAfter value events) ≤ total events := by
  unfold counterGrowth
  by_cases h : .restarted ∈ events
  · have := valueAfter_le_total h value
    split <;> omega
  · rw [valueAfter_of_unbroken h]
    split <;> omega

theorem counterGrowth_of_unbroken (h : .restarted ∉ events) (value : Nat) :
    counterGrowth value (valueAfter value events) = total events := by
  rw [counterGrowth, valueAfter_of_unbroken h, if_pos (Nat.le_add_right _ _), Nat.add_sub_cancel_left]

end CounterEvent

theorem sub_le_counterGrowth (previous current : Nat) : current - previous ≤ counterGrowth previous current := by
  unfold counterGrowth
  split <;> omega

/-- What happens to a table of counters. -/
inductive TallyEvent where
  | counted (key : CounterKey) (v : Volume)
  | restarted (key : CounterKey) (q : Quantity)
  /-- A counter goes from the table, and begins at zero if it comes again. -/
  | dropped (key : CounterKey)

def Quantity.cleared : Quantity → Volume → Volume
  | packets, v => { v with packets := 0 }
  | bytes, v => { v with bytes := 0 }

theorem Quantity.of_cleared (q other : Quantity) (v : Volume) :
    q.of (other.cleared v) = if other = q then 0 else q.of v := by
  cases q <;> cases other <;> rfl

namespace TallyEvent

def next (t : Tally) : TallyEvent → Tally
  | counted key v => t.insert key ((t.getD key .zero).add v)
  | restarted key q => t.insert key (q.cleared (t.getD key .zero))
  | dropped key => t.erase key

/-- What an event of a table is for one quantity of one counter. -/
def toward? (key : CounterKey) (q : Quantity) : TallyEvent → Option CounterEvent
  | counted other v => if other = key then some (.counted (q.of v)) else none
  | restarted other cleared => if other = key ∧ cleared = q then some .restarted else none
  | dropped other => if other = key then some .restarted else none

theorem of_next (t : Tally) (e : TallyEvent) (key : CounterKey) (q : Quantity) :
    q.of ((next t e).getD key .zero) =
      CounterEvent.valueAfter (q.of (t.getD key .zero)) (e.toward? key q).toList := by
  cases e with
  | counted other v =>
    by_cases h : other = key
    · subst h
      simp [next, toward?, CounterEvent.valueAfter, CounterEvent.next]
    · simp [next, toward?, h, Std.ExtTreeMap.getD_insert, CounterEvent.valueAfter]
  | restarted other cleared =>
    by_cases h : other = key
    · subst h
      by_cases hq : cleared = q <;>
        simp [next, toward?, hq, Quantity.of_cleared, CounterEvent.valueAfter, CounterEvent.next]
    · simp [next, toward?, h, Std.ExtTreeMap.getD_insert, CounterEvent.valueAfter]
  | dropped other =>
    by_cases h : other = key
    · subst h
      simp [next, toward?, CounterEvent.valueAfter, CounterEvent.next]
    · simp [next, toward?, h, Std.ExtTreeMap.getD_erase, CounterEvent.valueAfter]

/-- What has happened to one quantity of one counter. -/
def toward (key : CounterKey) (q : Quantity) (events : List TallyEvent) : List CounterEvent :=
  events.filterMap (toward? key q)

end TallyEvent

namespace Tally

/-- The table after some events. -/
def after (t : Tally) (events : List TallyEvent) : Tally := events.foldl TallyEvent.next t

/-- In a table every quantity of every counter has a history of its own. -/
theorem of_after (t : Tally) (events : List TallyEvent) (key : CounterKey) (q : Quantity) :
    q.of ((t.after events).getD key .zero) =
      CounterEvent.valueAfter (q.of (t.getD key .zero)) (TallyEvent.toward key q events) := by
  unfold TallyEvent.toward
  induction events generalizing t with
  | nil => rfl
  | cons e events ih =>
    change q.of ((after (TallyEvent.next t e) events).getD key .zero) = _
    rw [ih, TallyEvent.of_next, List.filterMap_cons, CounterEvent.valueAfter, CounterEvent.valueAfter,
      CounterEvent.valueAfter, ← List.foldl_append]
    cases e.toward? key q <;> rfl

/-- A counter is reported just if one of its quantities has grown. -/
theorem mem_growth_iff {previous current : Tally} {key : CounterKey} :
    key ∈ previous.growth current ↔
      key ∈ current ∧ ∃ q : Quantity, q.of (previous.getD key .zero) < q.of (current.getD key .zero) := by
  rw [Std.ExtTreeMap.mem_iff_isSome_getElem?, Std.ExtTreeMap.mem_iff_isSome_getElem?, growth,
    Std.ExtTreeMap.getElem?_filterMap', Std.ExtTreeMap.getD_eq_getD_getElem? (t := current)]
  cases current[key]? with
  | none => simp
  | some now =>
    have hgrown : now.growth (previous.getD key .zero) ≠ .zero ↔
        ∃ q : Quantity, q.of (previous.getD key .zero) < q.of now := by
      constructor
      · intro h
        by_contra hnone
        push Not at hnone
        have hpackets := hnone .packets
        have hbytes := hnone .bytes
        exact h (by simp_all [Volume.growth, Volume.zero, Quantity.of, Nat.sub_eq_zero_of_le])
      · rintro ⟨q, hq⟩ h
        have hzero : q.of now - q.of (previous.getD key .zero) = 0 := by rw [← Quantity.of_growth, h, Quantity.of_zero]
        omega
    simp [← hgrown]

variable (previous : Tally) (events : List TallyEvent) (key : CounterKey) (q : Quantity)

theorem of_growth_le_counterGrowth (current : Tally) :
    q.of ((previous.growth current).getD key .zero) ≤
      counterGrowth (q.of (previous.getD key .zero)) (q.of (current.getD key .zero)) := by
  rw [getD_growth, Quantity.of_growth]
  exact sub_le_counterGrowth _ _

theorem of_growth_le_total : q.of ((previous.growth (previous.after events)).getD key .zero) ≤
    CounterEvent.total (TallyEvent.toward key q events) := by
  refine (of_growth_le_counterGrowth previous key q _).trans ?_
  rw [of_after]
  exact CounterEvent.counterGrowth_le_total _ _

end Tally

/-- The differences of consecutive readings, one taken at first and one after every window of events. -/
def growthsOver {σ ε : Type} (growth : σ → σ → Nat) (after : σ → List ε → σ) : σ → List (List ε) → List Nat
  | _, [] => []
  | s, window :: rest => growth s (after s window) :: growthsOver growth after (after s window) rest

theorem sum_growthsOver_le {σ ε : Type} {growth : σ → σ → Nat} {after : σ → List ε → σ}
    (counts : List ε → List CounterEvent) (hcounts : ∀ early late, counts (early ++ late) = counts early ++ counts late)
    (hwindow : ∀ s window, growth s (after s window) ≤ CounterEvent.total (counts window)) (s : σ)
    (windows : List (List ε)) :
    (growthsOver growth after s windows).sum ≤ CounterEvent.total (counts windows.flatten) := by
  induction windows generalizing s with
  | nil => exact Nat.zero_le _
  | cons window rest ih =>
    rw [growthsOver, List.sum_cons, List.flatten_cons, hcounts, CounterEvent.total, List.map_append, List.sum_append]
    exact Nat.add_le_add (hwindow s window) (ih _)

/-- However often a counter starts again, neither difference of two readings is more than what was counted
between them, both are all of it if the counter did not start again, and the one that takes a counter that went
down for no growth is the smaller one. So no run of readings reports more than was counted. Packets and bytes are
counters of their own, and a counter is reported just if one of the two has grown. -/
theorem growth_within_counted :
    (∀ (value : Nat) (events : List CounterEvent),
      let shown := CounterEvent.valueAfter value events
      counterGrowth value shown ≤ CounterEvent.total events ∧
      (.restarted ∉ events → counterGrowth value shown = CounterEvent.total events)) ∧
    (∀ (previous : Tally) (events : List TallyEvent) (key : CounterKey) (q : Quantity),
      let current := previous.after events
      let delta := q.of ((previous.growth current).getD key .zero)
      let counts := TallyEvent.toward key q events
      delta ≤ CounterEvent.total counts ∧ (.restarted ∉ counts → delta = CounterEvent.total counts) ∧
      delta ≤ counterGrowth (q.of (previous.getD key .zero)) (q.of (current.getD key .zero))) ∧
    (∀ (value : Nat) (windows : List (List CounterEvent)),
      (growthsOver counterGrowth CounterEvent.valueAfter value windows).sum ≤ CounterEvent.total windows.flatten) ∧
    (∀ (first : Tally) (windows : List (List TallyEvent)) (key : CounterKey) (q : Quantity),
      (growthsOver (fun previous current => q.of ((previous.growth current).getD key .zero)) Tally.after first
        windows).sum ≤ CounterEvent.total (TallyEvent.toward key q windows.flatten)) ∧
    ∀ (previous current : Tally) (key : CounterKey),
      (key ∈ previous.growth current ↔
        key ∈ current ∧ ∃ q : Quantity, q.of (previous.getD key .zero) < q.of (current.getD key .zero)) ∧
      ∀ q : Quantity, q.of ((previous.growth current).getD key .zero) =
        q.of (current.getD key .zero) - q.of (previous.getD key .zero) := by
  refine ⟨fun value events => ⟨?_, fun h => ?_⟩, fun previous events key q => ⟨?_, fun h => ?_, ?_⟩,
    fun value windows => ?_, fun first windows key q => ?_, fun previous current key => ⟨?_, fun q => ?_⟩⟩
  · exact CounterEvent.counterGrowth_le_total value events
  · exact CounterEvent.counterGrowth_of_unbroken h value
  · exact Tally.of_growth_le_total previous events key q
  · rw [Tally.getD_growth, Quantity.of_growth, Tally.of_after, CounterEvent.valueAfter_of_unbroken h,
      Nat.add_sub_cancel_left]
  · exact Tally.of_growth_le_counterGrowth previous key q _
  · exact sum_growthsOver_le id (fun _ _ => rfl) CounterEvent.counterGrowth_le_total value windows
  · exact sum_growthsOver_le (TallyEvent.toward key q) (fun _ _ => List.filterMap_append)
      (fun t window => Tally.of_growth_le_total t window key q) first windows
  · exact Tally.mem_growth_iff
  · rw [Tally.getD_growth, Quantity.of_growth]

/-- The bytes start again, and the packets are still counted in full. -/
theorem growth_within_counted_of_restart :
    let key : CounterKey := ⟨1, 0, 3, 0⟩
    let events : List TallyEvent := [.counted key ⟨2, 120⟩, .restarted key .bytes, .counted key ⟨3, 500⟩]
    .restarted ∉ TallyEvent.toward key .packets events ∧
      ((Tally.growth ∅ (Tally.after ∅ events)).getD key .zero).packets = 5 := by
  have hunbroken : .restarted ∉ TallyEvent.toward ⟨1, 0, 3, 0⟩ .packets
      [.counted ⟨1, 0, 3, 0⟩ ⟨2, 120⟩, .restarted ⟨1, 0, 3, 0⟩ .bytes, .counted ⟨1, 0, 3, 0⟩ ⟨3, 500⟩] := by decide
  exact ⟨hunbroken, ((growth_within_counted.2.1 ∅ _ _ .packets).2.1 hunbroken).trans (by decide)⟩

end LabStream
