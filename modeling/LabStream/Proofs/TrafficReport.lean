import Std.Data.String.ToNat
import LabStream.Proofs.SamplingTurns
import LabStream.Proofs.TallyGrowth

namespace LabStream

/-- The two ways in which traffic is summed up. -/
inductive Rollup where
  | global
  | interface
  deriving DecidableEq

def Rollup.action : Rollup → String
  | global => "global"
  | interface => "interface"

def Quantity.word : Quantity → String
  | packets => "packets"
  | bytes => "bytes"

/-- What is summed up under a label. -/
def TrafficSums.weight (sums : TrafficSums) (q : Quantity) (label : String) : Rollup → Nat
  | .global => LabStream.weight (fun protocol v => if protocol = label then q.of v else 0) sums.global
  | .interface => LabStream.weight (fun place v => if place.protocol = label then q.of v else 0) sums.interfaces

/-- What an event of a roll-up tells of a label. -/
def Event.amount (q : Quantity) (label : String) (r : Rollup) (e : Event) : Nat :=
  if e.kind = .traffic ∧ e.action = r.action ∧ e.attributes.valueOf "protocol" = label then
    (e.attributes.valueOf q.word).toNat?.getD 0
  else 0

/-- What all events of a roll-up tell of a label together. -/
def reported (q : Quantity) (label : String) (r : Rollup) (events : List Event) : Nat :=
  (events.map (Event.amount q label r)).sum

@[simp] theorem reported_append (q : Quantity) (label : String) (r : Rollup) (first second : List Event) :
    reported q label r (first ++ second) = reported q label r first + reported q label r second := by
  simp [reported]

namespace TrafficSums

variable (services : ServiceNames) (q : Quantity) (label : String) (r : Rollup)

theorem weight_empty : empty.weight q label r = 0 := by cases r <;> rfl

theorem weight_addCounter (qualifier : Option String) (names : LinkNames) (sums : TrafficSums)
    (key : CounterKey) (v : Volume) :
    (addCounter qualifier names services sums key v).weight q label r =
      sums.weight q label r + q.under services label key v := by
  have hglobal : Additive fun protocol v => if protocol = label then q.of v else 0 :=
    ⟨by simp, fun protocol v w => by by_cases h : protocol = label <;> simp [h]⟩
  have hinterface : Additive fun (place : InterfaceProtocol) v => if place.protocol = label then q.of v else 0 :=
    ⟨by simp, fun place v w => by by_cases h : place.protocol = label <;> simp [h]⟩
  unfold addCounter
  cases hp : protocolLabel services key.bucket key.port with
  | none => simp [Quantity.under, hp]
  | some protocol =>
    cases r with
    | global => simpa [weight, Quantity.under, hp] using weight_insert_add hglobal sums.global protocol v
    | interface => simpa [weight, Quantity.under, hp] using weight_insert_add hinterface sums.interfaces _ v

theorem weight_addScope (sums : TrafficSums) (qualifier : Option String) (names : LinkNames) (growth : Tally) :
    (sums.addScope qualifier names growth services).weight q label r =
      sums.weight q label r + LabStream.weight (q.under services label) growth := by
  unfold addScope LabStream.weight
  induction growth.toList generalizing sums with
  | nil => rfl
  | cons p rest ih =>
    rw [List.foldl_cons, ih, weight_addCounter, List.map_cons, List.sum_cons, Nat.add_assoc]

theorem weight_grown {τ : Type} (sums : TrafficSums) (scope : CountedScope τ) (growth : Tally) :
    (Sampling.grown services sums scope growth).weight q label r =
      sums.weight q label r + LabStream.weight (q.under services label) growth := by
  unfold Sampling.grown
  split_ifs with h
  · obtain rfl : growth = ∅ := Std.ExtTreeMap.isEmpty_iff.mp h
    rfl
  · exact weight_addScope services q label r sums _ _ growth

theorem weight_of_isEmpty {sums : TrafficSums} (h : sums.isEmpty) : sums.weight q label r = 0 := by
  obtain ⟨hg, hi⟩ : sums.global.isEmpty ∧ sums.interfaces.isEmpty := by simpa [isEmpty] using h
  cases r with
  | global =>
    rw [weight, Std.ExtTreeMap.isEmpty_iff.mp hg]
    rfl
  | interface =>
    rw [weight, Std.ExtTreeMap.isEmpty_iff.mp hi]
    rfl

end TrafficSums

namespace Sampling

variable (q : Quantity) (label : String) (r : Rollup) (now : Instant) (window : String)

theorem lowerText_sample : lowerText "sample" = "sample" := by decide +kernel

theorem lowerText_action (r : Rollup) : lowerText r.action = r.action := by cases r <;> decide +kernel

theorem amount_sampleEvent (attached globalRows interfaceRows scopes : Nat) :
    (sampleEvent now window attached globalRows interfaceRows scopes).amount q label r = 0 := by
  have ha : (sampleEvent now window attached globalRows interfaceRows scopes).action = "sample" :=
    lowerText_sample
  cases r <;> simp [Event.amount, ha, Rollup.action]

theorem amount_of_attributes {e : Event} {own : Rollup} {protocol : String} {v : Volume}
    (hk : e.kind = .traffic) (ha : e.action = own.action) (hp : e.attributes.valueOf "protocol" = protocol)
    (hq : e.attributes.valueOf q.word = toString (q.of v)) :
    e.amount q label r = if r = own then if protocol = label then q.of v else 0 else 0 := by
  have hn : (toString (q.of v)).toNat? = some (q.of v) := Nat.toNat?_repr _
  have hr : own.action = r.action ↔ r = own := by cases own <;> cases r <;> simp [Rollup.action]
  simp only [Event.amount, hk, ha, hp, hq, hn, hr, true_and, Option.getD_some]
  by_cases h : r = own <;> simp [h]

theorem valueOf_protocol_globalEvent (protocol : String) (v : Volume) :
    (globalEvent now window protocol v).attributes.valueOf "protocol" = protocol := by
  simp [globalEvent, trafficEvent, Event.withAttributes, Attributes.valueOf, Std.ExtTreeMap.getD_insert]

theorem valueOf_word_globalEvent (protocol : String) (v : Volume) :
    (globalEvent now window protocol v).attributes.valueOf q.word = toString (q.of v) := by
  cases q <;> simp [globalEvent, trafficEvent, Event.withAttributes, Attributes.valueOf,
    Std.ExtTreeMap.getD_insert, Quantity.word, Quantity.of]

theorem amount_globalEvent (protocol : String) (v : Volume) :
    (globalEvent now window protocol v).amount q label r =
      if r = .global then if protocol = label then q.of v else 0 else 0 :=
  amount_of_attributes q label r rfl (lowerText_action .global) (valueOf_protocol_globalEvent now window protocol v)
    (valueOf_word_globalEvent q now window protocol v)

theorem amount_interfaceEvent (place : InterfaceProtocol) (v : Volume) :
    (interfaceEvent now window place v).amount q label r =
      if r = .interface then if place.protocol = label then q.of v else 0 else 0 := by
  refine amount_of_attributes q label r rfl (lowerText_action .interface) ?_ ?_
  · simp [interfaceEvent, trafficEvent, Event.withAttributes, Attributes.valueOf, Std.ExtTreeMap.getD_insert]
  · cases q <;> simp [interfaceEvent, trafficEvent, Event.withAttributes, Attributes.valueOf,
      Std.ExtTreeMap.getD_insert, Quantity.word, Quantity.of]

/-- The order of the rows does not matter. -/
theorem reported_rows {κ : Type} [Ord κ] [Std.TransOrd κ] [Std.LawfulEqOrd κ] {m : Std.ExtTreeMap κ Volume}
    {rows : List (κ × Volume)} (h : rows.Perm m.toList) {row : κ × Volume → Event} (f : κ → Volume → Nat)
    (hrow : ∀ p, (row p).amount q label r = f p.1 p.2) : reported q label r (rows.map row) = weight f m := by
  have hmap : (rows.map row).map (Event.amount q label r) = rows.map fun p => f p.1 p.2 := by
    rw [List.map_map]
    exact List.map_congr_left fun p _ => hrow p
  rw [reported, hmap]
  exact (h.map _).sum_eq

theorem reported_globalRows (sums : TrafficSums) :
    reported q label r (sums.globalRows.map fun row => globalEvent now window row.1 row.2) =
      if r = .global then sums.weight q label .global else 0 := by
  have hrows : reported q label r (sums.globalRows.map fun row => globalEvent now window row.1 row.2) =
      weight (fun protocol v => if r = .global then if protocol = label then q.of v else 0 else 0) sums.global :=
    reported_rows q label r (List.mergeSort_perm _ _) _ fun p =>
      amount_globalEvent q label r now window p.1 p.2
  rw [hrows]
  cases r <;> simp [TrafficSums.weight, weight]

theorem reported_interfaceRows (sums : TrafficSums) :
    reported q label r (sums.interfaceRows.map fun row => interfaceEvent now window row.1 row.2) =
      if r = .interface then sums.weight q label .interface else 0 := by
  have hrows : reported q label r (sums.interfaceRows.map fun row => interfaceEvent now window row.1 row.2) =
      weight (fun place v => if r = .interface then if place.protocol = label then q.of v else 0 else 0)
        sums.interfaces :=
    reported_rows q label r (List.mergeSort_perm _ _) _ fun p =>
      amount_interfaceEvent q label r now window p.1 p.2
  rw [hrows]
  cases r <;> simp [TrafficSums.weight, weight]

theorem reported_events {τ : Type} (scopes : List (CountedScope τ)) (sums : TrafficSums) :
    reported q label r (events now window scopes sums) = sums.weight q label r := by
  have hsum : reported q label r (events now window scopes sums) =
      reported q label r (sums.globalRows.map fun row => globalEvent now window row.1 row.2) +
        reported q label r (sums.interfaceRows.map fun row => interfaceEvent now window row.1 row.2) := by
    rw [← reported_append]
    simp [reported, events, amount_sampleEvent]
  rw [hsum, reported_globalRows, reported_interfaceRows]
  cases r <;> simp

/-- Also a tick without events tells what was summed up. -/
theorem reported_batch {τ : Type} (scopes : List (CountedScope τ)) (sums : TrafficSums) :
    reported q label r (if sums.isEmpty then [] else events now window scopes sums) = sums.weight q label r := by
  split_ifs with hempty
  · exact (TrafficSums.weight_of_isEmpty q label r hempty).symm
  · exact reported_events q label r now window scopes sums

end Sampling

end LabStream
