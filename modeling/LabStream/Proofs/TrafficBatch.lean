import Mathlib.Data.List.Forall2
import LabStream.Proofs.Reconcile
import LabStream.Proofs.TrafficReport
import LabStream.Proofs.TrafficRows

namespace LabStream

/-- A counter whose bucket has a label. -/
def CounterKey.IsKnown (key : CounterKey) : Prop := 1 ≤ key.bucket ∧ key.bucket ≤ 11

instance (key : CounterKey) : Decidable key.IsKnown :=
  inferInstanceAs (Decidable (1 ≤ key.bucket ∧ key.bucket ≤ 11))

theorem CounterKey.isKnown_iff (services : ServiceNames) (key : CounterKey) :
    key.IsKnown ↔ (protocolLabel services key.bucket key.port).isSome := by
  unfold IsKnown protocolLabel
  split <;> simp_all
  omega

theorem Quantity.of_total (q : Quantity) (volumes : List Volume) :
    q.of (.total volumes) = (volumes.map q.of).sum := by cases q <;> rfl

theorem Quantity.of_total_append (q : Quantity) (volumes others : List Volume) :
    q.of (.total (volumes ++ others)) = q.of (.total volumes) + q.of (.total others) := by
  rw [of_total, of_total, of_total, List.map_append, List.sum_append]

/-- The volumes of the counters that have a label. -/
def Tally.labelled (services : ServiceNames) (label : String) (growth : Tally) : List Volume :=
  (growth.toList.filter fun counter =>
    protocolLabel services counter.1.bucket counter.1.port = some label).map (·.2)

/-- The volumes of all scopes that have a label. -/
def labelled (services : ServiceNames) (label : String) (deltas : List Tally) : List Volume :=
  deltas.flatMap (Tally.labelled services label)

theorem labelled_cons (services : ServiceNames) (label : String) (delta : Tally) (deltas : List Tally) :
    labelled services label (delta :: deltas) = delta.labelled services label ++ labelled services label deltas :=
  List.flatMap_cons

theorem weight_under (q : Quantity) (services : ServiceNames) (label : String) (growth : Tally) :
    weight (q.under services label) growth = q.of (.total (growth.labelled services label)) := by
  rw [weight, Tally.labelled, Quantity.of_total]
  induction growth.toList with
  | nil => rfl
  | cons counter rest ih =>
    rw [List.map_cons, List.sum_cons, ih]
    by_cases h : protocolLabel services counter.1.bucket counter.1.port = some label <;>
      simp [h, Quantity.under]

theorem volumesOf_placed (services : ServiceNames) (label : String) (c : Contribution)
    (counters : List (CounterKey × Volume)) : volumesOf label (byProtocol (c.placed services counters)) =
      (counters.filter fun counter =>
        protocolLabel services counter.1.bucket counter.1.port = some label).map (·.2) := by
  unfold volumesOf byProtocol Contribution.placed
  induction counters with
  | nil => rfl
  | cons counter rest ih =>
    cases h : protocolLabel services counter.1.bucket counter.1.port with
    | none => simpa [h] using ih
    | some protocol => by_cases hp : protocol = label <;> simpa [h, hp] using ih

theorem volumesOf_placedOf (services : ServiceNames) (label : String) (scopes : List Contribution) :
    volumesOf label (byProtocol (TrafficSums.placedOf services scopes)) =
      labelled services label (scopes.map (·.growth)) := by
  induction scopes with
  | nil => rfl
  | cons c rest ih =>
    rw [TrafficSums.placedOf_cons, byProtocol_append, volumesOf_append, volumesOf_placed, ih]
    rfl

theorem placedOf_eq_nil_iff (services : ServiceNames) (scopes : List Contribution) :
    TrafficSums.placedOf services scopes = [] ↔ ∀ c ∈ scopes, ∀ key ∈ c.growth, ¬ key.IsKnown := by
  have hkeys (growth : Tally) : (∀ key ∈ growth, ¬ key.IsKnown) ↔
      ∀ counter ∈ growth.toList, protocolLabel services counter.1.bucket counter.1.port = none := by
    simp only [← Std.ExtTreeMap.mem_keys, ← Std.ExtTreeMap.map_fst_toList_eq_keys, List.forall_mem_map,
      CounterKey.isKnown_iff services, Option.not_isSome_iff_eq_none]
  simp only [TrafficSums.placedOf, Contribution.placed, List.flatMap_eq_nil_iff, List.filterMap_eq_nil_iff,
    Option.map_eq_none_iff, hkeys]

namespace TrafficSums

variable (services : ServiceNames) (q : Quantity) (label : String) (r : Rollup)

/-- Both roll-ups tell of a label what the counters with it have grown. -/
theorem weight_addPlaced (scopes : List Contribution) (sums : TrafficSums) :
    (sums.addPlaced (placedOf services scopes)).weight q label r = sums.weight q label r +
      q.of (.total (labelled services label (scopes.map (·.growth)))) := by
  induction scopes generalizing sums with
  | nil => cases q <;> rfl
  | cons c rest ih =>
    have hscope : sums.addPlaced (c.placed services c.growth.toList) =
        sums.addScope c.qualifier c.names c.growth services := (addCounters_eq services sums c _).symm
    rw [placedOf_cons, addPlaced_append, ih, hscope, weight_addScope, weight_under, List.map_cons, labelled_cons,
      q.of_total_append, Nat.add_assoc]

theorem isEmpty_addPlaced (items : List (InterfaceProtocol × Volume)) :
    (empty.addPlaced items).isEmpty ↔ items = [] := by
  constructor
  · intro h
    obtain ⟨-, hnone⟩ : addVolumes ∅ (byProtocol items) = ∅ ∧ addVolumes ∅ items = ∅ := by
      simpa [isEmpty, addPlaced, empty] using h
    cases items with
    | nil => rfl
    | cons item rest =>
      have hkey := getElem?_addVolumes (item :: rest) item.1
      simp [hnone, volumesOf] at hkey
  · rintro rfl
    rfl

end TrafficSums

namespace CountedScope

variable {σ τ : Type} {b : TrafficBackend σ τ}

/-- A scope before and after a tick that has read its counters. -/
structure Sampled (b : TrafficBackend σ τ) (before after : CountedScope τ) : Prop where
  spec : after.spec = before.spec
  table : after.table = before.table
  reading : ∃ world, (b.read before.table world).2 = .ok after.previous

/-- What a scope gives to the sums of a tick. -/
def contribution (before after : CountedScope τ) : Contribution :=
  ⟨after.spec.qualifier, after.names, before.previous.growth after.previous⟩

end CountedScope

namespace Sampling

variable {σ τ : Type} {b : TrafficBackend σ τ} {services : ServiceNames}

theorem grown_eq (sums : TrafficSums) (scope : CountedScope τ) (growth : Tally) :
    grown services sums scope growth =
      sums.addPlaced (Contribution.placed services ⟨scope.spec.qualifier, scope.names, growth⟩ growth.toList) := by
  unfold grown
  split_ifs with h
  · obtain rfl : growth = ∅ := Std.ExtTreeMap.isEmpty_iff.mp h
    rfl
  · exact TrafficSums.addCounters_eq services sums ⟨_, _, growth⟩ _

theorem visit_ok {host host' : Traced σ} {seen rest scopes' : List (CountedScope τ)} {p p' : Progress}
    (h : visit b services host p seen rest = (host', scopes', .ok p')) :
    ∃ visited, scopes' = seen ++ visited ∧ List.Forall₂ (CountedScope.Sampled b) rest visited ∧
      p'.sums = p.sums.addPlaced
        (TrafficSums.placedOf services (List.zipWith CountedScope.contribution rest visited)) := by
  induction rest generalizing host seen p with
  | nil =>
    obtain ⟨-, rfl, rfl⟩ : host = host' ∧ seen = scopes' ∧ p = p' := by simpa [visit] using h
    exact ⟨[], (List.append_nil seen).symm, .nil, rfl⟩
  | cons scope rest ih =>
    rw [visit_cons] at h
    dsimp only at h
    split at h
    next => simp at h
    next current hread =>
      obtain ⟨visited, rfl, hall, hsums⟩ := ih h
      obtain ⟨hspec, htable, hprevious⟩ := CountedScope.reconcile_same (b := b) host scope
      refine ⟨{ (scope.reconcile b host).2.1 with previous := current } :: visited, List.append_cons _ _ _ ▸ rfl,
        .cons ⟨hspec, htable, ?_⟩ hall, ?_⟩
      · exact htable ▸ ⟨_, hread⟩
      -- Its growth goes into the sums before the rest, with the names of this tick.
      · rw [hsums, grown_eq, List.zipWith_cons_cons, TrafficSums.placedOf_cons, TrafficSums.addPlaced_append,
          hprevious]
        rfl

end Sampling

/-- The events of a tick by their sort, in the order in which they are sent. -/
structure Batch where
  sample : Event
  globals : List Event
  interfaces : List Event

def Batch.events (batch : Batch) : List Event := batch.sample :: (batch.globals ++ batch.interfaces)

/-- What the events of a tick have to be, for what the counters of every scope have grown. -/
structure Batch.Consistent (services : ServiceNames) (window : String) (now : Instant) (deltas : List Tally)
    (batch : Batch) : Prop where
  stamped : ∀ e ∈ batch.events,
    e.kind = .traffic ∧ e.timestamp = now ∧ e.attributes.valueOf "window" = window
  sample : batch.sample.action = "sample"
  global : ∀ e ∈ batch.globals, e.action = "global"
  interface : ∀ e ∈ batch.interfaces, e.action = "interface"
  globalRows : batch.sample.attributes.valueOf "global_rows" = toString batch.globals.length
  interfaceRows : batch.sample.attributes.valueOf "iface_rows" = toString batch.interfaces.length
  /-- A label that occurs has one event, any other none. -/
  once : ∀ label, batch.globals.countP (fun e => e.attributes.valueOf "protocol" = label) =
    if labelled services label deltas = [] then 0 else 1
  /-- It tells of everything with its label. -/
  told : ∀ e ∈ batch.globals, ∀ q : Quantity, e.attributes.valueOf q.word =
    toString (q.of (.total (labelled services (e.attributes.valueOf "protocol") deltas)))
  /-- So do all events of the interfaces together. -/
  shared : ∀ (q : Quantity) (label : String),
    reported q label .interface batch.interfaces = q.of (.total (labelled services label deltas))

theorem RowsOf.countP_eq {κ : Type} [DecidableEq κ] {tie : κ → κ → Prop} {items rows : List (κ × Volume)}
    (h : RowsOf tie items rows) (key : κ) :
    rows.countP (·.1 = key) = if volumesOf key items = [] then 0 else 1 := by
  have hcount : rows.countP (·.1 = key) = (rows.map (·.1)).count key := by
    rw [List.count_eq_countP, List.countP_map]
    rfl
  rw [hcount]
  split
  next hnone =>
    refine List.count_eq_zero_of_not_mem fun hmem => ?_
    obtain ⟨⟨_, v⟩, hrow, rfl⟩ := List.mem_map.mp hmem
    exact ((h.totals _ v).mp hrow).1 hnone
  next hsome =>
    refine List.count_eq_one_of_mem h.distinct (List.mem_map.mpr ⟨(key, .total (volumesOf key items)), ?_, rfl⟩)
    exact (h.totals _ _).mpr ⟨hsome, rfl⟩

namespace Sampling

variable (now : Instant) (window : String)

def batchOf {τ : Type} (scopes : List (CountedScope τ)) (sums : TrafficSums) : Batch where
  sample := sampleEvent now window (attachedTotal scopes) sums.globalRows.length sums.interfaceRows.length scopes.length
  globals := sums.globalRows.map fun row => globalEvent now window row.1 row.2
  interfaces := sums.interfaceRows.map fun row => interfaceEvent now window row.1 row.2

theorem stamped_batchOf {τ : Type} (scopes : List (CountedScope τ)) (sums : TrafficSums) (e : Event)
    (h : e ∈ (batchOf now window scopes sums).events) :
    e.kind = .traffic ∧ e.timestamp = now ∧ e.attributes.valueOf "window" = window := by
  simp only [Batch.events, batchOf, List.mem_cons, List.mem_append, List.mem_map] at h
  obtain rfl | ⟨row, -, rfl⟩ | ⟨row, -, rfl⟩ := h <;>
    refine ⟨rfl, rfl, ?_⟩ <;>
    simp [sampleEvent, globalEvent, interfaceEvent, trafficEvent, Event.withAttributes, Attributes.valueOf,
      Std.ExtTreeMap.getD_insert]

variable (services : ServiceNames)

theorem consistent_batchOf {τ : Type} (scopes : List (CountedScope τ)) (cs : List Contribution) :
    (batchOf now window scopes (TrafficSums.empty.addPlaced (TrafficSums.placedOf services cs))).Consistent
      services window now (cs.map (·.growth)) where
  stamped := stamped_batchOf now window scopes _
  sample := lowerText_sample
  global e h := by
    obtain ⟨row, -, rfl⟩ := List.mem_map.mp h
    exact lowerText_action .global
  interface e h := by
    obtain ⟨row, -, rfl⟩ := List.mem_map.mp h
    exact lowerText_action .interface
  globalRows := by
    simp [batchOf, sampleEvent, trafficEvent, Event.withAttributes, Attributes.valueOf, Std.ExtTreeMap.getD_insert]
  interfaceRows := by
    simp [batchOf, sampleEvent, trafficEvent, Event.withAttributes, Attributes.valueOf, Std.ExtTreeMap.getD_insert]
  once label := by
    have hrows := (TrafficSums.rowsOf_globalRows (TrafficSums.placedOf services cs)).countP_eq label
    rw [volumesOf_placedOf] at hrows
    rw [batchOf, List.countP_map]
    simpa only [Function.comp_def, valueOf_protocol_globalEvent] using hrows
  told e h q := by
    obtain ⟨row, hrow, rfl⟩ := List.mem_map.mp h
    have htotal := ((TrafficSums.rowsOf_globalRows (TrafficSums.placedOf services cs)).totals row.1 row.2).mp hrow
    rw [valueOf_protocol_globalEvent, valueOf_word_globalEvent, htotal.2, volumesOf_placedOf]
  shared q label := by
    have hempty := TrafficSums.weight_empty q label .interface
    rw [batchOf, reported_interfaceRows, if_pos rfl, TrafficSums.weight_addPlaced, hempty, Nat.zero_add]

/-- What the counters of every scope have grown between two readings. -/
def growths {τ : Type} (before after : List (CountedScope τ)) : List Tally :=
  List.zipWith (fun b a => b.previous.growth a.previous) before after

/-- A tick without a fault has a reading of every scope, and its events tell of all that is known. -/
theorem tick_ok {σ τ : Type} {b : TrafficBackend σ τ} {host host' : Traced σ} {scopes scopes' : List (CountedScope τ)}
    {batch : List Event} (h : tick b services window now host scopes = (host', scopes', .ok batch)) :
    List.Forall₂ (CountedScope.Sampled b) scopes scopes' ∧
      ((∀ delta ∈ growths scopes scopes', ∀ key ∈ delta, ¬ key.IsKnown) → batch = []) ∧
      ((∃ delta ∈ growths scopes scopes', ∃ key ∈ delta, key.IsKnown) →
        ∃ parts : Batch, parts.events = batch ∧
          parts.Consistent services window now (growths scopes scopes')) := by
  obtain ⟨p, hv, hbatch⟩ := visit_of_tick h
  obtain ⟨_, rfl, hall, hvisited⟩ := visit_ok hv
  have hsums : p.sums = TrafficSums.empty.addPlaced
      (TrafficSums.placedOf services (List.zipWith CountedScope.contribution scopes scopes')) := hvisited
  have hmap : (List.zipWith CountedScope.contribution scopes scopes').map (·.growth) = growths scopes scopes' :=
    List.map_zipWith
  have hnone : p.sums.isEmpty ↔ ∀ delta ∈ growths scopes scopes', ∀ key ∈ delta, ¬ key.IsKnown := by
    rw [hsums, TrafficSums.isEmpty_addPlaced, placedOf_eq_nil_iff, ← hmap, List.forall_mem_map]
  refine ⟨hall, fun h => ?_, fun ⟨delta, hdelta, key, hkey, hknown⟩ => ?_⟩
  · rw [hbatch, if_pos (hnone.mpr h)]
  · refine ⟨batchOf now window scopes' p.sums, ?_, ?_⟩
    · rw [hbatch, if_neg fun h => hnone.mp h delta hdelta key hkey hknown]
      rfl
    · rw [hsums, ← hmap]
      exact consistent_batchOf now window services scopes' _

end Sampling

end LabStream
