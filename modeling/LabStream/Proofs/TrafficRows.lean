import Mathlib.Algebra.GroupWithZero.Nat
import Mathlib.Data.List.Induction
import Mathlib.Data.List.Perm.Basic
import Mathlib.Data.String.Basic
import Mathlib.Tactic.Tauto
import LabStream.TrafficSums
import LabStream.Proofs.Lists

namespace LabStream

namespace Volume

def total (volumes : List Volume) : Volume := ⟨(volumes.map packets).sum, (volumes.map bytes).sum⟩

theorem total_of_perm {volumes others : List Volume} (h : volumes.Perm others) : total volumes = total others := by
  rw [total, total, (h.map packets).sum_nat, (h.map bytes).sum_nat]

theorem total_append_singleton (volumes : List Volume) (v : Volume) :
    total (volumes ++ [v]) = (total volumes).add v := by
  simp [total, add]

end Volume

section

variable {κ : Type}

/-- The volumes of a key among many. -/
def volumesOf [DecidableEq κ] (key : κ) (items : List (κ × Volume)) : List Volume :=
  (items.filter (·.1 = key)).map (·.2)

theorem volumesOf_perm [DecidableEq κ] {items others : List (κ × Volume)} (h : items.Perm others) (key : κ) :
    (volumesOf key items).Perm (volumesOf key others) :=
  (h.filter _).map _

theorem volumesOf_append [DecidableEq κ] (key : κ) (items others : List (κ × Volume)) :
    volumesOf key (items ++ others) = volumesOf key items ++ volumesOf key others := by
  rw [volumesOf, List.filter_append, List.map_append]
  rfl

theorem volumesOf_singleton [DecidableEq κ] (key : κ) (item : κ × Volume) :
    volumesOf key [item] = if item.1 = key then [item.2] else [] := by
  by_cases h : item.1 = key <;> simp [volumesOf, h]

/-- More bytes come first, then more packets, and among rows of one volume `tie` decides. -/
def RowBefore (tie : κ → κ → Prop) (a b : κ × Volume) : Prop :=
  b.2.bytes < a.2.bytes ∨ b.2.bytes = a.2.bytes ∧
    (b.2.packets < a.2.packets ∨ b.2.packets = a.2.packets ∧ tie a.1 b.1)

theorem RowBefore.imp {tie tie' : κ → κ → Prop} {a b : κ × Volume} (h : RowBefore tie a b)
    (himp : tie a.1 b.1 → tie' a.1 b.1) : RowBefore tie' a b :=
  h.imp_right fun ⟨hbytes, hrest⟩ => ⟨hbytes, hrest.imp_right fun ⟨hpackets, htie⟩ => ⟨hpackets, himp htie⟩⟩

variable [Ord κ]

/-- Heavier rows come first, and among rows of one volume those of the lesser key. -/
def compareRows (a b : κ × Volume) : Ordering := (TrafficSums.heavier a.2 b.2).then (compare a.1 b.1)

theorem compareRows_eq_lt_iff (a b : κ × Volume) :
    compareRows a b = .lt ↔ RowBefore (fun x y => compare x y = .lt) a b := by
  simp only [RowBefore, compareRows, TrafficSums.heavier, Ordering.then_eq_lt, Ordering.then_eq_eq,
    Nat.compare_eq_lt, Nat.compare_eq_eq]
  tauto

variable [Std.TransOrd κ]

instance : Std.TransCmp (compareRows : κ × Volume → κ × Volume → Ordering) :=
  inferInstanceAs (Std.TransCmp (compareLex
    (compareLex (fun a b => compareOn (fun row : κ × Volume => row.2.bytes) b a)
      fun a b => compareOn (fun row => row.2.packets) b a)
    (compareOn fun row => row.1)))

/-- Adds volumes one after the other, each to what is there under its key. -/
def addVolumes (m : Std.ExtTreeMap κ Volume) (items : List (κ × Volume)) : Std.ExtTreeMap κ Volume :=
  items.foldl (fun m item => m.insert item.1 ((m.getD item.1 .zero).add item.2)) m

/-- The rows of a map, in the order in which sums are shown. -/
def orderedRows (m : Std.ExtTreeMap κ Volume) : List (κ × Volume) :=
  m.toList.mergeSort fun a b => (compareRows a b).isLE

theorem orderedRows_perm (m : Std.ExtTreeMap κ Volume) : (orderedRows m).Perm m.toList := List.mergeSort_perm _ _

theorem nodup_keys_orderedRows (m : Std.ExtTreeMap κ Volume) : ((orderedRows m).map (·.1)).Nodup := by
  rw [((orderedRows_perm m).map _).nodup_iff, Std.ExtTreeMap.map_fst_toList_eq_keys]
  exact m.nodup_keys

variable [Std.LawfulEqOrd κ]

/-- Under a key there is in the end the total of its volumes, if it has any. -/
theorem getElem?_addVolumes [DecidableEq κ] (items : List (κ × Volume)) (key : κ) :
    (addVolumes ∅ items)[key]? =
      if volumesOf key items = [] then none else some (.total (volumesOf key items)) := by
  -- The last volume comes on top of what is there, so the induction takes volumes off the end.
  induction items using List.reverseRecOn with
  | nil => exact Std.ExtTreeMap.getElem?_empty
  | append_singleton items item ih =>
    have hstep : addVolumes ∅ (items ++ [item]) =
        (addVolumes ∅ items).insert item.1 (((addVolumes ∅ items).getD item.1 .zero).add item.2) := by
      rw [addVolumes, List.foldl_append]
      rfl
    rw [hstep, volumesOf_append, volumesOf_singleton, Std.ExtTreeMap.getElem?_insert]
    simp only [Std.LawfulEqCmp.compare_eq_iff_eq]
    split
    next heq =>
      subst heq
      rw [if_neg (by simp), Volume.total_append_singleton, Std.ExtTreeMap.getD_eq_getD_getElem?, ih]
      split
      next hnone =>
        rw [hnone]
        rfl
      next => rfl
    next => rw [List.append_nil, ih]

theorem addVolumes_of_perm [DecidableEq κ] {items others : List (κ × Volume)} (h : items.Perm others) :
    addVolumes ∅ items = addVolumes ∅ others := by
  refine Std.ExtTreeMap.ext_getElem? fun key => ?_
  have hkey := volumesOf_perm h key
  have hnil : volumesOf key items = [] ↔ volumesOf key others = [] := by
    rw [← List.length_eq_zero_iff, hkey.length_eq, List.length_eq_zero_iff]
  simp only [getElem?_addVolumes, Volume.total_of_perm hkey, hnil]

theorem mem_orderedRows_iff {m : Std.ExtTreeMap κ Volume} {key : κ} {v : Volume} :
    (key, v) ∈ orderedRows m ↔ m[key]? = some v := by
  rw [(orderedRows_perm m).mem_iff, Std.ExtTreeMap.mem_toList_iff_getElem?_eq_some]

/-- No two rows of a map tie, since their keys differ. -/
theorem pairwise_orderedRows (m : Std.ExtTreeMap κ Volume) :
    (orderedRows m).Pairwise (RowBefore fun x y => compare x y = .lt) := by
  have hsorted : (orderedRows m).Pairwise fun a b => (compareRows a b).isLE := pairwise_mergeSort_isLE m.toList
  refine hsorted.imp₂ (fun a b hle hne => ?_) (List.pairwise_map.mp (nodup_keys_orderedRows m))
  rw [← compareRows_eq_lt_iff]
  refine (Ordering.isLE_iff_eq_lt_or_eq_eq.mp hle).resolve_right fun heq => hne ?_
  exact Std.LawfulEqCmp.compare_eq_iff_eq.mp (Ordering.then_eq_eq.mp heq).2

/-- The rows of volumes: the total of every key that occurs, once, and all in strict order. -/
structure RowsOf [DecidableEq κ] (tie : κ → κ → Prop) (items rows : List (κ × Volume)) : Prop where
  totals : ∀ (key : κ) (v : Volume), (key, v) ∈ rows ↔ volumesOf key items ≠ [] ∧ v = .total (volumesOf key items)
  distinct : (rows.map (·.1)).Nodup
  ordered : rows.Pairwise (RowBefore tie)

theorem rowsOf_orderedRows [DecidableEq κ] {tie : κ → κ → Prop} (htie : ∀ x y, compare x y = .lt ↔ tie x y)
    (items : List (κ × Volume)) : RowsOf tie items (orderedRows (addVolumes ∅ items)) where
  totals key v := by
    rw [mem_orderedRows_iff, getElem?_addVolumes]
    by_cases hnone : volumesOf key items = []
    · simp [hnone]
    · simp [hnone, eq_comm]
  distinct := nodup_keys_orderedRows _
  ordered := (pairwise_orderedRows _).imp fun h => h.imp (htie _ _).mp

end

/-- Among what is summed up for an interface, its name decides first. -/
def InterfaceProtocol.Before (a b : InterfaceProtocol) : Prop :=
  a.interface < b.interface ∨ a.interface = b.interface ∧ a.protocol < b.protocol

theorem InterfaceProtocol.compare_eq_lt_iff (a b : InterfaceProtocol) : compare a b = .lt ↔ a.Before b := by
  have h : compare a b = (compare a.interface b.interface).then (compare a.protocol b.protocol) := rfl
  rw [h, Ordering.then_eq_lt, Std.LawfulEqCmp.compare_eq_iff_eq, compare_lt_iff_lt, compare_lt_iff_lt, Before]

/-- What one scope gives to the sums of a tick. -/
structure Contribution where
  qualifier : Option String
  names : LinkNames
  growth : Tally

/-- What counters give to the sums, each at its interface and protocol; those without a label give nothing. -/
def Contribution.placed (services : ServiceNames) (c : Contribution) (counters : List (CounterKey × Volume)) :
    List (InterfaceProtocol × Volume) :=
  counters.filterMap fun counter =>
    (protocolLabel services counter.1.bucket counter.1.port).map fun protocol =>
      (⟨TrafficSums.interfaceName c.qualifier c.names counter.1.ifindex, protocol⟩, counter.2)

/-- Volumes by protocol alone. -/
def byProtocol (items : List (InterfaceProtocol × Volume)) : List (String × Volume) :=
  items.map fun item => (item.1.protocol, item.2)

theorem byProtocol_append (items others : List (InterfaceProtocol × Volume)) :
    byProtocol (items ++ others) = byProtocol items ++ byProtocol others := List.map_append

namespace TrafficSums

def addPlaced (sums : TrafficSums) (items : List (InterfaceProtocol × Volume)) : TrafficSums where
  global := addVolumes sums.global (byProtocol items)
  interfaces := addVolumes sums.interfaces items

theorem addPlaced_append (sums : TrafficSums) (items others : List (InterfaceProtocol × Volume)) :
    sums.addPlaced (items ++ others) = (sums.addPlaced items).addPlaced others := by
  simp [addPlaced, addVolumes, byProtocol]

theorem addPlaced_of_perm {items others : List (InterfaceProtocol × Volume)} (h : items.Perm others) :
    empty.addPlaced items = empty.addPlaced others := by
  have hglobal : addVolumes empty.global (byProtocol items) = addVolumes empty.global (byProtocol others) :=
    addVolumes_of_perm (h.map _)
  have hinterfaces : addVolumes empty.interfaces items = addVolumes empty.interfaces others :=
    addVolumes_of_perm h
  rw [addPlaced, addPlaced, hglobal, hinterfaces]

variable (services : ServiceNames)

/-- Adds the counters of a scope one after the other. -/
def addCounters (sums : TrafficSums) (c : Contribution) (counters : List (CounterKey × Volume)) : TrafficSums :=
  counters.foldl (fun sums (key, v) => addCounter c.qualifier c.names services sums key v) sums

theorem addCounters_eq (sums : TrafficSums) (c : Contribution) (counters : List (CounterKey × Volume)) :
    addCounters services sums c counters = sums.addPlaced (c.placed services counters) := by
  induction counters generalizing sums with
  | nil => rfl
  | cons counter rest ih =>
    have hstep : addCounters services sums c (counter :: rest) =
        addCounters services (addCounter c.qualifier c.names services sums counter.1 counter.2) c rest := rfl
    rw [hstep, ih]
    unfold Contribution.placed addCounter
    rw [List.filterMap_cons]
    cases protocolLabel services counter.1.bucket counter.1.port <;> rfl

/-- The sums when the counters of every scope come in an order of their own. -/
def gather (visits : List (Contribution × List (CounterKey × Volume))) : TrafficSums :=
  visits.foldl (fun sums visit => addCounters services sums visit.1 visit.2) empty

theorem gather_eq (visits : List (Contribution × List (CounterKey × Volume))) :
    gather services visits = empty.addPlaced (visits.flatMap fun visit => visit.1.placed services visit.2) := by
  induction visits using List.reverseRecOn with
  | nil => rfl
  | append_singleton visits visit ih =>
    have hstep : gather services (visits ++ [visit]) =
        addCounters services (gather services visits) visit.1 visit.2 := by
      rw [gather, List.foldl_append]
      rfl
    rw [hstep, addCounters_eq, ih, List.flatMap_append, addPlaced_append, List.flatMap_singleton]

/-- The sums of scopes that are added one after the other. -/
def ofScopes (scopes : List Contribution) : TrafficSums :=
  scopes.foldl (fun sums c => sums.addScope c.qualifier c.names c.growth services) empty

/-- What all scopes give to the sums together. -/
def placedOf (scopes : List Contribution) : List (InterfaceProtocol × Volume) :=
  scopes.flatMap fun c => c.placed services c.growth.toList

theorem placedOf_cons (c : Contribution) (scopes : List Contribution) : placedOf services (c :: scopes) =
    c.placed services c.growth.toList ++ placedOf services scopes := List.flatMap_cons

theorem ofScopes_eq (scopes : List Contribution) :
    ofScopes services scopes = empty.addPlaced (placedOf services scopes) := by
  have h := gather_eq services (scopes.map fun c => (c, c.growth.toList))
  rwa [gather, List.foldl_map, List.flatMap_map] at h

variable {services} in
/-- Neither the order of the scopes nor that of their counters matters. -/
theorem gather_eq_ofScopes {scopes : List Contribution} {visits : List (Contribution × List (CounterKey × Volume))}
    (hscopes : (visits.map (·.1)).Perm scopes) (hcounters : ∀ visit ∈ visits, visit.2.Perm visit.1.growth.toList) :
    gather services visits = ofScopes services scopes := by
  have hitems : (visits.flatMap fun visit => visit.1.placed services visit.2).Perm (placedOf services scopes) := by
    refine (List.Perm.flatMap_left visits fun visit h => (hcounters visit h).filterMap _).trans ?_
    have hmap := List.flatMap_map (f := fun visit => visit.1) (g := fun c => c.placed services c.growth.toList) visits
    exact hmap ▸ hscopes.flatMap_right _
  rw [gather_eq, ofScopes_eq, addPlaced_of_perm hitems]

theorem rowsOf_globalRows (items : List (InterfaceProtocol × Volume)) :
    RowsOf (· < ·) (byProtocol items) (empty.addPlaced items).globalRows :=
  rowsOf_orderedRows (fun _ _ => compare_lt_iff_lt) (byProtocol items)

theorem rowsOf_interfaceRows (items : List (InterfaceProtocol × Volume)) :
    RowsOf InterfaceProtocol.Before items (empty.addPlaced items).interfaceRows :=
  rowsOf_orderedRows InterfaceProtocol.compare_eq_lt_iff items

/-- In whatever order the scopes come, and the counters of each, the rows are the same: one for every
protocol, and one for every interface and protocol, in strict order. -/
theorem rows_of_any_order {scopes : List Contribution} {visits : List (Contribution × List (CounterKey × Volume))}
    (hscopes : (visits.map (·.1)).Perm scopes) (hcounters : ∀ visit ∈ visits, visit.2.Perm visit.1.growth.toList) :
    (gather services visits).globalRows = (ofScopes services scopes).globalRows ∧
      (gather services visits).interfaceRows = (ofScopes services scopes).interfaceRows ∧
      RowsOf (· < ·) (byProtocol (placedOf services scopes)) (ofScopes services scopes).globalRows ∧
      RowsOf InterfaceProtocol.Before (placedOf services scopes) (ofScopes services scopes).interfaceRows := by
  rw [gather_eq_ofScopes hscopes hcounters, ofScopes_eq]
  exact ⟨rfl, rfl, rowsOf_globalRows _, rowsOf_interfaceRows _⟩

/-- A port that has the name of a bucket, counted in two scopes that come in the other order. -/
theorem rows_of_any_order_at_bgp :
    let services := ServiceNames.ofText "bgp 179/tcp"
    let host : Contribution := ⟨none, ∅, .ofPairs [(⟨2, 0, 4, 0⟩, ⟨1, 64⟩), (⟨2, 1, 8, 0⟩, ⟨3, 300⟩)]⟩
    let router : Contribution :=
      ⟨some "r1", ∅, .ofPairs [(⟨7, 0, 4, 0⟩, ⟨4, 436⟩), (⟨7, 1, 6, 179⟩, ⟨2, 200⟩), (⟨7, 1, 12, 0⟩, ⟨1, 60⟩)]⟩
    let visits := [(router, router.growth.toList.reverse), (host, host.growth.toList.reverse)]
    (gather services visits).globalRows = [("bgp/tcp", ⟨5, 500⟩), ("icmp", ⟨5, 500⟩)] := by
  intro services host router visits
  have hscopes : (visits.map (·.1)).Perm [host, router] := .swap _ _ _
  have hcounters : ∀ visit ∈ visits, visit.2.Perm visit.1.growth.toList := by
    intro visit h
    obtain rfl | rfl : visit = _ ∨ visit = _ := by simpa [visits] using h
    · exact List.reverse_perm _
    · exact List.reverse_perm _
  have hsums : (ofScopes services [host, router]).global.toList = [("bgp/tcp", ⟨5, 500⟩), ("icmp", ⟨5, 500⟩)] := by
    decide +kernel
  rw [(rows_of_any_order services hscopes hcounters).1, globalRows, hsums]
  exact List.mergeSort_of_pairwise (by decide +kernel)

end TrafficSums

end LabStream
