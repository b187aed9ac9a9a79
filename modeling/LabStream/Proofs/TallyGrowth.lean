import Mathlib.Algebra.BigOperators.Group.Finset.Basic
import Mathlib.Algebra.GroupWithZero.Nat
import Mathlib.Data.List.Chain
import LabStream.TrafficSums

namespace LabStream

/-- What can be counted of traffic. -/
inductive Quantity where
  | packets
  | bytes
  deriving DecidableEq

namespace Quantity

def of : Quantity → Volume → Nat
  | packets, v => v.packets
  | bytes, v => v.bytes

@[simp] theorem of_zero (q : Quantity) : q.of .zero = 0 := by cases q <;> rfl

@[simp] theorem of_add (q : Quantity) (v w : Volume) : q.of (v.add w) = q.of v + q.of w := by cases q <;> rfl

@[simp] theorem of_growth (q : Quantity) (v w : Volume) : q.of (v.growth w) = q.of v - q.of w := by
  cases q <;> rfl

end Quantity

section

variable {κ : Type} [Ord κ] [Std.TransOrd κ] [Std.LawfulEqOrd κ]

def weight (f : κ → Volume → Nat) (m : Std.ExtTreeMap κ Volume) : Nat := (m.toList.map fun p => f p.1 p.2).sum

/-- A measure that is additive in the volumes. -/
structure Additive (f : κ → Volume → Nat) : Prop where
  zero : ∀ key, f key .zero = 0
  add : ∀ key v w, f key (v.add w) = f key v + f key w

variable {f : κ → Volume → Nat} {m : Std.ExtTreeMap κ Volume}

theorem toList_eq_map_keys (m : Std.ExtTreeMap κ Volume) :
    m.toList = m.keys.map fun key => (key, m.getD key .zero) := by
  rw [← Std.ExtTreeMap.map_fst_toList_eq_keys, List.map_map]
  symm
  refine (List.map_congr_left fun p hp => ?_).trans m.toList.map_id
  have hg : m[p.1]? = some p.2 := Std.ExtTreeMap.mem_toList_iff_getElem?_eq_some.mp hp
  simp [Std.ExtTreeMap.getD_eq_getD_getElem?, hg]

variable [DecidableEq κ]

theorem weight_eq_sum (hf : Additive f) {keys : Finset κ} (hk : ∀ key ∈ m, key ∈ keys) :
    weight f m = ∑ key ∈ keys, f key (m.getD key .zero) := by
  have hsub : m.keys.toFinset ⊆ keys := fun key h => hk key (by simpa using h)
  have hrest : ∀ key ∈ keys, key ∉ m.keys.toFinset → f key (m.getD key .zero) = 0 := by
    intro key _ hn
    have hm : key ∉ m := by simpa using hn
    rw [Std.ExtTreeMap.getD_eq_fallback hm, hf.zero]
  rw [← Finset.sum_subset hsub hrest, List.sum_toFinset _ m.nodup_keys, weight, toList_eq_map_keys,
    List.map_map]
  rfl

theorem weight_insert_add (hf : Additive f) (m : Std.ExtTreeMap κ Volume) (key : κ) (v : Volume) :
    weight f (m.insert key ((m.getD key .zero).add v)) = weight f m + f key v := by
  -- Both weights are sums over the same keys, which differ at `key` alone.
  let keys := insert key m.keys.toFinset
  have hm : ∀ k ∈ m, k ∈ keys := fun k h => by simp [keys, h]
  have hi : ∀ k ∈ m.insert key ((m.getD key .zero).add v), k ∈ keys := by
    intro k h
    rw [Std.ExtTreeMap.mem_insert, Std.LawfulEqCmp.compare_eq_iff_eq] at h
    rcases h with rfl | h
    · simp [keys]
    · exact hm k h
  rw [weight_eq_sum hf hm, weight_eq_sum hf hi, ← Finset.add_sum_erase keys _ (Finset.mem_insert_self _ _),
    ← Finset.add_sum_erase keys (fun k => f k (m.getD k .zero)) (Finset.mem_insert_self _ _)]
  have hrest : ∀ k ∈ keys.erase key,
      f k ((m.insert key ((m.getD key .zero).add v)).getD k .zero) = f k (m.getD k .zero) := by
    intro k h
    have hne : key ≠ k := (Finset.ne_of_mem_erase h).symm
    rw [Std.ExtTreeMap.getD_insert, if_neg (by simpa using hne)]
  rw [Finset.sum_congr rfl hrest, Std.ExtTreeMap.getD_insert_self, hf.add]
  omega

end

/-- What a counter measures under a label. -/
def Quantity.under (q : Quantity) (services : ServiceNames) (label : String) (key : CounterKey) (v : Volume) :
    Nat :=
  if protocolLabel services key.bucket key.port = some label then q.of v else 0

theorem Quantity.under_additive (q : Quantity) (services : ServiceNames) (label : String) :
    Additive (q.under services label) where
  zero key := by simp [under]
  add key v w := by by_cases h : protocolLabel services key.bucket key.port = some label <;> simp [under, h]

namespace Tally

/-- A later reading has all counters of an earlier one, and none has gone down. -/
def GrowsTo (first second : Tally) : Prop :=
  ∀ (key : CounterKey) (v : Volume), first[key]? = some v →
    ∃ w, second[key]? = some w ∧ v.packets ≤ w.packets ∧ v.bytes ≤ w.bytes

instance : DecidableRel GrowsTo := fun first second =>
  decidable_of_iff (∀ p ∈ first.toList, ∃ w ∈ second[p.1]?, p.2.packets ≤ w.packets ∧ p.2.bytes ≤ w.bytes) <| by
    simp [GrowsTo]

theorem GrowsTo.refl (t : Tally) : t.GrowsTo t := fun _ v h => ⟨v, h, Nat.le_refl _, Nat.le_refl _⟩

theorem GrowsTo.trans {s t u : Tally} (hst : s.GrowsTo t) (htu : t.GrowsTo u) : s.GrowsTo u := by
  intro key v h
  obtain ⟨v', h', hp', hb'⟩ := hst key v h
  obtain ⟨v'', h'', hp'', hb''⟩ := htu key v' h'
  exact ⟨v'', h'', Nat.le_trans hp' hp'', Nat.le_trans hb' hb''⟩

theorem GrowsTo.le {first last : Tally} (h : first.GrowsTo last) (q : Quantity) (key : CounterKey) :
    q.of (first.getD key .zero) ≤ q.of (last.getD key .zero) := by
  simp only [Std.ExtTreeMap.getD_eq_getD_getElem?]
  cases hk : first[key]? with
  | none => simp
  | some v =>
    obtain ⟨v', h', hp, hb⟩ := h key v hk
    cases q <;> simpa [h', Quantity.of]

theorem getD_growth (first last : Tally) (key : CounterKey) :
    (first.growth last).getD key .zero = (last.getD key .zero).growth (first.getD key .zero) := by
  rw [growth, Std.ExtTreeMap.getD_filterMap', Std.ExtTreeMap.getD_eq_getD_getElem? (t := last)]
  cases last[key]? with
  | none => simp [Volume.growth, Volume.zero]
  | some v =>
    simp only [Option.bind_some, Option.getD_some]
    split
    next h => exact h.symm
    next => rfl

/-- The difference of two readings, over all counters with a label. -/
def increase (services : ServiceNames) (label : String) (q : Quantity) (first last : Tally) : Nat :=
  ((last.keys.filter fun key => protocolLabel services key.bucket key.port = some label).map fun key =>
    q.of (last.getD key .zero) - q.of (first.getD key .zero)).sum

variable (services : ServiceNames) (label : String) (q : Quantity)

theorem increase_eq_sum (first last : Tally) : increase services label q first last =
    ∑ key ∈ last.keys.toFinset,
      q.under services label key ((last.getD key .zero).growth (first.getD key .zero)) := by
  rw [List.sum_toFinset _ last.nodup_keys, increase]
  induction last.keys with
  | nil => rfl
  | cons key keys ih =>
    by_cases h : protocolLabel services key.bucket key.port = some label
    · simp [h, ih, Quantity.under]
    · simp [h, ih, Quantity.under]

/-- What has grown weighs as much as the readings differ. -/
theorem weight_growth (first last : Tally) :
    weight (q.under services label) (first.growth last) = increase services label q first last := by
  have hk : ∀ key ∈ first.growth last, key ∈ last.keys.toFinset := by
    intro key h
    simpa using Std.ExtTreeMap.mem_of_mem_filterMap h
  rw [weight_eq_sum (q.under_additive services label) hk, increase_eq_sum]
  simp only [getD_growth]

theorem weight_add_increase {first last : Tally} (h : first.GrowsTo last) :
    weight (q.under services label) first + increase services label q first last =
      weight (q.under services label) last := by
  have hadd := q.under_additive services label
  have hfirst : ∀ key ∈ first, key ∈ last.keys.toFinset := by
    intro key hk
    obtain ⟨w, hw, -⟩ := h key first[key] (Std.ExtTreeMap.getElem?_eq_some_getElem hk)
    simpa using Std.ExtTreeMap.mem_iff_isSome_getElem?.mpr (by simp [hw])
  have hlast : ∀ key ∈ last, key ∈ last.keys.toFinset := by simp
  rw [weight_eq_sum hadd hfirst, weight_eq_sum hadd hlast, increase_eq_sum, ← Finset.sum_add_distrib]
  refine Finset.sum_congr rfl fun key _ => ?_
  have hle := h.le q key
  by_cases hl : protocolLabel services key.bucket key.port = some label
  · simp only [Quantity.under, if_pos hl, Quantity.of_growth]
    omega
  · simp only [Quantity.under, if_neg hl]

/-- The increases from each reading to the next one. -/
def increases (services : ServiceNames) (label : String) (q : Quantity) : List Tally → Nat
  | first :: second :: rest =>
    increase services label q first second + increases services label q (second :: rest)
  | _ => 0

theorem increases_append {readings : List Tally} {last : Tally} (h : readings.getLast? = some last) (t : Tally) :
    increases services label q (readings ++ [t]) =
      increases services label q readings + increase services label q last t := by
  induction readings with
  | nil => simp at h
  | cons first rest ih =>
    cases rest with
    | nil =>
      obtain rfl : first = last := by simpa using h
      simp [increases]
    | cons second rest =>
      have hrest := ih (by simpa using h)
      simp only [List.cons_append, increases] at hrest ⊢
      omega

theorem weight_add_increases {first : Tally} {rest : List Tally} (h : (first :: rest).IsChain GrowsTo) :
    first.GrowsTo (rest.getLastD first) ∧
      weight (q.under services label) first + increases services label q (first :: rest) =
        weight (q.under services label) (rest.getLastD first) := by
  induction rest generalizing first with
  | nil => exact ⟨.refl first, rfl⟩
  | cons second rest ih =>
    obtain ⟨hgrow, htail⟩ := List.isChain_cons_cons.mp h
    obtain ⟨hlast, hsum⟩ := ih htail
    have hstep := weight_add_increase services label q hgrow
    rw [List.getLastD_cons]
    refine ⟨hgrow.trans hlast, ?_⟩
    simp only [increases]
    omega

/-- Readings that only grow increase by as much as the last one exceeds the first one. -/
theorem increases_eq {readings : List Tally} (h : readings.IsChain GrowsTo) :
    increases services label q readings =
      increase services label q (readings.headD ∅) (readings.getLastD ∅) := by
  cases readings with
  | nil => rfl
  | cons first rest =>
    obtain ⟨hgrow, hsum⟩ := weight_add_increases services label q h
    have hall := weight_add_increase services label q hgrow
    rw [List.headD_cons, List.getLastD_cons]
    omega

end Tally

end LabStream
