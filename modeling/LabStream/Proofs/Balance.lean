import Mathlib.Algebra.BigOperators.Group.Finset.Piecewise
import LabStream.Proofs.SamplerRun
import LabStream.Proofs.TrafficReport

namespace LabStream

variable {σ τ : Type} {b : TrafficBackend σ τ}

def Deed.reading? (table : Nat) : Deed → Option Tally
  | read n (some tally) => if n = table then some tally else none
  | _ => none

/-- The readings of a table, the first one before all ticks. -/
def readings (table : Nat) (deeds : List Deed) : List Tally := deeds.filterMap (Deed.reading? table)

@[simp] theorem readings_append (table : Nat) (before after : List Deed) :
    readings table (before ++ after) = readings table before ++ readings table after := List.filterMap_append

theorem readings_of_read (table n : Nat) (tally : Tally) :
    readings table [.read n (some tally)] = if n = table then [tally] else [] := by
  by_cases h : n = table <;> simp [readings, Deed.reading?, h]

/-- Nothing was loaded or read since, and the scope still has its table and its last reading. -/
structure Unread (l₀ : Ledger σ τ) (scope₀ : CountedScope (Numbered τ)) (l : Ledger σ τ)
    (scope : CountedScope (Numbered τ)) : Prop where
  tables : l.tables = l₀.tables
  readings : ∀ n, readings n l.deeds = LabStream.readings n l₀.deeds
  table : scope.table = scope₀.table
  previous : scope.previous = scope₀.previous

theorem Unread.refl (l : Ledger σ τ) (scope : CountedScope (Numbered τ)) : Unread l scope l scope :=
  ⟨rfl, fun _ => rfl, rfl, rfl⟩

theorem Unread.add {l₀ l : Ledger σ τ} {scope₀ scope scope' : CountedScope (Numbered τ)} {e : Entry σ}
    (h : Unread l₀ scope₀ l scope) (hd : ∀ n, e.deed.reading? n = none) (ht : scope'.table = scope.table)
    (hp : scope'.previous = scope.previous) : Unread l₀ scope₀ (l.add e) scope' where
  tables := h.tables
  readings n := by
    have hnone : LabStream.readings n [e.deed] = [] := by simp [LabStream.readings, hd]
    rw [Ledger.deeds_add, readings_append, hnone, List.append_nil, h.readings]
  table := ht.trans h.table
  previous := hp.trans h.previous

theorem Unread.kept (l₀ : Ledger σ τ) (scope₀ : CountedScope (Numbered τ)) :
    Ledger.Kept b (Unread l₀ scope₀) where
  named _ h := ⟨h.tables, h.readings, h.table, h.previous⟩
  listed _ h := h.add (fun _ => rfl) rfl rfl
  attached h _ _ := h.add (fun _ => rfl) rfl rfl
  refused h _ _ := h.add (fun _ => rfl) rfl rfl
  detached _ h _ := h.add (fun _ => rfl) rfl rfl

theorem Unread.reconcile (host : Traced (LedgerWorld σ τ)) (scope : CountedScope (Numbered τ)) :
    Unread host.world.ledger scope (scope.reconcile b.recorded host).1.world.ledger
      (scope.reconcile b.recorded host).2.1 :=
  (Unread.kept _ _).onHost.reconcile (.refl _ _)

/-- The scopes have all tables, in order, with their last readings, and what is told of every label is
what has come together in the readings. -/
structure Balanced (services : ServiceNames) (l : Ledger σ τ) (scopes : List (CountedScope (Numbered τ)))
    (told : Quantity → String → Rollup → Nat) : Prop where
  numbers : scopes.map (·.table.number) = List.range l.tables.length
  last : ∀ scope ∈ scopes, (readings scope.table.number l.deeds).getLast? = some scope.previous
  unread : ∀ n ≥ l.tables.length, readings n l.deeds = []
  balance : ∀ q label r, told q label r =
    ∑ n ∈ Finset.range l.tables.length, Tally.increases services label q (readings n l.deeds)

namespace Balanced

variable {services : ServiceNames} {l l' : Ledger σ τ} {before after : List (CountedScope (Numbered τ))}
  {scope scope' : CountedScope (Numbered τ)} {told : Quantity → String → Rollup → Nat}

theorem empty : Balanced services (.empty : Ledger σ τ) [] fun _ _ _ => 0 := by
  refine ⟨rfl, by simp, fun _ _ => rfl, fun _ _ _ => rfl⟩

theorem congr (h : Balanced services l before told) {told' : Quantity → String → Rollup → Nat}
    (heq : ∀ q label r, told' q label r = told q label r) : Balanced services l before told' :=
  ⟨h.numbers, h.last, h.unread, fun q label r => (heq q label r).trans (h.balance q label r)⟩

theorem outside (h : Balanced services l before told) {e : Entry σ} (he : ∀ n, e.deed.reading? n = none) :
    Balanced services (l.add e) before told := by
  have hsame : ∀ n, readings n (l.add e).deeds = readings n l.deeds := by
    intro n
    have hnone : readings n [e.deed] = [] := by simp [readings, he]
    rw [Ledger.deeds_add, readings_append, hnone, List.append_nil]
  refine ⟨h.numbers, ?_, ?_, ?_⟩
  · simpa only [hsame] using h.last
  · simpa only [hsame, Ledger.tables_add] using h.unread
  · simpa only [hsame, Ledger.tables_add] using h.balance

theorem number_lt (h : Balanced services l before told) (hs : scope ∈ before) :
    scope.table.number < l.tables.length := by
  have hm : scope.table.number ∈ before.map (·.table.number) := List.mem_map_of_mem hs
  rw [h.numbers] at hm
  exact List.mem_range.mp hm

theorem unread_scope (h : Balanced services l (before ++ scope :: after) told)
    (hu : Unread l scope l' scope') : Balanced services l' (before ++ scope' :: after) told := by
  have hnumbers : (before ++ scope' :: after).map (·.table.number) =
      (before ++ scope :: after).map (·.table.number) := by simp [hu.table]
  obtain ⟨hlast, hlasts⟩ := forall_mem_middle.mp h.last
  refine ⟨by rw [hnumbers, hu.tables]; exact h.numbers, ?_, ?_, ?_⟩
  · simp only [hu.readings]
    exact forall_mem_middle.mpr ⟨by rw [hu.table, hu.previous]; exact hlast, hlasts⟩
  · simpa only [hu.readings, hu.tables] using h.unread
  · simpa only [hu.readings, hu.tables] using h.balance

theorem read (h : Balanced services l (before ++ scope :: after) told) {e : Entry σ} {current : Tally}
    (he : e.deed = .read scope.table.number (some current)) :
    Balanced services (l.add e) (before ++ { scope with previous := current } :: after) fun q label r =>
      told q label r + Tally.increase services label q scope.previous current := by
  have hreadings : ∀ n, readings n (l.add e).deeds =
      readings n l.deeds ++ if scope.table.number = n then [current] else [] := by
    intro n
    rw [Ledger.deeds_add, readings_append, he, readings_of_read]
  obtain ⟨hlast, hlasts⟩ := forall_mem_middle.mp h.last
  have hlt : scope.table.number < l.tables.length := h.number_lt (by simp)
  refine ⟨?_, ?_, ?_, ?_⟩
  · rw [Ledger.tables_add, ← h.numbers]
    simp
  · refine forall_mem_middle.mpr ⟨by rw [hreadings]; simp, fun other ho => ?_⟩
    have hne := number_ne (h.numbers ▸ List.nodup_range) other ho
    rw [hreadings, if_neg hne.symm, List.append_nil]
    exact hlasts other ho
  · intro n hn
    have hne : scope.table.number ≠ n := by
      rw [Ledger.tables_add] at hn
      omega
    rw [hreadings, if_neg hne, List.append_nil]
    exact h.unread n hn
  · intro q label r
    -- Only the table that was read has one more reading.
    have hstep : ∀ n, Tally.increases services label q (readings n (l.add e).deeds) =
        Tally.increases services label q (readings n l.deeds) +
          if scope.table.number = n then Tally.increase services label q scope.previous current else 0 := by
      intro n
      rw [hreadings]
      by_cases hn : scope.table.number = n
      · rw [if_pos hn, if_pos hn, ← hn]
        exact Tally.increases_append services label q hlast current
      · rw [if_neg hn, if_neg hn, List.append_nil, Nat.add_zero]
    rw [Ledger.tables_add, Finset.sum_congr rfl fun n _ => hstep n, Finset.sum_add_distrib, Finset.sum_ite_eq,
      if_pos (Finset.mem_range.mpr hlt), h.balance]

theorem load (h : Balanced services l before told) (table : τ) (baseline : Tally)
    (ht : l'.tables = l.tables ++ [table]) (hs : scope.table.number = l.tables.length)
    (hp : scope.previous = baseline)
    (hr : ∀ n, readings n l'.deeds =
      readings n l.deeds ++ if scope.table.number = n then [baseline] else []) :
    Balanced services l' (before ++ [scope]) told := by
  have hlen : l'.tables.length = l.tables.length + 1 := by simp [ht]
  have hold : ∀ n, n ≠ l.tables.length → readings n l'.deeds = readings n l.deeds := by
    intro n hn
    rw [hr, hs, if_neg hn.symm, List.append_nil]
  have hnew : readings l.tables.length l'.deeds = [baseline] := by
    rw [hr, hs, if_pos rfl, h.unread _ (Nat.le_refl _), List.nil_append]
  refine ⟨?_, ?_, ?_, ?_⟩
  · rw [hlen, List.range_succ, ← h.numbers]
    simp [hs]
  · refine List.forall_mem_append.mpr ⟨fun other ho => ?_, List.forall_mem_singleton.mpr ?_⟩
    · rw [hold _ (Nat.ne_of_lt (h.number_lt ho))]
      exact h.last other ho
    · rw [hs, hnew, hp]
      rfl
  · intro n hn
    rw [hold n (by omega)]
    exact h.unread n (by omega)
  · intro q label r
    have hsame : ∀ n ∈ Finset.range l.tables.length, Tally.increases services label q (readings n l'.deeds) =
        Tally.increases services label q (readings n l.deeds) := by
      intro n hn
      rw [hold n (Nat.ne_of_lt (Finset.mem_range.mp hn))]
    rw [hlen, Finset.sum_range_succ, Finset.sum_congr rfl hsame, hnew, ← h.balance]
    rfl

end Balanced

end LabStream
