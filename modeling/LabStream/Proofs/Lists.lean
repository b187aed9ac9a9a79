import Mathlib.Data.List.Sort
import Mathlib.Data.List.TakeWhile
import Mathlib.Tactic.Tauto

namespace LabStream

variable {α : Type}

/-- A list is split where another one ends, or before. -/
theorem append_eq_append_cons {first more before after : List α} {a : α}
    (h : first ++ more = before ++ a :: after) :
    (∃ mid, first = before ++ a :: mid ∧ after = mid ++ more) ∨
      ∃ mid, before = first ++ mid ∧ more = mid ++ a :: after := by
  rcases List.append_eq_append_iff.mp h with ⟨mid, hbefore, hmore⟩ | ⟨mid, hfirst, hafter⟩
  · exact .inr ⟨mid, hbefore, hmore⟩
  · cases mid with
    | nil =>
      rw [List.append_nil] at hfirst
      exact .inr ⟨[], by rw [List.append_nil, hfirst], hafter.symm⟩
    | cons b mid =>
      obtain ⟨rfl, rfl⟩ := List.cons.inj hafter
      exact .inl ⟨mid, hfirst, rfl⟩

theorem flatMap_eq_append_cons {β : Type} {f : α → List β} {xs : List α} {before after : List β} {y : β}
    (h : xs.flatMap f = before ++ y :: after) :
    ∃ first x last start rest, xs = first ++ x :: last ∧ f x = start ++ y :: rest ∧
      after = rest ++ last.flatMap f := by
  induction xs generalizing before with
  | nil => simp at h
  | cons x xs ih =>
    rw [List.flatMap_cons, List.append_eq_append_iff] at h
    obtain ⟨start, rfl, htail⟩ | ⟨rest, hx, hrest⟩ := h
    · obtain ⟨first, z, last, start, rest, rfl, hz, ha⟩ := ih htail
      exact ⟨x :: first, z, last, start, rest, rfl, hz, ha⟩
    · cases rest with
      | nil =>
        have htail : xs.flatMap f = [] ++ y :: after := hrest.symm
        obtain ⟨first, z, last, start, rest, rfl, hz, ha⟩ := ih htail
        exact ⟨x :: first, z, last, start, rest, rfl, hz, ha⟩
      | cons z rest =>
        obtain ⟨rfl, ha⟩ := List.cons.inj hrest
        exact ⟨[], x, xs, before, rest, rfl, hx, ha⟩

/-- The last entry of its kind in a list, if there is one. -/
theorem last_of_kind (p : α → Prop) [DecidablePred p] (l : List α) :
    (∀ x ∈ l, ¬ p x) ∨ ∃ early x late, l = early ++ x :: late ∧ p x ∧ ∀ y ∈ late, ¬ p y := by
  induction l with
  | nil => simp
  | cons a l ih =>
    rcases ih with hnone | ⟨early, x, late, rfl, hx, hlate⟩
    · by_cases ha : p a
      · exact .inr ⟨[], a, l, rfl, ha, hnone⟩
      · exact .inl (List.forall_mem_cons.mpr ⟨ha, hnone⟩)
    · exact .inr ⟨a :: early, x, late, rfl, hx, hlate⟩

theorem getElem?_append_some {xs ys : List α} {n : Nat} {x : α} (h : xs[n]? = some x) :
    (xs ++ ys)[n]? = some x := by
  obtain ⟨hn, _⟩ := List.getElem?_eq_some_iff.mp h
  rw [List.getElem?_append_left hn, h]

theorem forall_mem_middle {p : α → Prop} {xs ys : List α} {x : α} :
    (∀ y ∈ xs ++ x :: ys, p y) ↔ p x ∧ ∀ y ∈ xs ++ ys, p y := by
  simp only [List.forall_mem_append, List.forall_mem_cons]
  tauto

section

variable {keep : α → Bool} {run rest : List α}

/-- A run ends where the rest begins with something else. -/
theorem takeWhile_run (hrun : ∀ a ∈ run, keep a) (hrest : ∀ a ∈ rest.head?, keep a = false) :
    (run ++ rest).takeWhile keep = run := by
  rw [List.takeWhile_append_of_pos hrun]
  cases rest with
  | nil => simp
  | cons a rest => simp [hrest a rfl]

theorem dropWhile_run (hrun : ∀ a ∈ run, keep a) (hrest : ∀ a ∈ rest.head?, keep a = false) :
    (run ++ rest).dropWhile keep = rest := by
  rw [List.dropWhile_append_of_pos hrun]
  cases rest with
  | nil => rfl
  | cons a rest => simp [hrest a rfl]

/-- A list is cut where a run at its beginning ends. -/
theorem exists_run (keep : α → Bool) (l : List α) :
    ∃ run rest, l = run ++ rest ∧ (∀ a ∈ run, keep a) ∧ ∀ a ∈ rest.head?, keep a = false := by
  refine ⟨l.takeWhile keep, l.dropWhile keep, List.takeWhile_append_dropWhile.symm,
    fun a => List.mem_takeWhile_imp, fun a ha => ?_⟩
  have hstop := List.head?_dropWhile_not keep l
  rw [ha] at hstop
  exact hstop

variable [DecidableEq α] {mark : α}

theorem takeWhile_until (hrun : mark ∉ run) (hrest : ∀ a ∈ rest.head?, a = mark) :
    (run ++ rest).takeWhile (· ≠ mark) = run :=
  takeWhile_run (fun _ ha => decide_eq_true fun heq => hrun (heq ▸ ha)) fun a ha => by simp [hrest a ha]

theorem dropWhile_until (hrun : mark ∉ run) (hrest : ∀ a ∈ rest.head?, a = mark) :
    (run ++ rest).dropWhile (· ≠ mark) = rest :=
  dropWhile_run (fun _ ha => decide_eq_true fun heq => hrun (heq ▸ ha)) fun a ha => by simp [hrest a ha]

end

section

variable {cmp : α → α → Ordering} [Std.TransCmp cmp]

theorem pairwise_mergeSort_isLE (l : List α) :
    (l.mergeSort fun a b => (cmp a b).isLE).Pairwise fun a b => (cmp a b).isLE := by
  refine List.pairwise_mergeSort (fun a b c => Std.TransCmp.isLE_trans) (fun a b => ?_) l
  have hswap : cmp a b = (cmp b a).swap := Std.OrientedCmp.eq_swap
  rw [hswap]
  cases cmp b a <;> rfl

/-- A comparison in which only equals tie leaves no choice of the order. -/
theorem mergeSort_eq_of_perm [Std.LawfulEqCmp cmp] {l others : List α} (h : l.Perm others) :
    (l.mergeSort fun a b => (cmp a b).isLE) = others.mergeSort fun a b => (cmp a b).isLE := by
  refine List.Perm.eq_of_pairwise (fun a b _ _ hab hba => ?_) (pairwise_mergeSort_isLE l)
    (pairwise_mergeSort_isLE others) ?_
  · exact Std.LawfulEqCmp.compare_eq_iff_eq.mp (Std.OrientedCmp.isLE_antisymm hab hba)
  · exact (List.mergeSort_perm _ _).trans (h.trans (List.mergeSort_perm _ _).symm)

end

end LabStream
