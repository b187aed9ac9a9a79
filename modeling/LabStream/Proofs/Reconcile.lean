import Mathlib.Tactic.Tauto
import LabStream.Sampling

namespace LabStream

namespace CountedScope

variable {σ τ : Type} {b : TrafficBackend σ τ}

theorem attachOne_attached {host : Traced σ} {scope : CountedScope τ} {fault : Option TrafficFault}
    {ifname : String} (h : ifname ∈ scope.attached) :
    attachOne b (host, scope, fault) ifname = (host, scope, fault) := by
  simp [attachOne, Std.ExtTreeSet.contains_iff_mem.mpr h]

theorem attachOne_done {host : Traced σ} {scope : CountedScope τ} {fault : Option TrafficFault}
    {ifname : String} {world : σ} (h : ifname ∉ scope.attached)
    (hb : b.attach scope.table ifname host.world = (world, .ok ())) :
    attachOne b (host, scope, fault) ifname =
      (⟨world, host.calls ++ [.attach scope.spec.id ifname true]⟩,
        { scope with attached := scope.attached.insert ifname }, fault) := by
  have hc : scope.attached.contains ifname = false := by
    simpa [← Std.ExtTreeSet.contains_iff_mem] using h
  simp [attachOne, hc, Traced.performNoting, hb, Except.toOption]

theorem attachOne_refused {host : Traced σ} {scope : CountedScope τ} {fault : Option TrafficFault}
    {ifname : String} {world : σ} {e : TrafficFault} (h : ifname ∉ scope.attached)
    (hb : b.attach scope.table ifname host.world = (world, .error e)) :
    attachOne b (host, scope, fault) ifname =
      (⟨world, host.calls ++ [.attach scope.spec.id ifname false]⟩, scope, fault.or (some e)) := by
  have hc : scope.attached.contains ifname = false := by
    simpa [← Std.ExtTreeSet.contains_iff_mem] using h
  simp [attachOne, hc, Traced.performNoting, hb, Except.toOption]

theorem detachOne_eq (state : Traced σ × CountedScope τ) (ifname : String) :
    detachOne b state ifname =
      (⟨b.detach state.2.table ifname state.1.world, state.1.calls ++ [.detach state.2.spec.id ifname]⟩,
        { state.2 with attached := state.2.attached.erase ifname }) := rfl

theorem mem_detachEach (names : List String) (state : Traced σ × CountedScope τ) (name : String) :
    name ∈ (names.foldl (detachOne b) state).2.attached ↔ name ∈ state.2.attached ∧ name ∉ names := by
  induction names generalizing state with
  | nil => simp
  | cons first names ih =>
    rw [List.foldl_cons, ih]
    simp only [detachOne_eq, Std.ExtTreeSet.mem_erase, ne_eq, Std.LawfulEqCmp.compare_eq_iff_eq,
      List.mem_cons, not_or, @eq_comm _ first]
    tauto

theorem detachAll_attached (host : Traced σ) (scope : CountedScope τ) :
    (detachAll b host scope).2.attached = ∅ := by
  refine Std.ExtTreeSet.eq_empty_iff_forall_not_mem.mpr fun name hn => ?_
  obtain ⟨hm, hnot⟩ := (mem_detachEach _ _ name).mp hn
  exact hnot (Std.ExtTreeSet.mem_toList.mpr hm)

def stale (scope : CountedScope τ) (wanted : List String) : List String :=
  scope.attached.toList.filter fun name => !wanted.contains name

theorem mem_stale {scope : CountedScope τ} {wanted : List String} {name : String} :
    name ∈ scope.stale wanted ↔ name ∈ scope.attached ∧ name ∉ wanted := by
  simp [stale]

theorem reconcile_failed {host : Traced σ} {scope : CountedScope τ} {world : σ} {e : TrafficFault}
    (hb : b.links scope.table host.world = (world, .error e)) :
    reconcile b host scope = (⟨world, host.calls ++ [.scopeLinks scope.spec.id]⟩, scope, none) := by
  simp [reconcile, Traced.perform, hb]

theorem reconcile_idle {host : Traced σ} {scope : CountedScope τ} {world : σ} {links : List Link}
    (hb : b.links scope.table host.world = (world, .ok links)) (hd : desiredInterfaces links = []) :
    reconcile b host scope = (⟨world, host.calls ++ [.scopeLinks scope.spec.id]⟩,
      { scope with names := linkNames links }, none) := by
  simp [reconcile, Traced.perform, hb, hd]

/-- Detaches from what is not wanted after the attempts to attach. -/
def detachUnwanted (b : TrafficBackend σ τ) (wanted : List String)
    (tried : Traced σ × CountedScope τ × Option TrafficFault) :
    Traced σ × CountedScope τ × Option TrafficFault :=
  let left := (tried.2.1.stale wanted).foldl (detachOne b) (tried.1, tried.2.1)
  (left.1, left.2, if left.2.attached.isEmpty then tried.2.2 else none)

theorem mem_detachUnwanted {wanted : List String} {tried : Traced σ × CountedScope τ × Option TrafficFault}
    {name : String} : name ∈ (detachUnwanted b wanted tried).2.1.attached ↔
      name ∈ tried.2.1.attached ∧ name ∈ wanted := by
  rw [detachUnwanted, mem_detachEach, mem_stale]
  tauto

/-- A reconciliation with wishes: the attempts to attach, then the removal of what is stale. -/
theorem reconcile_busy {host : Traced σ} {scope : CountedScope τ} {world : σ} {links : List Link}
    (hb : b.links scope.table host.world = (world, .ok links)) (hd : desiredInterfaces links ≠ []) :
    reconcile b host scope = detachUnwanted b (desiredInterfaces links)
      ((desiredInterfaces links).foldl (attachOne b)
        (⟨world, host.calls ++ [.scopeLinks scope.spec.id]⟩, { scope with names := linkNames links }, none)) := by
  simp [reconcile, Traced.perform, hb, hd, stale, detachUnwanted]

/-- What holds of a world and a scope at work in it whatever calls are made for the scope. -/
structure Kept (b : TrafficBackend σ τ) (P : Traced σ → CountedScope τ → Prop) : Prop where
  named : ∀ {host scope} (names : LinkNames), P host scope → P host { scope with names }
  listed : ∀ {host scope}, P host scope →
    P (host.perform (.scopeLinks scope.spec.id) (b.links scope.table)).1 scope
  attached : ∀ {host scope ifname world}, P host scope → ifname ∉ scope.attached →
    b.attach scope.table ifname host.world = (world, .ok ()) →
    P ⟨world, host.calls ++ [.attach scope.spec.id ifname true]⟩
      { scope with attached := scope.attached.insert ifname }
  refused : ∀ {host scope ifname world e}, P host scope → ifname ∉ scope.attached →
    b.attach scope.table ifname host.world = (world, .error e) →
    P ⟨world, host.calls ++ [.attach scope.spec.id ifname false]⟩ scope
  detached : ∀ {host scope ifname}, P host scope → ifname ∈ scope.attached →
    P ⟨b.detach scope.table ifname host.world, host.calls ++ [.detach scope.spec.id ifname]⟩
      { scope with attached := scope.attached.erase ifname }

namespace Kept

variable {P : Traced σ → CountedScope τ → Prop}

theorem attachOne (k : Kept b P) {host : Traced σ} {scope : CountedScope τ}
    {fault : Option TrafficFault} (ifname : String) (h : P host scope) :
    P (CountedScope.attachOne b (host, scope, fault) ifname).1
      (CountedScope.attachOne b (host, scope, fault) ifname).2.1 := by
  by_cases hm : ifname ∈ scope.attached
  · rw [attachOne_attached hm]
    exact h
  · obtain ⟨world, result, hb⟩ : ∃ world result,
        b.attach scope.table ifname host.world = (world, result) := ⟨_, _, rfl⟩
    cases result with
    | ok _ =>
      rw [attachOne_done hm hb]
      exact k.attached h hm hb
    | error e =>
      rw [attachOne_refused hm hb]
      exact k.refused h hm hb

theorem attachAll (k : Kept b P) (names : List String)
    {state : Traced σ × CountedScope τ × Option TrafficFault} (h : P state.1 state.2.1) :
    P (names.foldl (CountedScope.attachOne b) state).1
      (names.foldl (CountedScope.attachOne b) state).2.1 := by
  induction names generalizing state with
  | nil => exact h
  | cons name names ih => exact ih (k.attachOne name h)

/-- The names must differ, so that each is still attached when its turn comes. -/
theorem detachEach (k : Kept b P) {names : List String} {state : Traced σ × CountedScope τ}
    (hn : names.Nodup) (hm : ∀ name ∈ names, name ∈ state.2.attached) (h : P state.1 state.2) :
    P (names.foldl (detachOne b) state).1 (names.foldl (detachOne b) state).2 := by
  induction names generalizing state with
  | nil => exact h
  | cons name names ih =>
    obtain ⟨hnot, hn'⟩ := List.nodup_cons.mp hn
    refine ih hn' ?_ (k.detached h (hm name List.mem_cons_self))
    intro other ho
    have hne : name ≠ other := fun he => hnot (he ▸ ho)
    exact Std.ExtTreeSet.mem_erase.mpr ⟨by simpa using hne, hm other (List.mem_cons_of_mem name ho)⟩

end Kept

theorem attached_toList_nodup (scope : CountedScope τ) : scope.attached.toList.Nodup :=
  scope.attached.distinct_toList.imp fun h he => h (by simp [he])

/-- What every call for a scope keeps is kept by its reconciliation. -/
theorem Kept.reconcile {P : Traced σ → CountedScope τ → Prop} (k : Kept b P) {host : Traced σ}
    {scope : CountedScope τ} (h : P host scope) :
    P (CountedScope.reconcile b host scope).1 (CountedScope.reconcile b host scope).2.1 := by
  obtain ⟨world, result, hb⟩ : ∃ world result, b.links scope.table host.world = (world, result) := ⟨_, _, rfl⟩
  have hl : P ⟨world, host.calls ++ [.scopeLinks scope.spec.id]⟩ scope := by
    simpa [Traced.perform, hb] using k.listed h
  cases result with
  | error e => rwa [reconcile_failed hb]
  | ok links =>
    by_cases hd : desiredInterfaces links = []
    · rw [reconcile_idle hb hd]
      exact k.named _ hl
    · rw [reconcile_busy hb hd]
      refine k.detachEach ?_ ?_ (k.attachAll _ (k.named _ hl))
      · exact (attached_toList_nodup _).filter _
      · exact fun name hname => (mem_stale.mp hname).1

theorem reconcile_same (host : Traced σ) (scope : CountedScope τ) :
    (scope.reconcile b host).2.1.spec = scope.spec ∧ (scope.reconcile b host).2.1.table = scope.table ∧
      (scope.reconcile b host).2.1.previous = scope.previous := by
  have k : Kept b fun _ met =>
      met.spec = scope.spec ∧ met.table = scope.table ∧ met.previous = scope.previous :=
    { named := fun _ h => h
      listed := fun h => h
      attached := fun h _ _ => h
      refused := fun h _ _ => h
      detached := fun h _ => h }
  exact k.reconcile ⟨rfl, rfl, rfl⟩

theorem Kept.detachAll {P : Traced σ → CountedScope τ → Prop} (k : Kept b P) {host : Traced σ}
    {scope : CountedScope τ} (h : P host scope) :
    P (CountedScope.detachAll b host scope).1 (CountedScope.detachAll b host scope).2 := by
  refine k.detachEach (attached_toList_nodup scope) ?_ h
  exact fun name hname => Std.ExtTreeSet.mem_toList.mp hname

end CountedScope

end LabStream
