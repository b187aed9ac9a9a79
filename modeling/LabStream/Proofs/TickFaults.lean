import LabStream.Proofs.Reconcile
import LabStream.Proofs.SamplingTurns
import Mathlib.Data.List.Sort
import Mathlib.Data.String.Basic

namespace LabStream

def faultOf? {α : Type} : Except TrafficFault α → Option TrafficFault
  | .error e => some e
  | .ok _ => none

theorem faultOf?_eq_none {α : Type} {answer : Except TrafficFault α} :
    faultOf? answer = none ↔ ∃ value, answer = .ok value := by
  cases answer <;> simp [faultOf?]

theorem faultOf?_eq_some {α : Type} {answer : Except TrafficFault α} {e : TrafficFault} :
    faultOf? answer = some e ↔ answer = .error e := by
  cases answer <;> simp [faultOf?]

theorem faultOf?_ne_none_iff {α : Type} {answer : Except TrafficFault α} :
    faultOf? answer ≠ none ↔ ∃ e, answer = .error e := by
  simp only [Option.ne_none_iff_exists', faultOf?_eq_some]

/-- An attempt to attach to an interface, with the answer to it. -/
structure Attempt where
  ifname : String
  answer : Except TrafficFault Unit

namespace Attempt

def call (scope : String) (a : Attempt) : Call := .attach scope a.ifname a.answer.toOption.isSome

def firstFault (attempts : List Attempt) : Option TrafficFault := attempts.findSome? fun a => faultOf? a.answer

theorem firstFault_ne_none_iff {attempts : List Attempt} :
    firstFault attempts ≠ none ↔ ∃ a ∈ attempts, ∃ e, a.answer = .error e := by
  simp only [firstFault, ne_eq, List.findSome?_eq_none_iff, not_forall, exists_prop, ← faultOf?_ne_none_iff]

end Attempt

namespace CountedScope

variable {σ τ : Type} {b : TrafficBackend σ τ}

/-- The attempts of a pass over names, each in the world that those before it left. -/
def attemptsFrom (b : TrafficBackend σ τ) :
    Traced σ × CountedScope τ × Option TrafficFault → List String → List Attempt
  | _, [] => []
  | state, name :: names =>
    let rest := attemptsFrom b (attachOne b state name) names
    if state.2.1.attached.contains name then rest
    else ⟨name, (b.attach state.2.1.table name state.1.world).2⟩ :: rest

theorem attemptsFrom_attached {state : Traced σ × CountedScope τ × Option TrafficFault} {name : String}
    (h : name ∈ state.2.1.attached) (names : List String) :
    attemptsFrom b state (name :: names) = attemptsFrom b (attachOne b state name) names := by
  simp [attemptsFrom, Std.ExtTreeSet.contains_iff_mem.mpr h]

theorem attemptsFrom_missing {state : Traced σ × CountedScope τ × Option TrafficFault} {name : String}
    (h : name ∉ state.2.1.attached) (names : List String) :
    attemptsFrom b state (name :: names) =
      ⟨name, (b.attach state.2.1.table name state.1.world).2⟩ ::
        attemptsFrom b (attachOne b state name) names := by
  have hc : state.2.1.attached.contains name = false := by
    simpa [← Std.ExtTreeSet.contains_iff_mem] using h
  simp [attemptsFrom, hc]

theorem attemptsFrom_sublist (names : List String) (state : Traced σ × CountedScope τ × Option TrafficFault) :
    ((attemptsFrom b state names).map (·.ifname)).Sublist names := by
  induction names generalizing state with
  | nil => exact List.Sublist.refl _
  | cons name names ih =>
    by_cases hm : name ∈ state.2.1.attached
    · rw [attemptsFrom_attached hm]
      exact (ih _).cons _
    · rw [attemptsFrom_missing hm]
      exact (ih _).cons_cons _

/-- A pass calls for its attempts and nothing else, and its fault is the first one of them. -/
theorem attachAll_attemptsFrom (names : List String) (state : Traced σ × CountedScope τ × Option TrafficFault) :
    (names.foldl (attachOne b) state).1.calls =
        state.1.calls ++ (attemptsFrom b state names).map (Attempt.call state.2.1.spec.id) ∧
      (names.foldl (attachOne b) state).2.2 = state.2.2.or (Attempt.firstFault (attemptsFrom b state names)) := by
  induction names generalizing state with
  | nil => simp [attemptsFrom, Attempt.firstFault]
  | cons name names ih =>
    obtain ⟨host, scope, fault⟩ := state
    rw [List.foldl_cons, (ih _).1, (ih _).2]
    by_cases hm : name ∈ scope.attached
    · rw [attemptsFrom_attached hm, attachOne_attached hm]
      exact ⟨rfl, rfl⟩
    · rw [attemptsFrom_missing hm]
      obtain ⟨world, answer, hb⟩ : ∃ world answer,
          b.attach scope.table name host.world = (world, answer) := ⟨_, _, rfl⟩
      cases answer with
      | ok _ =>
        rw [attachOne_done hm hb]
        simp [hb, Attempt.call, Attempt.firstFault, faultOf?, Except.toOption]
      | error e =>
        rw [attachOne_refused hm hb]
        simp [hb, Attempt.call, Attempt.firstFault, faultOf?, Except.toOption]

/-- The attempts of a reconciliation, none when its listing failed. -/
def attemptsOf (b : TrafficBackend σ τ) (host : Traced σ) (scope : CountedScope τ) : List Attempt :=
  match host.perform (.scopeLinks scope.spec.id) (b.links scope.table) with
  | (_, .error _) => []
  | (host, .ok links) =>
    attemptsFrom b (host, { scope with names := linkNames links }, none) (desiredInterfaces links)

/-- The calls that are no detachments. -/
def undetached (calls : List Call) : List Call :=
  calls.filter fun
    | .detach _ _ => false
    | _ => true

theorem undetached_append (before after : List Call) :
    undetached (before ++ after) = undetached before ++ undetached after := List.filter_append ..

theorem undetached_attempts (scope : String) (attempts : List Attempt) :
    undetached (attempts.map (Attempt.call scope)) = attempts.map (Attempt.call scope) := by
  simp [undetached, Attempt.call]

theorem undetached_detachEach (names : List String) (state : Traced σ × CountedScope τ) :
    undetached (names.foldl (detachOne b) state).1.calls = undetached state.1.calls := by
  induction names generalizing state with
  | nil => rfl
  | cons name names ih =>
    rw [List.foldl_cons, ih, detachOne_eq, undetached_append]
    exact List.append_nil _

/-- A reconciliation gives its first fault if it leaves nothing attached. -/
theorem reconcile_attemptsOf (host : Traced σ) (scope : CountedScope τ) :
    (reconcile b host scope).2.2 = (if (reconcile b host scope).2.1.attached.isEmpty
        then Attempt.firstFault (attemptsOf b host scope) else none) ∧
      undetached (reconcile b host scope).1.calls = undetached host.calls ++
        .scopeLinks scope.spec.id :: (attemptsOf b host scope).map (Attempt.call scope.spec.id) := by
  obtain ⟨world, result, hb⟩ : ∃ world result, b.links scope.table host.world = (world, result) := ⟨_, _, rfl⟩
  cases result with
  | error e =>
    have hnone : attemptsOf b host scope = [] := by simp [attemptsOf, Traced.perform, hb]
    rw [reconcile_failed hb, hnone, undetached_append]
    exact ⟨(ite_self none).symm, rfl⟩
  | ok links =>
    have hattempts : attemptsOf b host scope = attemptsFrom b
        (⟨world, host.calls ++ [.scopeLinks scope.spec.id]⟩, { scope with names := linkNames links }, none)
        (desiredInterfaces links) := by
      simp [attemptsOf, Traced.perform, hb]
    by_cases hd : desiredInterfaces links = []
    · rw [hattempts, hd, reconcile_idle hb hd, undetached_append]
      exact ⟨(ite_self none).symm, rfl⟩
    · obtain ⟨hcalls, hfault⟩ := attachAll_attemptsFrom (b := b) (desiredInterfaces links)
        (⟨world, host.calls ++ [.scopeLinks scope.spec.id]⟩, { scope with names := linkNames links }, none)
      rw [reconcile_busy hb hd, hattempts]
      constructor
      · simp only [detachUnwanted, hfault, Option.none_or]
      · simp only [detachUnwanted]
        rw [undetached_detachEach, hcalls, undetached_append, undetached_append, undetached_attempts,
          List.append_assoc]
        rfl

theorem attemptsOf_sorted (host : Traced σ) (scope : CountedScope τ) :
    ((attemptsOf b host scope).map (·.ifname)).Pairwise (· ≤ ·) := by
  unfold attemptsOf
  split
  next => exact .nil
  next links _ =>
    refine List.Pairwise.sublist (attemptsFrom_sublist _ _) ?_
    unfold desiredInterfaces
    exact List.pairwise_mergeSort' _ _

end CountedScope

namespace Sampling

variable {σ τ : Type} {b : TrafficBackend σ τ}

/-- The visit of a scope in a tick: the scope before and after it, what it was shown, its attempts to
attach, and its reading. -/
structure Visit (τ : Type) where
  before : CountedScope τ
  listed : Except TrafficFault (List Link)
  attempts : List Attempt
  reading : Except TrafficFault Tally
  after : CountedScope τ

namespace Visit

def refused (v : Visit τ) : Option TrafficFault := Attempt.firstFault v.attempts

def unread (v : Visit τ) : Option TrafficFault := faultOf? v.reading

/-- The calls of a visit, but for those that detach. -/
def calls (v : Visit τ) : List Call :=
  .scopeLinks v.before.spec.id :: (v.attempts.map (Attempt.call v.before.spec.id) ++ [.read v.before.spec.id])

end Visit

def visitOf (b : TrafficBackend σ τ) (host : Traced σ) (scope : CountedScope τ) : Visit τ :=
  let met := scope.reconcile b host
  let reading := (met.2.1.readTally b met.1).2
  { before := scope
    listed := (b.links scope.table host.world).2
    attempts := scope.attemptsOf b host
    reading
    after := { met.2.1 with previous := reading.toOption.getD met.2.1.previous } }

/-- The visits of a tick, until a reading fails. -/
def visits (b : TrafficBackend σ τ) : Traced σ → List (CountedScope τ) → List (Visit τ)
  | _, [] => []
  | host, scope :: rest =>
    let met := scope.reconcile b host
    let v := visitOf b host scope
    v :: match v.reading with
      | .error _ => []
      | .ok _ => visits b (met.2.1.readTally b met.1).1 rest

/-- The fault that a visit brings to its tick, as long as the reading does not fail. -/
def Visit.fault (v : Visit τ) : Option TrafficFault :=
  if v.after.attached.isEmpty then v.refused else none

theorem visits_cons_unread {host : Traced σ} {scope : CountedScope τ} {e : TrafficFault}
    (h : (visitOf b host scope).reading = .error e) (rest : List (CountedScope τ)) :
    visits b host (scope :: rest) = [visitOf b host scope] := by
  simp [visits, h]

theorem visits_cons_read {host : Traced σ} {scope : CountedScope τ} {current : Tally}
    (h : (visitOf b host scope).reading = .ok current) (rest : List (CountedScope τ)) :
    visits b host (scope :: rest) = visitOf b host scope ::
      visits b ((scope.reconcile b host).2.1.readTally b (scope.reconcile b host).1).1 rest := by
  simp [visits, h]

theorem undetached_visitOf (host : Traced σ) (scope : CountedScope τ) :
    CountedScope.undetached ((scope.reconcile b host).2.1.readTally b (scope.reconcile b host).1).1.calls =
      CountedScope.undetached host.calls ++ (visitOf b host scope).calls := by
  have hspec := (CountedScope.reconcile_same (b := b) host scope).1
  simp only [CountedScope.readTally, Traced.perform, CountedScope.undetached_append,
    (CountedScope.reconcile_attemptsOf host scope).2, hspec, Visit.calls, visitOf, List.append_assoc,
    List.cons_append]
  rfl

/-- What a tick goes through are its visits. -/
theorem visit_visits (services : ServiceNames) (host : Traced σ) (p : Progress)
    (seen scopes : List (CountedScope τ)) :
    (∃ unvisited, scopes = (visits b host scopes).map (·.before) ++ unvisited ∧
      (visit b services host p seen scopes).2.1 = seen ++ ((visits b host scopes).map (·.after) ++ unvisited) ∧
      (unvisited ≠ [] → (visits b host scopes).findSome? Visit.unread ≠ none)) ∧
    CountedScope.undetached (visit b services host p seen scopes).1.calls =
      CountedScope.undetached host.calls ++ (visits b host scopes).flatMap Visit.calls ∧
    match (visits b host scopes).findSome? Visit.unread with
    | some e => (visit b services host p seen scopes).2.2 = .error e
    | none => ∃ sums, (visit b services host p seen scopes).2.2 =
        .ok ⟨sums, p.fault.or ((visits b host scopes).findSome? Visit.fault)⟩ := by
  induction scopes generalizing host p seen with
  | nil => exact ⟨⟨[], by simp [visits, visit]⟩, by simp [visits, visit], p.sums, by simp [visits, visit]⟩
  | cons scope rest ih =>
    rw [visit_cons]
    obtain ⟨reading, hr⟩ : ∃ reading, (visitOf b host scope).reading = reading := ⟨_, rfl⟩
    have hread : ((scope.reconcile b host).2.1.readTally b (scope.reconcile b host).1).2 = reading := hr
    have hafter : (visitOf b host scope).after = { (scope.reconcile b host).2.1 with
        previous := reading.toOption.getD (scope.reconcile b host).2.1.previous } := by
      rw [← hread]
      rfl
    cases reading with
    | error e =>
      simp only [visits_cons_unread hr, hread]
      refine ⟨⟨rest, rfl, ?_, fun _ => ?_⟩, ?_, ?_⟩
      · simp [hafter, Except.toOption]
      · simp [Visit.unread, faultOf?, hr]
      · simp [undetached_visitOf]
      · simp [Visit.unread, faultOf?, hr]
    | ok current =>
      have hfault : (scope.reconcile b host).2.2 = (visitOf b host scope).fault :=
        (CountedScope.reconcile_attemptsOf host scope).1
      have hunread : (visitOf b host scope).unread = none := by simp [Visit.unread, faultOf?, hr]
      simp only [visits_cons_read hr, hread, hfault]
      obtain ⟨⟨unvisited, hbefore, hafters, hrest⟩, hcalls, hend⟩ := ih
        ((scope.reconcile b host).2.1.readTally b (scope.reconcile b host).1).1
        ⟨grown services p.sums (scope.reconcile b host).2.1
          ((scope.reconcile b host).2.1.previous.growth current), p.fault.or (visitOf b host scope).fault⟩
        (seen ++ [{ (scope.reconcile b host).2.1 with previous := current }])
      refine ⟨⟨unvisited, ?_, ?_, ?_⟩, ?_, ?_⟩
      · rw [List.map_cons, List.cons_append, ← hbefore]
        rfl
      · rw [hafters, List.map_cons, hafter, List.append_assoc]
        rfl
      · simpa only [List.findSome?_cons, hunread] using hrest
      · rw [hcalls, undetached_visitOf, List.flatMap_cons, List.append_assoc]
      · simp only [List.findSome?_cons, hunread]
        generalize (visits b _ rest).findSome? Visit.unread = unread at hend ⊢
        cases unread with
        | some e => exact hend
        | none =>
          obtain ⟨sums, hsums⟩ := hend
          refine ⟨sums, ?_⟩
          rw [hsums, Option.or_assoc]
          cases (visitOf b host scope).fault <;> rfl

theorem attachedTotal_eq_zero_iff (scopes : List (CountedScope τ)) :
    attachedTotal scopes = 0 ↔ ∀ scope ∈ scopes, scope.attached = ∅ := by
  have hsum : attachedTotal scopes = (scopes.map fun scope => scope.attached.size).sum := by
    rw [attachedTotal, List.sum_eq_foldl, List.foldl_map]
  rw [hsum, List.sum_eq_zero_iff_forall_eq_nat, List.forall_mem_map]
  simp only [Std.ExtTreeSet.eq_empty_iff_size_eq_zero]

theorem attemptsOf_failed {host : Traced σ} {scope : CountedScope τ} {e : TrafficFault}
    (h : (visitOf b host scope).listed = .error e) :
    (visitOf b host scope).attempts = [] ∧ (visitOf b host scope).after.attached = scope.attached ∧
      (visitOf b host scope).after.names = scope.names := by
  obtain ⟨world, result, hb⟩ : ∃ world result, b.links scope.table host.world = (world, result) := ⟨_, _, rfl⟩
  obtain rfl : result = .error e := by simpa [visitOf, hb] using h
  simp [visitOf, CountedScope.attemptsOf, Traced.perform, hb, CountedScope.reconcile_failed hb]

/-- What holds of the visit of any scope holds of all visits of a tick. -/
theorem forall_visits {P : Visit τ → Prop} (h : ∀ host scope, P (visitOf b host scope)) (host : Traced σ)
    (scopes : List (CountedScope τ)) : ∀ v ∈ visits b host scopes, P v := by
  induction scopes generalizing host with
  | nil => simp [visits]
  | cons scope rest ih =>
    refine List.forall_mem_cons.mpr ⟨h host scope, ?_⟩
    split
    · simp
    · exact ih _

/-- With nothing left attached every refusal counts for the tick. -/
theorem findSome?_fault {run : List (Visit τ)} (h : ∀ v ∈ run, v.after.attached = ∅) :
    run.findSome? Visit.fault = run.findSome? Visit.refused := by
  induction run with
  | nil => rfl
  | cons v run ih =>
    obtain ⟨hv, hrun⟩ := List.forall_mem_cons.mp h
    rw [List.findSome?_cons, List.findSome?_cons, ih hrun, Visit.fault, if_pos (Std.ExtTreeSet.isEmpty_iff.mpr hv)]

theorem findSome?_unread_ne_none_iff (run : List (Visit τ)) :
    run.findSome? Visit.unread ≠ none ↔ ∃ v ∈ run, ∃ e, v.reading = .error e := by
  simp only [ne_eq, List.findSome?_eq_none_iff, not_forall, exists_prop, Visit.unread, ← faultOf?_ne_none_iff]

theorem findSome?_refused_ne_none_iff (run : List (Visit τ)) :
    run.findSome? Visit.refused ≠ none ↔ ∃ v ∈ run, ∃ a ∈ v.attempts, ∃ e, a.answer = .error e := by
  simp only [← Attempt.firstFault_ne_none_iff, ne_eq, List.findSome?_eq_none_iff, not_forall, exists_prop,
    Visit.refused]

variable {services : ServiceNames} {host host' : Traced σ} {scopes scopes' : List (CountedScope τ)}

theorem tick_unread (window : String) (now : Instant) {e : TrafficFault}
    (h : visit b services host ⟨.empty, none⟩ [] scopes = (host', scopes', .error e)) :
    tick b services window now host scopes = (host', scopes', .error e) := by
  simp only [tick, h]

theorem tick_read (window : String) (now : Instant) {p : Progress}
    (h : visit b services host ⟨.empty, none⟩ [] scopes = (host', scopes', .ok p)) :
    ∃ outcome, tick b services window now host scopes = (host', scopes', outcome) ∧
      faultOf? outcome = if ∀ scope ∈ scopes', scope.attached = ∅ then p.fault else none := by
  simp only [tick, h, ← attachedTotal_eq_zero_iff]
  cases p.fault with
  | none => exact ⟨_, rfl, (ite_self none).symm⟩
  | some e =>
    by_cases hz : attachedTotal scopes' = 0
    · simp [hz, faultOf?]
    · simp [hz, faultOf?, tick.finish]

/-- How a tick ends, by its visits: a failed reading comes first, then the attempts to attach if they
left no scope with anything attached. -/
theorem tick_visits (b : TrafficBackend σ τ) (services : ServiceNames) (window : String) (now : Instant)
    (host : Traced σ) (scopes : List (CountedScope τ)) :
    (∃ unvisited, scopes = (visits b host scopes).map (·.before) ++ unvisited ∧
      (tick b services window now host scopes).2.1 = (visits b host scopes).map (·.after) ++ unvisited ∧
      (unvisited ≠ [] → (visits b host scopes).findSome? Visit.unread ≠ none)) ∧
    CountedScope.undetached (tick b services window now host scopes).1.calls =
      CountedScope.undetached host.calls ++ (visits b host scopes).flatMap Visit.calls ∧
    faultOf? (tick b services window now host scopes).2.2 =
      ((visits b host scopes).findSome? Visit.unread).or
        (if ∀ scope ∈ (tick b services window now host scopes).2.1, scope.attached = ∅
          then (visits b host scopes).findSome? Visit.refused else none) := by
  obtain ⟨⟨unvisited, hbefore, hafter, hrest⟩, hcalls, hend⟩ :=
    visit_visits (b := b) services host ⟨.empty, none⟩ [] scopes
  obtain ⟨host', scopes', outcome, hv⟩ : ∃ host' scopes' outcome,
      visit b services host ⟨.empty, none⟩ [] scopes = (host', scopes', outcome) := ⟨_, _, _, rfl⟩
  simp only [hv] at hafter hcalls hend
  cases hu : (visits b host scopes).findSome? Visit.unread with
  | some e =>
    obtain rfl : outcome = .error e := by simpa only [hu] using hend
    rw [tick_unread window now hv]
    exact ⟨⟨unvisited, hbefore, hafter, by simp⟩, hcalls, rfl⟩
  | none =>
    rw [hu] at hend hrest
    obtain ⟨sums, rfl⟩ := hend
    obtain rfl : unvisited = [] := by simpa using hrest
    obtain ⟨outcome, ht, houtcome⟩ := tick_read window now hv
    rw [ht]
    refine ⟨⟨[], hbefore, hafter, by simp⟩, hcalls, ?_⟩
    rw [houtcome, Option.none_or, Option.none_or]
    split_ifs with hall
    · refine findSome?_fault fun v hv => hall _ ?_
      rw [hafter]
      simpa using ⟨v, hv, rfl⟩
    · rfl

/-- A tick fails just if a reading fails, or some attempt to attach does and nothing is attached after
it. Its fault is that of the failed reading, otherwise that of the first such attempt, in the order of
the scopes and in each of them of the names. A failed listing leaves its scope alone and never counts. -/
theorem tick_fails_iff (b : TrafficBackend σ τ) (services : ServiceNames) (window : String) (now : Instant)
    (host : Traced σ) (scopes : List (CountedScope τ)) :
    let run := visits b host scopes
    let result := tick b services window now host scopes
    (∃ unvisited, scopes = run.map (·.before) ++ unvisited ∧ result.2.1 = run.map (·.after) ++ unvisited ∧
      (unvisited ≠ [] → ∃ v ∈ run, ∃ e, v.reading = .error e)) ∧
    CountedScope.undetached result.1.calls =
      CountedScope.undetached host.calls ++ run.flatMap Visit.calls ∧
    (∀ v ∈ run, (v.attempts.map (·.ifname)).Pairwise (· ≤ ·)) ∧
    ((∃ e, result.2.2 = .error e) ↔ (∃ v ∈ run, ∃ e, v.reading = .error e) ∨
      (∀ scope ∈ result.2.1, scope.attached = ∅) ∧ ∃ v ∈ run, ∃ a ∈ v.attempts, ∃ e, a.answer = .error e) ∧
    (∀ e, result.2.2 = .error e → run.findSome? Visit.unread = some e ∨
      (∀ v ∈ run, v.unread = none) ∧ run.findSome? Visit.refused = some e) ∧
    (∀ v ∈ run, ∀ e, v.listed = .error e →
      v.attempts = [] ∧ v.after.attached = v.before.attached ∧ v.after.names = v.before.names) ∧
    ((∀ v ∈ run, v.unread = none ∧ v.refused = none) → ∃ batch, result.2.2 = .ok batch) := by
  intro run result
  obtain ⟨⟨unvisited, hbefore, hafter, hrest⟩, hcalls, hend⟩ := tick_visits b services window now host scopes
  have hunread := findSome?_unread_ne_none_iff run
  have hrefused := findSome?_refused_ne_none_iff run
  have hfault : faultOf? result.2.2 = (run.findSome? Visit.unread).or
      (if ∀ scope ∈ result.2.1, scope.attached = ∅ then run.findSome? Visit.refused else none) := hend
  refine ⟨⟨unvisited, hbefore, hafter, fun h => hunread.mp (hrest h)⟩, hcalls,
    forall_visits (fun host scope => CountedScope.attemptsOf_sorted host scope) host scopes, ?_, ?_,
    forall_visits (fun host scope e h => attemptsOf_failed h) host scopes, ?_⟩
  · rw [← hunread, ← hrefused, ← faultOf?_ne_none_iff, hfault, ne_eq, Option.or_eq_none_iff, not_and_or,
      ite_eq_right_iff, Classical.not_imp]
  · intro e he
    rw [← faultOf?_eq_some, hfault, Option.or_eq_some_iff] at he
    refine he.imp_right fun ⟨hnone, hsome⟩ => ⟨List.findSome?_eq_none_iff.mp hnone, ?_⟩
    split_ifs at hsome
    exact hsome
  · intro h
    rw [← faultOf?_eq_none, hfault, List.findSome?_eq_none_iff.mpr fun v hv => (h v hv).1,
      List.findSome?_eq_none_iff.mpr fun v hv => (h v hv).2, ite_self]
    rfl

end Sampling

end LabStream
