import Mathlib.Data.List.Chain
import LabStream.Proofs.LedgerErasure
import LabStream.ScriptedWorld

namespace LabStream

/-- The attempts to attach among deeds: each a name, with whether it was attached. -/
def attempts (deeds : List Deed) : List (String × Bool) :=
  deeds.filterMap fun
    | .attach _ ifname done => some (ifname, done)
    | _ => none

/-- The names that were detached from among deeds. -/
def detachments (deeds : List Deed) : List String :=
  deeds.filterMap fun
    | .detach _ ifname => some ifname
    | _ => none

/-- One reconciliation of a scope: what was attached before it, what it was shown, what it asked of the backend, and
what was attached after it. -/
structure Round where
  before : Std.ExtTreeSet String
  listed : Except TrafficFault (List Link)
  asked : List Deed
  after : Std.ExtTreeSet String

namespace Round

def attempts (r : Round) : List (String × Bool) := LabStream.attempts r.asked

def detached (r : Round) : List String := detachments r.asked

/-- The names a round wants to be attached, none when its listing failed. -/
def wanted (r : Round) : List String :=
  match r.listed with
  | .ok links => desiredInterfaces links
  | .error _ => []

/-- Nothing is attached after the round but what is wanted, the backend has been asked to detach just what was
attached and is not wanted, and all that is wanted is attached unless it was refused. -/
structure Follows (r : Round) : Prop where
  dropped : ∀ name ∈ r.after, name ∈ r.wanted
  detached : ∀ name, name ∈ r.detached ↔ name ∈ r.before ∧ name ∉ r.wanted
  gained : ∀ name ∈ r.wanted, name ∈ r.after ∨ (name, false) ∈ r.attempts

/-- What a round does: without a wish it leaves everything alone, otherwise it detaches and drops what is not
wanted, and it tries whatever is wanted and missing. -/
structure Lawful (r : Round) : Prop where
  idle : r.wanted = [] → r.after = r.before ∧ r.detached = []
  dropped : r.wanted ≠ [] → ∀ name ∈ r.after, name ∈ r.wanted
  detached : r.wanted ≠ [] → ∀ name, name ∈ r.detached ↔ name ∈ r.before ∧ name ∉ r.wanted
  gained : ∀ name ∈ r.wanted, name ∈ r.after ∨ (name, false) ∈ r.attempts
  tried : ∀ name, (∃ done, (name, done) ∈ r.attempts) ↔ name ∈ r.wanted ∧ name ∉ r.before

theorem Lawful.of_idle {r : Round} (hw : r.wanted = []) (ht : r.attempts = []) (hd : r.detached = [])
    (ha : r.after = r.before) : r.Lawful :=
  ⟨fun _ => ⟨ha, hd⟩, fun h => absurd hw h, fun h => absurd hw h, by simp [hw], by simp [hw, ht]⟩

theorem Lawful.follows_iff {r : Round} (h : r.Lawful) : r.Follows ↔ r.wanted ≠ [] ∨ r.before = ∅ := by
  constructor
  · intro hf
    by_cases hw : r.wanted = []
    · right
      rw [← (h.idle hw).1]
      refine Std.ExtTreeSet.eq_empty_iff_forall_not_mem.mpr fun name hn => ?_
      have hwanted := hf.dropped name hn
      simp [hw] at hwanted
    · exact Or.inl hw
  · intro hc
    by_cases hw : r.wanted = []
    · have he := hc.resolve_left (by simpa using hw)
      obtain ⟨hsame, hnone⟩ := h.idle hw
      exact ⟨by simp [hsame, he], by simp [hnone, he], h.gained⟩
    · exact ⟨h.dropped hw, h.detached hw, h.gained⟩

theorem Lawful.mem_after_iff {r : Round} (h : r.Lawful) {name : String} (hn : name ∉ r.wanted) :
    name ∈ r.after ↔ name ∈ r.before ∧ r.wanted = [] := by
  by_cases hw : r.wanted = []
  · simp [(h.idle hw).1, hw]
  · have hm : name ∉ r.after := fun hm => hn (h.dropped hw name hm)
    simp [hw, hm]

/-- A name that is not wanted stays attached just as long as nothing else is wanted. -/
theorem mem_before_iff_idle {lost back : Round} {between : List Round} {name : String}
    (lawful : ∀ r ∈ lost :: between, r.Lawful)
    (chain : (lost :: (between ++ [back])).IsChain fun r next => next.before = r.after)
    (unwanted : ∀ r ∈ lost :: between, name ∉ r.wanted) :
    name ∈ back.before ↔ name ∈ lost.before ∧ ∀ r ∈ lost :: between, r.wanted = [] := by
  have step := (lawful lost List.mem_cons_self).mem_after_iff (unwanted lost List.mem_cons_self)
  induction between generalizing lost with
  | nil =>
    obtain ⟨heq, -⟩ := List.isChain_cons_cons.mp chain
    simpa [heq] using step
  | cons next between ih =>
    obtain ⟨heq, htail⟩ := List.isChain_cons_cons.mp chain
    have hnext : next ∈ lost :: next :: between := by simp
    have hrest := ih (fun r hr => lawful r (List.mem_cons_of_mem lost hr)) htail
      (fun r hr => unwanted r (List.mem_cons_of_mem lost hr))
      ((lawful next hnext).mem_after_iff (unwanted next hnext))
    refine hrest.trans ?_
    rw [heq, step, List.forall_mem_cons (l := next :: between), and_assoc]

end Round

namespace CountedScope

variable {σ τ : Type} {b : TrafficBackend σ τ}

theorem attempts_append (before after : List Deed) :
    attempts (before ++ after) = attempts before ++ attempts after := List.filterMap_append

theorem detachments_append (before after : List Deed) :
    detachments (before ++ after) = detachments before ++ detachments after := List.filterMap_append

/-- Deeds that try just the names that are missing and nothing else, and what is attached after them. -/
structure Tries (names : List String) (before : Std.ExtTreeSet String) (deeds : List Deed)
    (after : Std.ExtTreeSet String) : Prop where
  held : ∀ name, name ∈ after ↔ name ∈ before ∨ (name, true) ∈ attempts deeds
  tried : ∀ name, (∃ done, (name, done) ∈ attempts deeds) ↔ name ∈ names ∧ name ∉ before
  kept : detachments deeds = []

theorem Tries.none {names : List String} {attached : Std.ExtTreeSet String} (h : ∀ name ∈ names, name ∈ attached) :
    Tries names attached [] attached where
  held := by simp [attempts]
  tried name := by simpa [attempts] using h name
  kept := rfl

theorem Tries.append {first second : List String} {start mid last : Std.ExtTreeSet String}
    {before after : List Deed} (hf : Tries first start before mid) (hs : Tries second mid after last) :
    Tries (first ++ second) start (before ++ after) last where
  held name := by rw [hs.held, hf.held, attempts_append, List.mem_append, or_assoc]
  tried name := by
    have hsplit : (∃ done, (name, done) ∈ attempts (before ++ after)) ↔
        (∃ done, (name, done) ∈ attempts before) ∨ ∃ done, (name, done) ∈ attempts after := by
      simp only [attempts_append, List.mem_append, exists_or]
    -- a name of the second list may have been attached by the first deeds
    have hmid : name ∈ mid → name ∉ start → name ∈ first := fun hm hn =>
      ((hf.tried name).mp ⟨true, ((hf.held name).mp hm).resolve_left hn⟩).1
    have hkeep : name ∈ start → name ∈ mid := fun hm => (hf.held name).mpr (.inl hm)
    rw [hsplit, hf.tried, hs.tried, List.mem_append]
    tauto
  kept := by rw [detachments_append, hf.kept, hs.kept, List.append_nil]

theorem attachOne_tries (host : Traced (LedgerWorld σ τ)) (scope : CountedScope (Numbered τ))
    (fault : Option TrafficFault) (ifname : String) :
    ∃ new, (attachOne b.recorded (host, scope, fault) ifname).1.world.ledger.deeds = host.world.ledger.deeds ++ new ∧
      Tries [ifname] scope.attached new (attachOne b.recorded (host, scope, fault) ifname).2.1.attached := by
  by_cases hm : ifname ∈ scope.attached
  · rw [attachOne_attached hm]
    exact ⟨[], (List.append_nil _).symm, .none (List.forall_mem_singleton.mpr hm)⟩
  · obtain ⟨world, result, hb⟩ : ∃ world result,
        b.attach scope.table.table ifname host.world.world = (world, result) := ⟨_, _, rfl⟩
    have hr := TrafficBackend.recorded_attach hb
    have hnot : ∀ name, name = ifname → name ∉ scope.attached := fun name he => he ▸ hm
    cases result with
    | ok _ =>
      rw [attachOne_done hm hr]
      refine ⟨_, Ledger.deeds_add _ _, fun name => ?_, fun name => ?_, rfl⟩
      · simp only [Std.ExtTreeSet.mem_insert, Std.LawfulEqCmp.compare_eq_iff_eq, attempts, Except.toOption,
          Option.isSome_some, List.filterMap_cons, List.filterMap_nil, List.mem_singleton, Prod.mk.injEq, and_true]
        tauto
      · simpa [attempts, Except.toOption] using hnot name
    | error e =>
      rw [attachOne_refused hm hr]
      refine ⟨_, Ledger.deeds_add _ _, fun name => ?_, fun name => ?_, rfl⟩
      · simp [attempts, Except.toOption]
      · simpa [attempts, Except.toOption] using hnot name

theorem attachAll_tries (names : List String)
    (state : Traced (LedgerWorld σ τ) × CountedScope (Numbered τ) × Option TrafficFault) :
    ∃ new, (names.foldl (attachOne b.recorded) state).1.world.ledger.deeds = state.1.world.ledger.deeds ++ new ∧
      Tries names state.2.1.attached new (names.foldl (attachOne b.recorded) state).2.1.attached := by
  induction names generalizing state with
  | nil => exact ⟨[], (List.append_nil _).symm, .none (by simp)⟩
  | cons first names ih =>
    obtain ⟨new, hdeeds, hfirst⟩ := attachOne_tries (b := b) state.1 state.2.1 state.2.2 first
    obtain ⟨more, hmore, hrest⟩ := ih (attachOne b.recorded state first)
    exact ⟨new ++ more, by rw [List.foldl_cons, hmore, hdeeds, List.append_assoc], hfirst.append hrest⟩

theorem detachEach_asks (names : List String) (state : Traced (LedgerWorld σ τ) × CountedScope (Numbered τ)) :
    (names.foldl (detachOne b.recorded) state).1.world.ledger.deeds =
      state.1.world.ledger.deeds ++ names.map (.detach state.2.table.number) := by
  induction names generalizing state with
  | nil => exact (List.append_nil _).symm
  | cons first names ih =>
    have hfirst : (detachOne b.recorded state first).1.world.ledger.deeds =
        state.1.world.ledger.deeds ++ [.detach state.2.table.number first] := Ledger.deeds_add _ _
    rw [List.foldl_cons, ih, hfirst, List.append_assoc]
    rfl

theorem detachments_detach (number : Nat) (names : List String) :
    detachments (names.map (.detach number)) = names ∧ attempts (names.map (.detach number)) = [] := by
  simp [detachments, attempts, List.filterMap_map]

/-- A reconciliation with wishes tries what is missing, and then it detaches what is stale. -/
theorem reconcile_busy_asks {host : Traced (LedgerWorld σ τ)} {scope : CountedScope (Numbered τ)} {world : σ}
    {links : List Link} (hb : b.links scope.table.table host.world.world = (world, .ok links))
    (hd : desiredInterfaces links ≠ []) :
    ∃ new mid, ∃ stale : List String, ∃ number,
      (reconcile b.recorded host scope).1.world.ledger.deeds =
        host.world.ledger.deeds ++ (.links scope.table.number :: new ++ stale.map (.detach number)) ∧
      Tries (desiredInterfaces links) scope.attached new mid ∧
      (∀ name, name ∈ stale ↔ name ∈ mid ∧ name ∉ desiredInterfaces links) ∧
      ∀ name, name ∈ (reconcile b.recorded host scope).2.1.attached ↔ name ∈ mid ∧ name ∈ desiredInterfaces links := by
  have hr : b.recorded.links scope.table host.world =
      (host.world.enter (.links scope.table.number) world, .ok links) := by
    simp only [TrafficBackend.recorded, hb]
  obtain ⟨new, hnew, htries⟩ := attachAll_tries (b := b) (desiredInterfaces links)
    (⟨host.world.enter (.links scope.table.number) world, host.calls ++ [.scopeLinks scope.spec.id]⟩,
      { scope with names := linkNames links }, none)
  rw [reconcile_busy hr hd]
  generalize (desiredInterfaces links).foldl (attachOne b.recorded) _ = tried at hnew htries ⊢
  have hasks := detachEach_asks (b := b) (tried.2.1.stale (desiredInterfaces links)) (tried.1, tried.2.1)
  have hentered : (host.world.enter (.links scope.table.number) world).ledger.deeds =
      host.world.ledger.deeds ++ [.links scope.table.number] := Ledger.deeds_add _ _
  refine ⟨new, tried.2.1.attached, tried.2.1.stale (desiredInterfaces links), tried.2.1.table.number, ?_, htries,
    fun _ => mem_stale, fun _ => mem_detachUnwanted⟩
  rw [detachUnwanted, hasks, hnew, hentered]
  simp

/-- The same world with a ledger, and the same scope with a numbered table. -/
def withLedger (host : Traced σ) : Traced (LedgerWorld σ τ) := ⟨⟨host.world, .empty⟩, host.calls⟩

def numbered (scope : CountedScope τ) : CountedScope (Numbered τ) :=
  ⟨scope.spec, ⟨0, scope.table⟩, scope.attached, scope.previous, scope.names⟩

/-- A reconciliation, with what the backend's own ledger says of it. -/
def round (b : TrafficBackend σ τ) (host : Traced σ) (scope : CountedScope τ) : Round :=
  ⟨scope.attached, (b.links scope.table host.world).2,
    (reconcile b.recorded (withLedger host) scope.numbered).1.world.ledger.deeds, (reconcile b host scope).2.1.attached⟩

theorem round_lawful (host : Traced σ) (scope : CountedScope τ) : (round b host scope).Lawful := by
  have hplain : (round b host scope).after =
      (reconcile b.recorded (withLedger host) scope.numbered).2.1.attached :=
    congrArg (fun met => met.2.1.attached) (reconcile_plain (b := b) (withLedger host) scope.numbered)
  obtain ⟨world, result, hb⟩ : ∃ world result, b.links scope.table host.world = (world, result) := ⟨_, _, rfl⟩
  have hr : b.recorded.links scope.numbered.table (withLedger host).world =
      ((withLedger (τ := τ) host).world.enter (.links 0) world, result) := by
    simp only [TrafficBackend.recorded, numbered, withLedger, hb]
  cases result with
  | error e =>
    have hasked : (round b host scope).asked = [.links 0] := by
      rw [round, reconcile_failed hr]
      rfl
    refine .of_idle (by simp [Round.wanted, round, hb]) ?_ ?_ ?_
    · simp [Round.attempts, hasked, attempts]
    · simp [Round.detached, hasked, detachments]
    · simp [round, reconcile_failed hb]
  | ok links =>
    have hw : (round b host scope).wanted = desiredInterfaces links := by simp [Round.wanted, round, hb]
    by_cases hd : desiredInterfaces links = []
    · have hasked : (round b host scope).asked = [.links 0] := by
        rw [round, reconcile_idle hr hd]
        rfl
      refine .of_idle (hw.trans hd) ?_ ?_ ?_
      · simp [Round.attempts, hasked, attempts]
      · simp [Round.detached, hasked, detachments]
      · simp [round, reconcile_idle hb hd]
    · have hlinks : b.links scope.numbered.table.table (withLedger (τ := τ) host).world.world = (world, .ok links) := hb
      obtain ⟨new, mid, stale, number, hasked, htries, hstale, hafter⟩ := reconcile_busy_asks hlinks hd
      obtain ⟨hdetached, hnone⟩ := detachments_detach number stale
      have hattempts : (round b host scope).attempts = attempts new := by
        rw [Round.attempts, round, hasked, attempts_append, attempts_append, hnone, List.append_nil]
        rfl
      have hdetachments : (round b host scope).detached = stale := by
        rw [Round.detached, round, hasked, detachments_append, detachments_append, hdetached,
          ← List.singleton_append, detachments_append, htries.kept]
        rfl
      refine ⟨fun h => absurd (hw.symm.trans h) hd, ?_, ?_, ?_, ?_⟩
      · intro _ name hn
        rw [hplain] at hn
        rw [hw]
        exact ((hafter name).mp hn).2
      · intro _ name
        rw [hdetachments, hw, hstale, htries.held]
        -- what was attached just now is wanted
        have hnew : (name, true) ∈ attempts new → name ∈ desiredInterfaces links := fun hmem =>
          ((htries.tried name).mp ⟨true, hmem⟩).1
        exact and_congr_left fun hn => ⟨fun hmid => hmid.resolve_right (mt hnew hn), .inl⟩
      · intro name hn
        rw [hw] at hn
        rw [hattempts, hplain]
        by_cases hb : name ∈ scope.attached
        · exact .inl ((hafter name).mpr ⟨(htries.held name).mpr (.inl hb), hn⟩)
        · obtain ⟨done, hdone⟩ := (htries.tried name).mpr ⟨hn, hb⟩
          cases done with
          | true => exact .inl ((hafter name).mpr ⟨(htries.held name).mpr (.inr hdone), hn⟩)
          | false => exact .inr hdone
      · intro name
        rw [hattempts, hw]
        exact htries.tried name

/-- Reconciliations one after the other, each in a world of its own. -/
def rounds (b : TrafficBackend σ τ) : CountedScope τ → List (Traced σ) → List Round
  | _, [] => []
  | scope, host :: hosts => round b host scope :: rounds b (reconcile b host scope).2.1 hosts

theorem rounds_lawful (scope : CountedScope τ) (hosts : List (Traced σ)) :
    ∀ r ∈ rounds b scope hosts, r.Lawful := by
  induction hosts generalizing scope with
  | nil => simp [rounds]
  | cons host hosts ih => exact List.forall_mem_cons.mpr ⟨round_lawful host scope, ih _⟩

theorem rounds_chain (scope : CountedScope τ) (hosts : List (Traced σ)) :
    (rounds b scope hosts).IsChain fun r next => next.before = r.after := by
  induction hosts generalizing scope with
  | nil => exact .nil
  | cons host hosts ih =>
    cases hosts with
    | nil => exact .singleton _
    | cons next hosts => exact List.isChain_cons_cons.mpr ⟨rfl, ih _⟩

/-- Every round that wants anything follows its listing, in what is attached and in what is detached, and no
other round does unless nothing was attached anyway. An interface that comes back is attached anew just if it
had never been attached or some round since wanted anything. -/
theorem rounds_follow_listings_iff (b : TrafficBackend σ τ) (scope : CountedScope τ)
    (hosts : List (Traced σ)) :
    (∀ r ∈ rounds b scope hosts, ∀ links, r.listed = .ok links →
      (r.Follows ↔ desiredInterfaces links ≠ [] ∨ r.before = ∅)) ∧
    ∀ earlier lost between back later name,
      rounds b scope hosts = earlier ++ lost :: (between ++ back :: later) →
      (∀ r ∈ lost :: between, name ∉ r.wanted) → name ∈ back.wanted →
      ((∃ done, (name, done) ∈ back.attempts) ↔
        name ∉ lost.before ∨ ∃ r ∈ lost :: between, r.wanted ≠ []) := by
  constructor
  · intro r hr links hl
    have hw : r.wanted = desiredInterfaces links := by simp [Round.wanted, hl]
    rw [← hw]
    exact (rounds_lawful scope hosts r hr).follows_iff
  · intro earlier lost between back later name heq unwanted hback
    have hlawful := rounds_lawful (b := b) scope hosts
    have hchain := rounds_chain (b := b) scope hosts
    rw [heq] at hlawful hchain
    have hmid : (lost :: (between ++ [back])).IsChain fun r next => next.before = r.after := by
      refine hchain.infix ⟨earlier, later, ?_⟩
      simp
    have hbefore := Round.mem_before_iff_idle (fun r hr => hlawful r (by simp at hr ⊢; tauto)) hmid unwanted
    rw [(hlawful back (by simp)).tried, hbefore]
    simp only [hback, true_and, not_and_or, not_forall, exists_prop, ne_eq]

def showing (links : List Link) : Traced ScriptedWorld := .start (.ofHost links ∅)

def swap : List (Traced ScriptedWorld) :=
  [showing [ScriptedWorld.veth 3 "eth3"], showing [ScriptedWorld.veth 4 "eth4"],
    showing [ScriptedWorld.veth 5 "eth3"]]

theorem rounds_follow_listings_swap :
    ∃ first lost back, rounds ScriptedWorld.backend (.fresh .host "host") swap = [first, lost, back] ∧
      "eth3" ∈ lost.before ∧ lost.Follows ∧ lost.detached = ["eth3"] ∧ ∃ done, ("eth3", done) ∈ back.attempts := by
  have h := rounds_follow_listings_iff ScriptedWorld.backend (.fresh .host "host") swap
  refine ⟨_, _, _, rfl, by decide +kernel, ?_, by decide +kernel, ?_⟩
  · exact (h.1 _ (List.mem_cons_of_mem _ List.mem_cons_self) [ScriptedWorld.veth 4 "eth4"]
      (by decide +kernel)).mpr (.inl (by decide +kernel))
  · refine (h.2 [_] _ [] _ [] "eth3" rfl ?_ (by decide +kernel)).mpr
      (.inr ⟨_, List.mem_cons_self, by decide +kernel⟩)
    exact List.forall_mem_singleton.mpr (by decide +kernel)

/-- A listing without any link leaves a stale attachment behind, which keeps the interface from being
tried once it is back. -/
theorem rounds_stale_after_empty_listing :
    ∃ first lost back, rounds ScriptedWorld.backend (.fresh .host "host")
        [showing [ScriptedWorld.veth 3 "eth3"], showing [], showing [ScriptedWorld.veth 5 "eth3"]] =
          [first, lost, back] ∧
      lost.listed = .ok [] ∧ lost.detached = [] ∧ ¬ lost.Follows ∧
      "eth3" ∉ lost.wanted ∧ "eth3" ∈ back.wanted ∧ ¬ ∃ done, ("eth3", done) ∈ back.attempts := by
  refine ⟨_, _, _, rfl, by decide +kernel, by decide +kernel, ?_, by decide +kernel, by decide +kernel,
    by decide +kernel⟩
  intro hf
  have hm := hf.dropped "eth3" (by decide +kernel)
  exact absurd hm (by decide +kernel)

end CountedScope

end LabStream
