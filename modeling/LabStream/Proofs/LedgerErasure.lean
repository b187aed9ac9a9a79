import LabStream.Proofs.SamplerRun

namespace LabStream

variable {σ τ : Type} {b : TrafficBackend σ τ}

/-- The same without ledger and numbers. -/
def Traced.plain (host : Traced (LedgerWorld σ τ)) : Traced σ := ⟨host.world.world, host.calls⟩

def CountedScope.plain (scope : CountedScope (Numbered τ)) : CountedScope τ :=
  ⟨scope.spec, scope.table.table, scope.attached, scope.previous, scope.names⟩

namespace CountedScope

def plainTried (state : Traced (LedgerWorld σ τ) × CountedScope (Numbered τ) × Option TrafficFault) :
    Traced σ × CountedScope τ × Option TrafficFault := (state.1.plain, state.2.1.plain, state.2.2)

def plainLeft (state : Traced (LedgerWorld σ τ) × CountedScope (Numbered τ)) : Traced σ × CountedScope τ :=
  (state.1.plain, state.2.plain)

theorem attachOne_plain (state : Traced (LedgerWorld σ τ) × CountedScope (Numbered τ) × Option TrafficFault)
    (ifname : String) :
    attachOne b (plainTried state) ifname = plainTried (attachOne b.recorded state ifname) := by
  obtain ⟨host, scope, fault⟩ := state
  by_cases hm : ifname ∈ scope.attached
  · have hm' : ifname ∈ scope.plain.attached := hm
    rw [attachOne_attached hm]
    exact attachOne_attached hm'
  · obtain ⟨world, result, hb⟩ : ∃ world result,
        b.attach scope.table.table ifname host.world.world = (world, result) := ⟨_, _, rfl⟩
    have hr := TrafficBackend.recorded_attach hb
    have hm' : ifname ∉ scope.plain.attached := hm
    have hb' : b.attach scope.plain.table ifname host.plain.world = (world, result) := hb
    cases result with
    | ok _ =>
      rw [attachOne_done hm hr]
      exact attachOne_done hm' hb'
    | error e =>
      rw [attachOne_refused hm hr]
      exact attachOne_refused hm' hb'

theorem attachAll_plain (names : List String)
    (state : Traced (LedgerWorld σ τ) × CountedScope (Numbered τ) × Option TrafficFault) :
    names.foldl (attachOne b) (plainTried state) = plainTried (names.foldl (attachOne b.recorded) state) :=
  List.foldl_hom plainTried attachOne_plain

theorem detachEach_plain (names : List String) (state : Traced (LedgerWorld σ τ) × CountedScope (Numbered τ)) :
    names.foldl (detachOne b) (plainLeft state) = plainLeft (names.foldl (detachOne b.recorded) state) :=
  List.foldl_hom plainLeft fun _ _ => rfl

theorem detachAll_plain (host : Traced (LedgerWorld σ τ)) (scope : CountedScope (Numbered τ)) :
    detachAll b host.plain scope.plain = plainLeft (detachAll b.recorded host scope) :=
  detachEach_plain _ (host, scope)

theorem detachUnwanted_plain (wanted : List String)
    (tried : Traced (LedgerWorld σ τ) × CountedScope (Numbered τ) × Option TrafficFault) :
    detachUnwanted b wanted (plainTried tried) = plainTried (detachUnwanted b.recorded wanted tried) :=
  congrArg
    (fun left : Traced σ × CountedScope τ =>
      (left.1, left.2, if left.2.attached.isEmpty then tried.2.2 else none))
    (detachEach_plain (tried.2.1.stale wanted) (tried.1, tried.2.1))

theorem reconcile_plain (host : Traced (LedgerWorld σ τ)) (scope : CountedScope (Numbered τ)) :
    reconcile b host.plain scope.plain = plainTried (reconcile b.recorded host scope) := by
  obtain ⟨world, result, hb⟩ : ∃ world result,
      b.links scope.table.table host.world.world = (world, result) := ⟨_, _, rfl⟩
  have hr : b.recorded.links scope.table host.world =
      (host.world.enter (.links scope.table.number) world, result) := by
    simp only [TrafficBackend.recorded, hb]
  have hb' : b.links scope.plain.table host.plain.world = (world, result) := hb
  cases result with
  | error e =>
    rw [reconcile_failed hr]
    exact reconcile_failed hb'
  | ok links =>
    by_cases hd : desiredInterfaces links = []
    · rw [reconcile_idle hr hd]
      exact reconcile_idle hb' hd
    · rw [reconcile_busy hr hd, ← detachUnwanted_plain, ← attachAll_plain]
      exact reconcile_busy hb' hd

theorem readTally_plain (host : Traced (LedgerWorld σ τ)) (scope : CountedScope (Numbered τ)) :
    scope.plain.readTally b host.plain =
      ((scope.readTally b.recorded host).1.plain, (scope.readTally b.recorded host).2) := rfl

end CountedScope

namespace Sampling

def plainScopes {α : Type} (state : Traced (LedgerWorld σ τ) × List (CountedScope (Numbered τ)) × α) :
    Traced σ × List (CountedScope τ) × α := (state.1.plain, state.2.1.map CountedScope.plain, state.2.2)

theorem loadScopes_plain (host : Traced (LedgerWorld σ τ)) (loaded : List (CountedScope (Numbered τ)))
    (first : Option TrafficFault) (specs : List TrafficScope) :
    loadScopes b host.plain (loaded.map CountedScope.plain) first specs =
      plainScopes (loadScopes b.recorded host loaded first specs) := by
  induction specs generalizing host loaded first with
  | nil => rfl
  | cons spec specs ih =>
    obtain ⟨world, result, hb⟩ : ∃ world result, b.load spec host.world.world = (world, result) := ⟨_, _, rfl⟩
    have hb' : b.load spec host.plain.world = (world, result) := hb
    cases result with
    | error e =>
      rw [loadScopes_refused (TrafficBackend.recorded_load_error hb)]
      exact loadScopes_refused hb' _ _ _
    | ok table =>
      have hm : CountedScope.reconcile b ⟨world, host.plain.calls ++ [.load spec.id true]⟩
          (.fresh spec table) = _ :=
        CountedScope.reconcile_plain ⟨host.world.loaded table world, host.calls ++ [.load spec.id true]⟩
          (.fresh spec ⟨host.world.ledger.tables.length, table⟩)
      rw [loadScopes_loaded (TrafficBackend.recorded_load_ok hb), loadScopes_loaded hb', hm]
      generalize CountedScope.reconcile b.recorded _ _ = met
      simp only [CountedScope.plainTried, CountedScope.readTally_plain]
      cases (met.2.1.readTally b.recorded met.1).2 with
      | error e => simp [plainScopes]
      | ok baseline =>
        have hi := ih (met.2.1.readTally b.recorded met.1).1
          (loaded ++ [{ met.2.1 with previous := baseline }]) (first.or met.2.2)
        simpa using! hi

theorem visit_plain (services : ServiceNames) (host : Traced (LedgerWorld σ τ)) (p : Progress)
    (seen rest : List (CountedScope (Numbered τ))) :
    visit b services host.plain p (seen.map CountedScope.plain) (rest.map CountedScope.plain) =
      plainScopes (visit b.recorded services host p seen rest) := by
  induction rest generalizing host p seen with
  | nil => rfl
  | cons scope rest ih =>
    rw [visit_cons, List.map_cons, visit_cons, CountedScope.reconcile_plain]
    generalize CountedScope.reconcile b.recorded _ _ = met
    simp only [CountedScope.plainTried, CountedScope.readTally_plain]
    cases (met.2.1.readTally b.recorded met.1).2 with
    | error e => simp [plainScopes]
    | ok current =>
      have hi := ih (met.2.1.readTally b.recorded met.1).1
        ⟨grown services p.sums met.2.1 (met.2.1.previous.growth current), p.fault.or met.2.2⟩
        (seen ++ [{ met.2.1 with previous := current }])
      simpa using! hi

theorem attachedTotal_plain (scopes : List (CountedScope (Numbered τ))) :
    attachedTotal (scopes.map CountedScope.plain) = attachedTotal scopes := by
  simp only [attachedTotal, List.foldl_map]
  rfl

theorem load_plain (host : Traced (LedgerWorld σ τ)) (containers : List Container) :
    load b host.plain containers = plainScopes (load b.recorded host containers) := by
  have hp : host.plain.perform .prepare b.prepare =
      ((host.perform .prepare b.recorded.prepare).1.plain, (host.perform .prepare b.recorded.prepare).2) := rfl
  simp only [load, hp]
  rcases host.perform .prepare b.recorded.prepare with ⟨prepared, e | _⟩
  · rfl
  have hd : prepared.plain.perform (.discover containers.length) (b.discover containers) =
      ((prepared.perform (.discover containers.length) (b.recorded.discover containers)).1.plain,
        (prepared.perform (.discover containers.length) (b.recorded.discover containers)).2) := rfl
  simp only [hd]
  rcases prepared.perform (.discover containers.length) (b.recorded.discover containers) with ⟨found, e | specs⟩
  · rfl
  have hl := loadScopes_plain (b := b) found [] none (inOrder specs)
  simp only [List.map_nil] at hl
  simp only [hl]
  rcases loadScopes b.recorded found [] none (inOrder specs) with ⟨left, scopes, first, _ | e⟩
  · simp only [plainScopes, attachedTotal_plain, List.isEmpty_map]
    split_ifs <;> rfl
  · rfl

theorem tick_plain (services : ServiceNames) (window : String) (now : Instant)
    (host : Traced (LedgerWorld σ τ)) (scopes : List (CountedScope (Numbered τ))) :
    tick b services window now host.plain (scopes.map CountedScope.plain) =
      plainScopes (tick b.recorded services window now host scopes) := by
  have hv := visit_plain (b := b) services host ⟨.empty, none⟩ [] scopes
  simp only [List.map_nil] at hv
  simp only [tick, hv]
  rcases visit b.recorded services host ⟨.empty, none⟩ [] scopes with ⟨left, scopes, e | ⟨sums, _ | e⟩⟩
  · rfl
  · simp [plainScopes, tick.finish, events, attachedTotal_plain]
  · simp only [plainScopes, attachedTotal_plain]
    split_ifs <;> simp [tick.finish, events, attachedTotal_plain]

end Sampling

def Teardown.plain (t : Teardown (Numbered τ)) : Teardown τ := ⟨t.scopes.map CountedScope.plain, t.closeAt⟩

theorem Teardown.step_plain (now : Nat) (host : Traced (LedgerWorld σ τ)) (t : Teardown (Numbered τ)) :
    t.plain.step b now host.plain =
      (t.step b.recorded now host).map fun next => (next.1.plain, next.2.map Teardown.plain) := by
  obtain ⟨scopes, closeAt⟩ := t
  cases scopes with
  | nil => rfl
  | cons scope rest =>
    cases closeAt with
    | none =>
      simp only [plain, List.map_cons, step, CountedScope.detachAll_plain]
      rfl
    | some time =>
      simp only [plain, List.map_cons, step]
      split_ifs <;> rfl

def SamplerPhase.plain : SamplerPhase (Numbered τ) → SamplerPhase τ
  | .waiting => .waiting
  | .sending events => .sending events
  | .closing t => .closing t.plain
  | .done => .done

def Sampler.plain (s : Sampler (Numbered τ)) : Sampler τ :=
  ⟨s.interval, s.services, s.scopes.map CountedScope.plain, s.ticker, s.phase.plain, s.fault⟩

def Hub.plain (hub : Hub (LedgerWorld σ τ)) : Hub σ :=
  ⟨hub.host.plain, hub.now, hub.origin, hub.cancelled, hub.channel, hub.token⟩

theorem Hub.offer_plain (hub : Hub (LedgerWorld σ τ)) (p : Producer) (token : Token) (event : Event) :
    hub.plain.offer p token event = (hub.offer p token event).map fun next => (next.1.plain, next.2) := by
  have hs : hub.plain.send p token event =
      ((hub.send p token event).1.plain, (hub.send p token event).2) := rfl
  have hw : hub.plain.channel.waiting = hub.channel.waiting := rfl
  simp only [offer, hs, hw]
  rcases hub.send p token event with ⟨next, _ | _ | _⟩
  · rfl
  · rfl
  · dsimp only
    split_ifs <;> rfl

theorem Sampler.launch_plain (interval : Span) (services : ServiceNames) (containers : List Container)
    (hub : Hub (LedgerWorld σ τ)) :
    launch b interval services containers hub.plain =
      ((launch b.recorded interval services containers hub).1.plain,
        (launch b.recorded interval services containers hub).2.plain) := by
  have hl := Sampling.load_plain (b := b) hub.host containers
  simp only [launch, Hub.plain, hl]
  rcases Sampling.load b.recorded hub.host containers with ⟨left, scopes, _ | e⟩ <;> rfl

/-- A step of a sampler is the same on a backend with a ledger and on the backend itself. -/
theorem Sampler.step_plain (s : Sampler (Numbered τ)) (hub : Hub (LedgerWorld σ τ)) :
    s.plain.step b hub.plain = (s.step b.recorded hub).map fun next => (next.1.plain, next.2.plain) := by
  obtain ⟨interval, services, scopes, ticker, phase, fault⟩ := s
  cases phase with
  | waiting =>
    have ht := Sampling.tick_plain (b := b) services interval.windowText hub.instant hub.host scopes
    have hi : hub.plain.instant = hub.instant := rfl
    have hc : hub.plain.isCancelled hub.plain.token = hub.isCancelled hub.token := rfl
    have hr : hub.plain.reaches ticker.due = hub.reaches ticker.due := rfl
    have hh : hub.plain.host = hub.host.plain := rfl
    simp only [plain, SamplerPhase.plain, step, hc, hr, hi, hh, ht]
    split_ifs
    · rfl
    · rfl
    · rcases Sampling.tick b.recorded services interval.windowText hub.instant hub.host scopes with
        ⟨left, scopes, e | events⟩ <;> rfl
  | sending events =>
    cases events with
    | nil => rfl
    | cons event rest =>
      have ho := hub.offer_plain .sampler hub.token event
      have ht : hub.plain.token = hub.token := rfl
      simp only [plain, SamplerPhase.plain, step, ht, ho]
      rcases hub.offer .sampler hub.token event with _ | ⟨next, _ | _ | _⟩ <;> rfl
  | closing t =>
    have ht := Teardown.step_plain (b := b) hub.now hub.host t
    have hn : hub.plain.now = hub.now := rfl
    have hh : hub.plain.host = hub.host.plain := rfl
    simp only [plain, SamplerPhase.plain, step, hn, hh, ht]
    rcases t.step b.recorded hub.now hub.host with _ | ⟨host, _ | t⟩ <;> rfl
  | done => rfl

/-- A sampler at work on a backend itself, as `SamplerRun` has it at work on one with a ledger. -/
inductive PlainRun (b : TrafficBackend σ τ) (interval : Span) (services : ServiceNames)
    (containers : List Container) : Hub σ → Sampler τ → List Event → Prop where
  | launched (hub) :
    PlainRun b interval services containers
      (Sampler.launch b interval services containers hub).1
      (Sampler.launch b interval services containers hub).2 []
  | others {hub s sent} (hub') : PlainRun b interval services containers hub s sent →
    PlainRun b interval services containers hub' s sent
  | step {hub hub' s s' sent} : PlainRun b interval services containers hub s sent →
    s.step b hub = some (hub', s') →
    PlainRun b interval services containers hub' s'
      (sent ++ hub'.channel.queue.drop hub.channel.queue.length)

section

variable {interval : Span} {services : ServiceNames} {containers : List Container} {sent : List Event}

theorem SamplerRun.plain {hub : Hub (LedgerWorld σ τ)} {s : Sampler (Numbered τ)}
    (run : SamplerRun b interval services containers hub s sent) :
    PlainRun b interval services containers hub.plain s.plain sent := by
  induction run with
  | launched hub _ =>
    have hl : PlainRun b interval services containers _ _ _ := .launched hub.plain
    rwa [Sampler.launch_plain] at hl
  | others hub' _ _ ih => exact ih.others hub'.plain
  | @step hub hub' s s' sent _ hs ih =>
    have hp : s.plain.step b hub.plain = some (hub'.plain, s'.plain) := by rw [Sampler.step_plain, hs]; rfl
    exact ih.step hp

def Hub.withLedger (hub : Hub σ) (ledger : Ledger σ τ) : Hub (LedgerWorld σ τ) :=
  ⟨⟨⟨hub.host.world, ledger⟩, hub.host.calls⟩, hub.now, hub.origin, hub.cancelled, hub.channel, hub.token⟩

/-- Every run on a backend itself is one on the backend with a ledger. -/
theorem PlainRun.recorded {hub : Hub σ} {s : Sampler τ}
    (run : PlainRun b interval services containers hub s sent) :
    ∃ hub' s', SamplerRun b interval services containers hub' s' sent ∧ hub'.plain = hub ∧ s'.plain = s := by
  induction run with
  | launched hub =>
    have hl := Sampler.launch_plain (b := b) interval services containers (hub.withLedger .empty)
    obtain ⟨hhub, hs⟩ := Prod.mk.inj hl.symm
    exact ⟨_, _, .launched (hub.withLedger .empty) rfl, hhub, hs⟩
  | others hub' _ ih =>
    obtain ⟨hub, s, run, -, hs⟩ := ih
    exact ⟨hub'.withLedger hub.host.world.ledger, s, run.others _ rfl, rfl, hs⟩
  | @step hub hub' s s' sent _ hstep ih =>
    obtain ⟨hub, s, run, rfl, rfl⟩ := ih
    rw [Sampler.step_plain] at hstep
    obtain ⟨⟨next, s'⟩, hs, heq⟩ := Option.map_eq_some_iff.mp hstep
    obtain ⟨rfl, rfl⟩ := Prod.mk.inj heq
    exact ⟨next, s', run.step hs, rfl, rfl⟩

end

end LabStream
