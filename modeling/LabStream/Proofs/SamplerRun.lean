import LabStream.Clockwork
import LabStream.EventStream
import LabStream.Proofs.Accounts
import LabStream.Proofs.SamplingTurns

namespace LabStream

variable {σ τ : Type} {b : TrafficBackend σ τ}

namespace Accounts

variable {host : Traced (LedgerWorld σ τ)} {live : List (CountedScope (Numbered τ))}

theorem loadScopes (specs : List TrafficScope) (first : Option TrafficFault)
    (h : Accounts b host.world.ledger live) :
    Accounts b (Sampling.loadScopes b.recorded host live first specs).1.world.ledger
      (Sampling.loadScopes b.recorded host live first specs).2.1 := by
  induction specs generalizing host live first with
  | nil => exact h
  | cons spec specs ih =>
    obtain ⟨world, result, hb⟩ : ∃ world result, b.load spec host.world.world = (world, result) := ⟨_, _, rfl⟩
    cases result with
    | error e =>
      rw [Sampling.loadScopes_refused (TrafficBackend.recorded_load_error hb)]
      exact h.outside rfl (by simp) (by simp) ⟨spec, by rw [hb]⟩
    | ok table =>
      rw [Sampling.loadScopes_loaded (TrafficBackend.recorded_load_ok hb)]
      have hl := h.load (e := ⟨.load true, host.world.world, world⟩) rfl (fun _ => ⟨spec, by rw [hb]⟩)
        table spec
      have hm := reconcile ⟨host.world.loaded table world, host.calls ++ [.load spec.id true]⟩ hl
      have hr := hm.readTally
      dsimp only
      split
      · exact hr
      · exact ih _ (hr.replace rfl rfl)

theorem loadAll (host : Traced (LedgerWorld σ τ)) (containers : List Container)
    (h : Accounts b host.world.ledger []) :
    Accounts b (Sampling.load b.recorded host containers).1.world.ledger
      (Sampling.load b.recorded host containers).2.1 := by
  have hp : Accounts b (host.perform .prepare b.recorded.prepare).1.world.ledger [] :=
    h.outside rfl (by simp) (by simp) rfl
  simp only [Sampling.load]
  split
  next heq => rwa [heq] at hp
  next prepared heq =>
    rw [heq] at hp
    have hd : Accounts b (prepared.perform (.discover containers.length)
        (b.recorded.discover containers)).1.world.ledger [] :=
      hp.outside rfl (by simp) (by simp) ⟨containers, rfl⟩
    split
    next heq => rwa [heq] at hd
    next found specs heq =>
      rw [heq] at hd
      have hl := hd.loadScopes (Sampling.inOrder specs) none
      split
      next heq => rwa [heq] at hl
      next heq =>
        rw [heq] at hl
        split_ifs <;> exact hl

theorem visit (services : ServiceNames) (p : Sampling.Progress) (rest : List (CountedScope (Numbered τ)))
    (h : Accounts b host.world.ledger (live ++ rest)) :
    Accounts b (Sampling.visit b.recorded services host p live rest).1.world.ledger
      (Sampling.visit b.recorded services host p live rest).2.1 := by
  induction rest generalizing host live p with
  | nil => simpa [Sampling.visit] using h
  | cons scope rest ih =>
    rw [Sampling.visit_cons]
    have hr := (h.reconcile host).readTally
    dsimp only
    split
    · exact hr
    · refine ih _ ?_
      rw [List.append_assoc]
      exact hr.replace rfl rfl

theorem tick (services : ServiceNames) (window : String) (now : Instant)
    (h : Accounts b host.world.ledger live) :
    Accounts b (Sampling.tick b.recorded services window now host live).1.world.ledger
      (Sampling.tick b.recorded services window now host live).2.1 := by
  have hv := visit services ⟨.empty, none⟩ live (List.nil_append live ▸ h)
  simp only [Sampling.tick, Sampling.tick.finish]
  split
  next heq => rwa [heq] at hv
  next heq =>
    rw [heq] at hv
    split
    · split_ifs <;> exact hv
    · exact hv

end Accounts

/-- Loads the counters and begins to sample them. What a fault leaves loaded is closed. -/
def Sampler.launch (b : TrafficBackend σ τ) (interval : Span) (services : ServiceNames)
    (containers : List Container) (hub : Hub σ) : Hub σ × Sampler τ :=
  match Sampling.load b hub.host containers with
  | (host, scopes, some fault) =>
    ({ hub with host }, (Sampler.start interval services scopes hub.now).stop (some fault))
  | (host, scopes, none) => ({ hub with host }, .start interval services scopes hub.now)

/-- A hub at its start, around a world in which nothing has been asked of a backend yet. -/
def Hub.opening (world : σ) : Hub (LedgerWorld σ τ) := ⟨.start ⟨world, .empty⟩, 0, 0, [], .ofCapacity 64, [0]⟩

/-- A sampler at work from its launch on, with all events that it has sent. Between its steps the hub
changes in any way, but nobody else asks anything of the backend. -/
inductive SamplerRun (b : TrafficBackend σ τ) (interval : Span) (services : ServiceNames)
    (containers : List Container) : Hub (LedgerWorld σ τ) → Sampler (Numbered τ) → List Event → Prop where
  | launched (hub) : hub.host.world.ledger = .empty →
    SamplerRun b interval services containers
      (Sampler.launch b.recorded interval services containers hub).1
      (Sampler.launch b.recorded interval services containers hub).2 []
  | others {hub s sent} (hub') : SamplerRun b interval services containers hub s sent →
    hub'.host.world.ledger = hub.host.world.ledger →
    SamplerRun b interval services containers hub' s sent
  | step {hub hub' s s' sent} : SamplerRun b interval services containers hub s sent →
    s.step b.recorded hub = some (hub', s') →
    SamplerRun b interval services containers hub' s'
      (sent ++ hub'.channel.queue.drop hub.channel.queue.length)

structure Teardown.Accounted (b : TrafficBackend σ τ) (l : Ledger σ τ) (t : Teardown (Numbered τ)) :
    Prop where
  accounts : Accounts b l t.scopes
  detached : t.closeAt ≠ none → ∀ scope ∈ t.scopes.head?, scope.attached = ∅

def Sampler.Accounted (b : TrafficBackend σ τ) (l : Ledger σ τ) (s : Sampler (Numbered τ)) : Prop :=
  match s.phase with
  | .waiting | .sending _ => Accounts b l s.scopes
  | .closing t => t.Accounted b l
  | .done => ∃ l' e, l = l'.add e ∧ e.deed = .finish ∧ e.Faithful b l'.tables ∧ Accounts b l' []

theorem Teardown.Accounted.ofScopes {l : Ledger σ τ} {scopes : List (CountedScope (Numbered τ))}
    (h : Accounts b l scopes) : (Teardown.ofScopes scopes).Accounted b l :=
  ⟨h, fun hne => absurd rfl hne⟩

theorem Teardown.Accounted.step {host host' : Traced (LedgerWorld σ τ)} {t t' : Teardown (Numbered τ)}
    {now : Nat} (h : t.Accounted b host.world.ledger)
    (hs : t.step b.recorded now host = some (host', some t')) :
    t'.Accounted b host'.world.ledger := by
  obtain ⟨scopes, closeAt⟩ := t
  cases scopes with
  | nil => simp [Teardown.step] at hs
  | cons scope rest =>
    cases closeAt with
    | none =>
      obtain ⟨rfl, rfl⟩ : _ ∧ _ := by simpa [Teardown.step] using hs
      have hd := Accounts.detachAll host (List.nil_append (scope :: rest) ▸ h.accounts)
      refine ⟨hd, fun _ => ?_⟩
      simpa using CountedScope.detachAll_attached host scope
    | some time =>
      by_cases hn : now < time
      · simp [Teardown.step, hn] at hs
      obtain ⟨rfl, rfl⟩ : _ ∧ _ := by simpa [Teardown.step, hn] using hs
      have hfree := h.detached (by simp) scope rfl
      have hknown := h.accounts.known scope List.mem_cons_self
      exact .ofScopes (h.accounts.close hfree rfl ⟨_, hknown, rfl⟩)

/-- The last step of a teardown comes after all scopes are closed. -/
theorem Teardown.Accounted.finish {host host' : Traced (LedgerWorld σ τ)} {t : Teardown (Numbered τ)}
    {now : Nat} (h : t.Accounted b host.world.ledger) (hs : t.step b.recorded now host = some (host', none)) :
    ∃ l e, host'.world.ledger = l.add e ∧ e.deed = .finish ∧ e.Faithful b l.tables ∧ Accounts b l [] := by
  obtain ⟨scopes, closeAt⟩ := t
  cases scopes with
  | nil =>
    obtain rfl : _ = host' := by simpa [Teardown.step] using hs
    exact ⟨_, _, rfl, rfl, rfl, h.accounts⟩
  | cons scope rest =>
    cases closeAt with
    | none => simp [Teardown.step] at hs
    | some time => by_cases hn : now < time <;> simp [Teardown.step, hn] at hs

theorem Sampler.Accounted.launch (interval : Span) (services : ServiceNames) (containers : List Container)
    {hub : Hub (LedgerWorld σ τ)} (h : hub.host.world.ledger = .empty) :
    (Sampler.launch b.recorded interval services containers hub).2.Accounted b
      (Sampler.launch b.recorded interval services containers hub).1.host.world.ledger := by
  have hl := Accounts.loadAll (b := b) hub.host containers (h ▸ .empty)
  simp only [Sampler.launch]
  split
  next heq =>
    rw [heq] at hl
    exact .ofScopes hl
  next heq => rwa [heq] at hl

theorem Sampler.Accounted.step {hub hub' : Hub (LedgerWorld σ τ)} {s s' : Sampler (Numbered τ)}
    (h : s.Accounted b hub.host.world.ledger) (hs : s.step b.recorded hub = some (hub', s')) :
    s'.Accounted b hub'.host.world.ledger := by
  unfold Accounted at h
  cases step_turn hs with
  | cancelled hp =>
    rw [hp] at h
    exact .ofScopes h
  | failed _ hp heq =>
    rw [hp] at h
    have ht := h.tick s.services s.interval.windowText hub.instant
    rw [heq] at ht
    exact .ofScopes ht
  | sampled _ hp heq =>
    rw [hp] at h
    have ht := h.tick s.services s.interval.windowText hub.instant
    rwa [heq] at ht
  | rested hp =>
    rw [hp] at h
    exact h
  | sent hp =>
    rw [hp] at h
    exact h
  | blocked hp => exact h
  | refused hp =>
    rw [hp] at h
    exact .ofScopes h
  | unloaded hp heq =>
    rw [hp] at h
    exact h.step heq
  | finished hp heq =>
    rw [hp] at h
    exact h.finish heq

theorem SamplerRun.accounted {interval : Span} {services : ServiceNames} {containers : List Container}
    {hub : Hub (LedgerWorld σ τ)} {s : Sampler (Numbered τ)} {sent : List Event}
    (run : SamplerRun b interval services containers hub s sent) : s.Accounted b hub.host.world.ledger := by
  induction run with
  | launched _ h => exact .launch _ _ _ h
  | others _ _ heq ih => exact heq ▸ ih
  | step _ hs ih => exact ih.step hs

/-- A step only adds to the queue. -/
theorem Sampler.step_queue {σ τ : Type} {b : TrafficBackend σ τ} {hub hub' : Hub σ} {s s' : Sampler τ}
    (hs : s.step b hub = some (hub', s')) : hub.channel.queue <+: hub'.channel.queue := by
  cases step_turn hs with
  | sent _ hq => exact hq ▸ List.prefix_append _ _
  | blocked _ hq | refused _ hq => exact hq ▸ List.prefix_refl _
  | cancelled | failed | sampled | rested | unloaded | finished => exact List.prefix_refl _

def Sampler.clockwork {σ τ : Type} (b : TrafficBackend σ τ) : Clockwork (Hub σ × Sampler τ) where
  step state := state.2.step b state.1
  now state := state.1.now
  setNow state now := ({ state.1 with now }, state.2)
  wakeTimes state := state.2.wakeTime.toList

theorem Sampler.settle_queue {σ τ : Type} {b : TrafficBackend σ τ} (fuel : Nat) (state : Hub σ × Sampler τ) :
    state.1.channel.queue <+: ((clockwork b).settle fuel state).1.channel.queue := by
  induction fuel generalizing state with
  | zero => exact List.prefix_refl _
  | succ fuel ih =>
    simp only [Clockwork.settle]
    split
    next hs => exact (step_queue hs).trans (ih _)
    next => exact List.prefix_refl _

/-- Settling, all that comes into the queue is sent by the sampler. -/
theorem SamplerRun.settle {interval : Span} {services : ServiceNames} {containers : List Container}
    {hub : Hub (LedgerWorld σ τ)} {s : Sampler (Numbered τ)} {sent : List Event}
    (run : SamplerRun b interval services containers hub s sent) (fuel : Nat) :
    let state := (Sampler.clockwork b.recorded).settle fuel (hub, s)
    SamplerRun b interval services containers state.1 state.2
      (sent ++ state.1.channel.queue.drop hub.channel.queue.length) := by
  induction fuel generalizing hub s sent with
  | zero => simpa [Clockwork.settle] using run
  | succ fuel ih =>
    simp only [Clockwork.settle]
    split
    next next hs =>
      obtain ⟨new, hnew⟩ := Sampler.step_queue hs
      obtain ⟨more, hmore⟩ := Sampler.settle_queue (b := b.recorded) fuel next
      have hrest := ih (run.step hs)
      simpa [← hmore, ← hnew] using hrest
    next => simpa using run

end LabStream
