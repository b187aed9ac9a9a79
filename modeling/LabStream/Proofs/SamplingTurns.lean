import Mathlib.Tactic.SplitIfs
import LabStream.Sampler

namespace LabStream

namespace Sampling

variable {σ τ : Type} {b : TrafficBackend σ τ} {host : Traced σ}

theorem loadScopes_refused {spec : TrafficScope} {world : σ} {e : TrafficFault}
    (hb : b.load spec host.world = (world, .error e)) (loaded : List (CountedScope τ))
    (first : Option TrafficFault) (rest : List TrafficScope) :
    loadScopes b host loaded first (spec :: rest) =
      (⟨world, host.calls ++ [.load spec.id false]⟩, loaded, first, some e) := by
  simp [loadScopes, Traced.performNoting, hb, Except.toOption]

/-- A scope that is loaded is reconciled and read before the next one is loaded. -/
theorem loadScopes_loaded {spec : TrafficScope} {world : σ} {table : τ}
    (hb : b.load spec host.world = (world, .ok table)) (loaded : List (CountedScope τ))
    (first : Option TrafficFault) (rest : List TrafficScope) :
    loadScopes b host loaded first (spec :: rest) =
      let met := CountedScope.reconcile b ⟨world, host.calls ++ [.load spec.id true]⟩ (.fresh spec table)
      let first := first.or met.2.2
      let reading := met.2.1.readTally b met.1
      match reading.2 with
      | .error e => (reading.1, loaded ++ [met.2.1], first, some e)
      | .ok baseline =>
        loadScopes b reading.1 (loaded ++ [{ met.2.1 with previous := baseline }]) first rest := by
  simp only [loadScopes, Traced.performNoting, hb, Except.toOption, Option.isSome]
  split <;> simp [*]

def grown (services : ServiceNames) (sums : TrafficSums) (scope : CountedScope τ) (growth : Tally) :
    TrafficSums :=
  if growth.isEmpty then sums else sums.addScope scope.spec.qualifier scope.names growth services

/-- A scope is reconciled and read before the next one is visited. -/
theorem visit_cons (services : ServiceNames) (p : Progress) (seen : List (CountedScope τ))
    (scope : CountedScope τ) (rest : List (CountedScope τ)) :
    visit b services host p seen (scope :: rest) =
      let met := scope.reconcile b host
      let reading := met.2.1.readTally b met.1
      match reading.2 with
      | .error e => (reading.1, seen ++ met.2.1 :: rest, .error e)
      | .ok current =>
        let sums := grown services p.sums met.2.1 (met.2.1.previous.growth current)
        visit b services reading.1 ⟨sums, p.fault.or met.2.2⟩
          (seen ++ [{ met.2.1 with previous := current }]) rest := by
  simp only [visit, grown]
  split <;> simp [*]

/-- A tick without a fault goes through all scopes; it is silent if their sums are empty. -/
theorem visit_of_tick {services : ServiceNames} {window : String} {now : Instant} {host' : Traced σ}
    {scopes scopes' : List (CountedScope τ)} {batch : List Event}
    (h : tick b services window now host scopes = (host', scopes', .ok batch)) :
    ∃ p, visit b services host ⟨.empty, none⟩ [] scopes = (host', scopes', .ok p) ∧
      batch = if p.sums.isEmpty then [] else events now window scopes' p.sums := by
  unfold tick at h
  split at h
  next => simp at h
  next host₁ visited p hv =>
    have hfinish : tick.finish window now host₁ visited p.sums = (host', scopes', .ok batch) := by
      split at h
      · split_ifs at h
        · simp at h
        · exact h
      · exact h
    obtain ⟨rfl, rfl, hbatch⟩ : host₁ = host' ∧ visited = scopes' ∧
        (if p.sums.isEmpty then [] else events now window visited p.sums) = batch := by
      simpa [tick.finish] using hfinish
    exact ⟨p, hv, hbatch.symm⟩

end Sampling

namespace Channel

variable {α π : Type}

theorem queue_grant (ch : Channel α π) : ch.grant.queue = ch.queue := by
  unfold grant
  split
  · rfl
  · split_ifs <;> rfl

variable [DecidableEq π]

theorem queue_leave (ch : Channel α π) (p : π) : (ch.leave p).queue = ch.queue := queue_grant _

/-- Only an item that is sent gets into the queue. -/
theorem queue_poll (ch : Channel α π) (p : π) (cancelled : Bool) (item : α) :
    (ch.poll p cancelled item).1.queue =
      ch.queue ++ if (ch.poll p cancelled item).2 = .sent then [item] else [] := by
  unfold poll
  split_ifs <;> simp_all [queue_leave]

end Channel

theorem Hub.offer_eq_some {σ : Type} {hub hub' : Hub σ} {p : Producer} {token : Token} {event : Event}
    {poll : SendPoll} (h : hub.offer p token event = some (hub', poll)) :
    ∃ channel, hub' = { hub with channel } ∧
      channel.queue = hub.channel.queue ++ if poll = .sent then [event] else [] := by
  have hs : hub.send p token event = (hub', poll) := by
    unfold offer at h
    split at h
    next heq =>
      split_ifs at h
      exact heq.trans (Option.some.inj h)
    next => exact Option.some.inj h
  obtain ⟨rfl, rfl⟩ := Prod.mk.inj hs
  exact ⟨_, rfl, hub.channel.queue_poll p _ event⟩

namespace Sampler

variable {σ τ : Type}

/-- What one step of a sampler can be. -/
inductive Turn (b : TrafficBackend σ τ) (hub : Hub σ) (s : Sampler τ) : Hub σ → Sampler τ → Prop where
  | cancelled : s.phase = .waiting → Turn b hub s hub (s.stop none)
  | failed {host scopes e} (ticker : Ticker) : s.phase = .waiting →
    Sampling.tick b s.services s.interval.windowText hub.instant hub.host s.scopes = (host, scopes, .error e) →
    Turn b hub s { hub with host } ({ s with ticker, scopes }.stop (some e))
  | sampled {host scopes events} (ticker : Ticker) : s.phase = .waiting →
    Sampling.tick b s.services s.interval.windowText hub.instant hub.host s.scopes = (host, scopes, .ok events) →
    Turn b hub s { hub with host } { s with ticker, scopes, phase := .sending events }
  | rested : s.phase = .sending [] → Turn b hub s hub { s with phase := .waiting }
  | sent {event rest channel} : s.phase = .sending (event :: rest) →
    channel.queue = hub.channel.queue ++ [event] →
    Turn b hub s { hub with channel } { s with phase := .sending rest }
  | blocked {events channel} : s.phase = .sending events → channel.queue = hub.channel.queue →
    Turn b hub s { hub with channel } s
  | refused {events channel} : s.phase = .sending events → channel.queue = hub.channel.queue →
    Turn b hub s { hub with channel } (s.stop none)
  | unloaded {t host t'} : s.phase = .closing t → t.step b hub.now hub.host = some (host, some t') →
    Turn b hub s { hub with host } { s with phase := .closing t' }
  | finished {t host} : s.phase = .closing t → t.step b hub.now hub.host = some (host, none) →
    Turn b hub s { hub with host } { s with phase := .done }

theorem step_turn {b : TrafficBackend σ τ} {hub hub' : Hub σ} {s s' : Sampler τ}
    (h : s.step b hub = some (hub', s')) : Turn b hub s hub' s' := by
  unfold step at h
  split at h
  next => cases h
  next hp =>
    split_ifs at h
    · cases h
      exact .cancelled hp
    · dsimp only at h
      split at h
      next heq =>
        cases h
        exact .failed _ hp heq
      next heq =>
        cases h
        exact .sampled _ hp heq
  next hp =>
    cases h
    exact .rested hp
  next hp =>
    split at h
    next => cases h
    next heq =>
      cases h
      obtain ⟨channel, rfl, hq⟩ := Hub.offer_eq_some heq
      exact .blocked hp (by simpa using hq)
    next heq =>
      cases h
      obtain ⟨channel, rfl, hq⟩ := Hub.offer_eq_some heq
      exact .refused hp (by simpa using hq)
    next heq =>
      cases h
      obtain ⟨channel, rfl, hq⟩ := Hub.offer_eq_some heq
      exact .sent hp (by simpa using hq)
  next hp =>
    split at h
    next => cases h
    next heq =>
      cases h
      exact .unloaded hp heq
    next heq =>
      cases h
      exact .finished hp heq

end Sampler

end LabStream
