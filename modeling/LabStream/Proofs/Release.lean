import LabStream.Proofs.SamplerRun
import LabStream.ScriptedWorld

namespace LabStream

/-- Everything is given back: each interface of a table is detached as often as it was attached, each
table that was loaded is closed once and not used afterwards, and the end comes once and last. -/
structure Released (deeds : List Deed) : Prop where
  paired : ∀ table < deeds.count (.load true), ∀ ifname, Paired (holds table ifname deeds)
  closed : ∀ table < deeds.count (.load true), ∃ before after, deeds = before ++ .close table :: after ∧
    .close table ∉ before ∧ ∀ d ∈ after, d.table? ≠ some table
  finished : ∃ before, deeds = before ++ [.finish] ∧ .finish ∉ before

section

variable {σ τ : Type} {b : TrafficBackend σ τ} {interval : Span} {services : ServiceNames}
  {containers : List Container} {hub : Hub (LedgerWorld σ τ)} {s : Sampler (Numbered τ)} {sent : List Event}

/-- The ledger of a sampler that is done. -/
structure Ledger.Settled (b : TrafficBackend σ τ) (l : Ledger σ τ) : Prop where
  closed : ∀ table < l.tables.length, ∀ ifname, stage table ifname l.deeds = .closed
  loads : l.deeds.count (.load true) = l.tables.length
  finished : ∃ before, l.deeds = before ++ [.finish] ∧ .finish ∉ before
  faithful : ∀ e ∈ l.entries, e.Faithful b l.tables

theorem SamplerRun.settled (run : SamplerRun b interval services containers hub s sent) (hd : s.isDone) :
    hub.host.world.ledger.Settled b := by
  have h := run.accounted
  unfold Sampler.Accounted at h
  cases hp : s.phase with
  | waiting | sending | closing => simp [Sampler.isDone, hp] at hd
  | done =>
    rw [hp] at h
    obtain ⟨l, e, hl, he, hf, ha⟩ := h
    rw [hl]
    refine ⟨fun n hn ifname => ?_, ?_, ⟨l.deeds, by simp [he], ha.unfinished⟩, ?_⟩
    · rw [Ledger.deeds_add, stage_append_other (by simp [he, Deed.table?])]
      exact ha.closed n hn (by simp) ifname
    · rw [Ledger.deeds_add, List.count_append, ha.loads, he]
      simp
    · exact List.forall_mem_append.mpr ⟨ha.faithful, List.forall_mem_singleton.mpr hf⟩

/-- Whatever fails on the way, a sampler that is done has given everything back. -/
theorem SamplerRun.released (run : SamplerRun b interval services containers hub s sent) (hd : s.isDone) :
    Released hub.host.world.ledger.deeds := by
  have h := run.settled hd
  refine ⟨fun n hn ifname => ?_, fun n hn => ?_, h.finished⟩
  · exact (closed_shape (h.closed n (h.loads ▸ hn) ifname)).1
  · exact (closed_shape (h.closed n (h.loads ▸ hn) "")).2

def Teardown.left (t : Teardown τ) : Nat := 2 * t.scopes.length + if t.closeAt.isNone then 2 else 1

theorem Teardown.step_left (b : TrafficBackend σ τ) (host : Traced σ) {now : Nat} (t : Teardown τ)
    (h : ∀ time ∈ t.closeAt, time ≤ now) :
    ∃ host' next, t.step b now host = some (host', next) ∧ ∀ t' ∈ next, t'.left < t.left := by
  obtain ⟨scopes, closeAt⟩ := t
  cases scopes with
  | nil => exact ⟨_, none, rfl, by simp⟩
  | cons scope rest =>
    cases closeAt with
    | none => exact ⟨_, _, rfl, by simp [left]⟩
    | some time =>
      have hn : ¬ now < time := Nat.not_lt.mpr (h time rfl)
      refine ⟨_, some ⟨rest, none⟩, if_neg hn, fun t' ht => ?_⟩
      obtain rfl := Option.some.inj ht
      simp [left]
      omega

def Sampler.left (s : Sampler τ) : Nat :=
  match s.phase with
  | .waiting => (Teardown.ofScopes s.scopes).left + 1
  | .sending _ => (Teardown.ofScopes s.scopes).left + 2
  | .closing t => t.left
  | .done => 0

/-- A cancelled sampler for which it is late enough makes a step, and comes closer to its end. -/
theorem Sampler.step_left {b : TrafficBackend σ τ} {hub : Hub σ} {s : Sampler τ}
    (hc : hub.isCancelled hub.token) (hl : ∀ time ∈ s.wakeTime, time ≤ hub.now) (hd : s.isDone = false) :
    ∃ hub' s', s.step b hub = some (hub', s') ∧ s'.left < s.left := by
  obtain ⟨interval, services, scopes, ticker, phase, fault⟩ := s
  cases phase with
  | waiting => exact ⟨_, _, if_pos hc, Nat.lt_succ_self _⟩
  | sending events =>
    cases events with
    | nil => exact ⟨_, _, rfl, Nat.lt_succ_self _⟩
    | cons event rest =>
      have ho : hub.offer .sampler hub.token event =
          some ({ hub with channel := hub.channel.leave .sampler }, .refused) := by
        simp [Hub.offer, Hub.send, Channel.poll, hc]
      refine ⟨_, _, by simp only [step, ho]; rfl, ?_⟩
      simp [left, stop]
  | closing t =>
    obtain ⟨host', next, heq, hlt⟩ := t.step_left b hub.host hl
    cases next with
    | none =>
      refine ⟨_, _, by simp only [step, heq]; rfl, ?_⟩
      simp only [left, Teardown.left]
      split_ifs <;> omega
    | some t' =>
      refine ⟨_, _, by simp only [step, heq]; rfl, ?_⟩
      exact hlt t' rfl
  | done => simp [isDone] at hd

/-- From anywhere, a cancelled sampler gets to its end as time goes by. -/
theorem SamplerRun.reaches_end (run : SamplerRun b interval services containers hub s sent) :
    ∃ hub' s' sent', SamplerRun b interval services containers hub' s' sent' ∧ s'.isDone := by
  -- By induction on what is left to do; the clock goes on to the time at which the sampler wakes up.
  induction hn : s.left using Nat.strongRecOn generalizing hub s sent with
  | ind n ih =>
    cases hd : s.isDone with
    | true => exact ⟨hub, s, sent, run, hd⟩
    | false =>
      let late := { hub.cancel hub.token with now := max hub.now (s.wakeTime.getD 0) }
      have hc : late.isCancelled late.token := by simp [late, Hub.isCancelled, Hub.cancel,
        Cancellations.cancel, Cancellations.covers]
      have hl : ∀ time ∈ s.wakeTime, time ≤ late.now := by
        intro time ht
        have hlate : late.now = max hub.now time := by simp [late, Option.mem_def.mp ht]
        rw [hlate]
        exact Nat.le_max_right _ _
      obtain ⟨hub', s', hs, hlt⟩ := s.step_left (b := b.recorded) hc hl hd
      exact ih _ (hn ▸ hlt) ((run.others late rfl).step hs) rfl

end

theorem released_after_cancellation : ∃ hub s sent,
    SamplerRun ScriptedWorld.backend (.ofSeconds 1) .empty [] hub s sent ∧ s.isDone ∧
      hub.host.world.ledger.deeds = [.prepare, .discover, .load true, .links 0, .attach 0 "eth3" true,
        .read 0 (some ∅), .detach 0 "eth3", .close 0, .finish] ∧ Released hub.host.world.ledger.deeds := by
  have start : SamplerRun ScriptedWorld.backend (.ofSeconds 1) .empty [] _ _ _ :=
    .launched (.opening (.ofHost [ScriptedWorld.veth 3 "eth3"] ∅)) rfl
  have stopped := start.others (Hub.cancel _ [0]) rfl
  have run := stopped.settle 5
  refine ⟨_, _, _, run, by decide +kernel, by decide +kernel, run.released (by decide +kernel)⟩

end LabStream
