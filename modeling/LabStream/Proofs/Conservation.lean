import LabStream.ScriptedWorld
import LabStream.Proofs.Balance

namespace LabStream

variable {σ τ : Type} {b : TrafficBackend σ τ} {services : ServiceNames}

theorem readTally_ok {host : Traced (LedgerWorld σ τ)} {scope : CountedScope (Numbered τ)} {current : Tally}
    (h : (scope.readTally b.recorded host).2 = .ok current) :
    ∃ e, (scope.readTally b.recorded host).1.world.ledger = host.world.ledger.add e ∧
      e.deed = .read scope.table.number (some current) := by
  have hr : (b.read scope.table.table host.world.world).2 = .ok current := h
  exact ⟨_, rfl, by rw [hr]; rfl⟩

namespace Balanced

variable {host host' : Traced (LedgerWorld σ τ)} {scopes scopes' : List (CountedScope (Numbered τ))}
  {told : Quantity → String → Rollup → Nat}

theorem loadScopes (specs : List TrafficScope) {first first' : Option TrafficFault}
    (h : Balanced services host.world.ledger scopes told)
    (hl : Sampling.loadScopes b.recorded host scopes first specs = (host', scopes', first', none)) :
    Balanced services host'.world.ledger scopes' told := by
  induction specs generalizing host scopes first with
  | nil =>
    obtain ⟨rfl, rfl, -⟩ : host = host' ∧ scopes = scopes' ∧ first = first' := by
      simpa [Sampling.loadScopes] using hl
    exact h
  | cons spec specs ih =>
    obtain ⟨world, result, hb⟩ : ∃ world result, b.load spec host.world.world = (world, result) := ⟨_, _, rfl⟩
    cases result with
    | error e =>
      rw [Sampling.loadScopes_refused (TrafficBackend.recorded_load_error hb)] at hl
      simp at hl
    | ok table =>
      rw [Sampling.loadScopes_loaded (TrafficBackend.recorded_load_ok hb)] at hl
      dsimp only at hl
      split at hl
      next => simp at hl
      next baseline hbase =>
        refine ih ?_ hl
        obtain ⟨e, hadd, he⟩ := readTally_ok hbase
        have hu := Unread.reconcile (b := b)
          ⟨host.world.loaded table world, host.calls ++ [.load spec.id true]⟩
          (.fresh spec ⟨host.world.ledger.tables.length, table⟩)
        refine h.load table baseline ?_ ?_ rfl ?_
        · rw [hadd, Ledger.tables_add]
          exact hu.tables
        · exact congrArg Numbered.number hu.table
        · intro n
          have hload : readings n [.load true] = [] := rfl
          rw [hadd, Ledger.deeds_add, readings_append, hu.readings, he, readings_of_read,
            LedgerWorld.deeds_loaded, readings_append, hload, List.append_nil]

theorem loadAll {containers : List Container} (h : Balanced services host.world.ledger [] told)
    (hl : Sampling.load b.recorded host containers = (host', scopes', none)) :
    Balanced services host'.world.ledger scopes' told := by
  have hp : Balanced services (host.perform .prepare b.recorded.prepare).1.world.ledger [] told :=
    h.outside fun _ => rfl
  simp only [Sampling.load] at hl
  split at hl
  next => simp at hl
  next prepared heq =>
    rw [heq] at hp
    have hd : Balanced services (prepared.perform (.discover containers.length)
        (b.recorded.discover containers)).1.world.ledger [] told := hp.outside fun _ => rfl
    split at hl
    next => simp at hl
    next found specs heq =>
      rw [heq] at hd
      split at hl
      next => simp at hl
      next heq =>
        have hs := hd.loadScopes _ heq
        split_ifs at hl
        · cases hl
        · cases hl
          exact hs
        · cases hl
          exact hs

theorem visit {seen : List (CountedScope (Numbered τ))} {p p' : Sampling.Progress}
    (rest : List (CountedScope (Numbered τ)))
    (h : Balanced services host.world.ledger (seen ++ rest) fun q label r =>
      told q label r + p.sums.weight q label r)
    (hv : Sampling.visit b.recorded services host p seen rest = (host', scopes', .ok p')) :
    Balanced services host'.world.ledger scopes' fun q label r =>
      told q label r + p'.sums.weight q label r := by
  induction rest generalizing host seen p with
  | nil =>
    obtain ⟨rfl, rfl, rfl⟩ : host = host' ∧ seen = scopes' ∧ p = p' := by simpa [Sampling.visit] using hv
    simpa using h
  | cons scope rest ih =>
    rw [Sampling.visit_cons] at hv
    dsimp only at hv
    split at hv
    next => simp at hv
    next current hr =>
      refine ih ?_ hv
      obtain ⟨e, hadd, he⟩ := readTally_ok hr
      have hm := (h.unread_scope (Unread.reconcile (b := b) host scope)).read he
      rw [List.append_assoc, hadd]
      refine hm.congr fun q label r => ?_
      simp only [TrafficSums.weight_grown, Tally.weight_growth, Nat.add_assoc]

theorem tick {window : String} {now : Instant} {events : List Event}
    (h : Balanced services host.world.ledger scopes told)
    (ht : Sampling.tick b.recorded services window now host scopes = (host', scopes', .ok events)) :
    Balanced services host'.world.ledger scopes' fun q label r =>
      told q label r + reported q label r events := by
  have h' : Balanced services host.world.ledger ([] ++ scopes) fun q label r =>
      told q label r + TrafficSums.empty.weight q label r :=
    h.congr fun q label r => by simp [TrafficSums.weight_empty]
  obtain ⟨p, hv, rfl⟩ := Sampling.visit_of_tick ht
  have hvisited := visit (p := ⟨.empty, none⟩) scopes h' hv
  exact hvisited.congr fun q label r => by rw [Sampling.reported_batch]

end Balanced

/-- What a sampler has sent and has still to send is in balance. -/
def Sampler.InBalance (services : ServiceNames) (l : Ledger σ τ) (s : Sampler (Numbered τ))
    (sent : List Event) : Prop :=
  s.services = services ∧
    match s.phase with
    | .waiting => Balanced services l s.scopes fun q label r => reported q label r sent
    | .sending rest => Balanced services l s.scopes fun q label r => reported q label r (sent ++ rest)
    | .closing _ | .done => True

theorem Sampler.InBalance.launch (interval : Span) (containers : List Container) {hub : Hub (LedgerWorld σ τ)}
    (h : hub.host.world.ledger = .empty) :
    (Sampler.launch b.recorded interval services containers hub).2.InBalance services
      (Sampler.launch b.recorded interval services containers hub).1.host.world.ledger [] := by
  unfold Sampler.launch
  split
  next => exact ⟨rfl, trivial⟩
  next heq => exact ⟨rfl, Balanced.loadAll (h ▸ Balanced.empty) heq⟩

theorem Sampler.InBalance.step {hub hub' : Hub (LedgerWorld σ τ)} {s s' : Sampler (Numbered τ)}
    {sent : List Event} (h : s.InBalance services hub.host.world.ledger sent)
    (hs : s.step b.recorded hub = some (hub', s')) :
    s'.InBalance services hub'.host.world.ledger
      (sent ++ hub'.channel.queue.drop hub.channel.queue.length) := by
  obtain ⟨hservices, h⟩ := h
  cases step_turn hs with
  | cancelled | failed | refused | unloaded | finished => exact ⟨hservices, trivial⟩
  | sampled _ hp ht =>
    rw [hp] at h
    rw [hservices] at ht
    exact ⟨hservices, (h.tick ht).congr fun q label r => by simp⟩
  | rested hp =>
    rw [hp] at h
    exact ⟨hservices, h.congr fun q label r => by simp⟩
  | sent hp hq =>
    rw [hp] at h
    exact ⟨hservices, h.congr fun q label r => by simp [hq, reported]⟩
  | blocked hp hq =>
    rw [hp] at h
    refine ⟨hservices, ?_⟩
    rw [hp]
    exact h.congr fun q label r => by simp [hq]

theorem SamplerRun.inBalance {interval : Span} {containers : List Container} {hub : Hub (LedgerWorld σ τ)}
    {s : Sampler (Numbered τ)} {sent : List Event}
    (run : SamplerRun b interval services containers hub s sent) :
    s.InBalance services hub.host.world.ledger sent := by
  induction run with
  | launched _ h => exact .launch _ _ h
  | others _ _ heq ih => exact heq ▸ ih
  | step _ hs ih => exact ih.step hs

/-- What the events of a sampler tell of a label is what the readings of all tables have grown, from the
first one before all ticks to the last one, as long as no counter goes down. -/
theorem SamplerRun.growth_reported {interval : Span} {containers : List Container} {hub : Hub (LedgerWorld σ τ)}
    {s : Sampler (Numbered τ)} {sent : List Event}
    (run : SamplerRun b interval services containers hub s sent) (waits : s.phase = .waiting)
    (grows : ∀ n < hub.host.world.ledger.tables.length,
      (readings n hub.host.world.ledger.deeds).IsChain Tally.GrowsTo)
    (q : Quantity) (label : String) (r : Rollup) :
    reported q label r sent = ∑ n ∈ Finset.range hub.host.world.ledger.tables.length,
      Tally.increase services label q ((readings n hub.host.world.ledger.deeds).headD ∅)
        ((readings n hub.host.world.ledger.deeds).getLastD ∅) := by
  obtain ⟨-, h⟩ := run.inBalance
  rw [waits] at h
  rw [h.balance]
  exact Finset.sum_congr rfl fun n hn => Tally.increases_eq services label q (grows n (Finset.mem_range.mp hn))

instance (phase : SamplerPhase τ) : Decidable (phase = .waiting) :=
  match phase with
  | .waiting => isTrue rfl
  | .sending _ | .closing _ | .done => isFalse nofun

def pings (packets bytes : Nat) : Tally := .ofPairs [(⟨3, 0, 4, 0⟩, ⟨packets, bytes⟩)]

def Hub.later (hub : Hub (LedgerWorld σ τ)) (now : Nat) (world : σ) : Hub (LedgerWorld σ τ) :=
  { hub with now, host.world.world := world }

theorem growth_reported_of_pings : ∃ hub s sent,
    SamplerRun ScriptedWorld.backend (.ofSeconds 1) .empty [] hub s sent ∧
      readings 0 hub.host.world.ledger.deeds = [pings 5 500, pings 12 1300] ∧
      reported .packets "icmp" .global sent = 7 ∧ reported .bytes "icmp" .interface sent = 800 := by
  have start : SamplerRun ScriptedWorld.backend (.ofSeconds 1) .empty [] _ _ _ :=
    .launched (.opening (.ofHost [ScriptedWorld.veth 3 "eth3"] (pings 5 500))) rfl
  have later := start.others (.later _ 1000000000 (.ofHost [ScriptedWorld.veth 3 "eth3"] (pings 12 1300))) rfl
  have run := later.settle 5
  have told := run.growth_reported (by decide +kernel) (by decide +kernel)
  exact ⟨_, _, _, run, by decide +kernel, (told .packets "icmp" .global).trans (by decide +kernel),
    (told .bytes "icmp" .interface).trans (by decide +kernel)⟩

end LabStream
