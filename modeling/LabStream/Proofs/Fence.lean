import LabStream.Proofs.Heed
import LabStream.Proofs.Rendering
import LabStream.Proofs.StreamPlay

namespace LabStream

variable {σ τ : Type}

namespace StreamMove

def takenEvent? : StreamMove → Option RuntimeEvent
  | taken e _ => some e
  | entered .. | received .. => none

/-- Whether it is the forwarder that moves. -/
def isForwarding : StreamMove → Bool
  | taken .. | entered .forwarder _ => true
  | entered .. | received .. => false

end StreamMove

/-- The event that was taken off the feed last. The forwarder's next record is that of this event. -/
def lastTaken (moves : List StreamMove) : Option RuntimeEvent := (moves.filterMap StreamMove.takenEvent?).getLast?

theorem lastTaken_append (moves more : List StreamMove) :
    lastTaken (moves ++ more) = (lastTaken more).or (lastTaken moves) := by
  rw [lastTaken, List.filterMap_append, List.getLast?_append]
  rfl

theorem lastTaken_eq_none {moves : List StreamMove} (h : ∀ move ∈ moves, move.isForwarding = false) :
    lastTaken moves = none := by
  have hnone : moves.filterMap StreamMove.takenEvent? = [] := by
    rw [List.filterMap_eq_nil_iff]
    intro move hmem
    have hmove := h move hmem
    cases move with
    | taken => cases hmove
    | entered | received => rfl
  rw [lastTaken, hnone]
  rfl

theorem lastTaken_taken (earlier : List StreamMove) (e : RuntimeEvent) (begun : Option Nat) {since : List StreamMove}
    (h : ∀ move ∈ since, move.isForwarding = false) : lastTaken (earlier ++ .taken e begun :: since) = some e := by
  have hsince := lastTaken_append [.taken e begun] since
  rw [lastTaken_eq_none h] at hsince
  rw [lastTaken_append, show .taken e begun :: since = [.taken e begun] ++ since from rfl, hsince]
  rfl

namespace Forwarder

def isIdle : Forwarder → Bool
  | waiting | done _ => true
  | dismissing .. | asking .. | sending _ => false

/-- Whether a forwarder is at work on an event. -/
def WorksOn (e : RuntimeEvent) : Forwarder → Prop
  | dismissing _ e' | asking e' .. => e' = e
  | sending event => ∃ attrs at', event = e.toEvent attrs at'
  | waiting | done _ => False

theorem WorksFor.worksOn {e : RuntimeEvent} {f : Forwarder} (h : f.WorksFor e) : f.WorksOn e := by
  cases h with
  | dismissing | asking => exact rfl
  | sending hrenders => exact ⟨_, _, hrenders.eq_toEvent⟩

end Forwarder

namespace EventStream

variable {setup : StreamSetup σ τ} {s s' : EventStream σ τ} {moves new : List StreamMove}
  {cancelled more : Cancellations}

/-- From the time when the forwarder takes the event of an end until it takes another event, the watchers of
the container are quiet, and later on those are that did not begin after the record of the event. -/
structure Guarded (cancelled : Cancellations) (s : EventStream σ τ) (moves : List StreamMove) : Prop where
  working {f : Forwarder} : s.forwarder = some f → f.isIdle = false →
    ∃ earlier e begun since, moves = earlier ++ .taken e begun :: since ∧
      (∀ move ∈ since, move.isForwarding = false) ∧ f.WorksOn e ∧
      ∀ id, e.Stops id → ∀ w ∈ s.crew.watchers, w.key = id → w.Quiet cancelled
  fenced {before between : List StreamMove} {record : Event} {e : RuntimeEvent} {id : String} :
    moves = before ++ .entered .forwarder record :: between → lastTaken before = some e → e.Stops id →
    ∀ w ∈ s.crew.watchers, w.key = id → w.Quiet cancelled ∨
      ∃ e', .taken e' (some w.number) ∈ between ∧ e'.Starts id
  listing {answerAt : Nat} : s.phase = .listing answerAt →
    s.forwarder = none ∧ ∀ move ∈ moves, move.isForwarding = false

namespace Guarded

/-- What others do than the forwarder, it goes on with the event that it is at work on, if any. -/
theorem quietly (h : s.Guarded cancelled moves) (hnew : ∀ move ∈ new, move.isForwarding = false)
    (hforwarder : ∀ f', s'.forwarder = some f' → f'.isIdle = false →
      ∃ f, s.forwarder = some f ∧ f.isIdle = false ∧ ∀ e, f.WorksOn e → f'.WorksOn e)
    (hwatchers : ∀ v ∈ s'.crew.watchers, ∃ w ∈ s.crew.watchers, v.key = w.key ∧ v.number = w.number ∧
      (w.Quiet cancelled → v.Quiet more))
    (hphase : ∀ answerAt, s'.phase = .listing answerAt → s.phase = .listing answerAt ∧ s'.forwarder = s.forwarder) :
    s'.Guarded more (moves ++ new) := by
  refine ⟨fun {f'} hf' hbusy => ?_, fun {before between record e id} hmoves hlast hstops v hv hkey => ?_,
    fun {answerAt} hlisting => ?_⟩
  · obtain ⟨f, hf, hworks, hgoes⟩ := hforwarder f' hf' hbusy
    obtain ⟨earlier, e, begun, since, rfl, hsince, he, hquiet⟩ := h.working hf hworks
    refine ⟨earlier, e, begun, since ++ new, by simp, ?_, hgoes e he, fun id hstops v hv hkey => ?_⟩
    · intro move hmem
      rcases List.mem_append.mp hmem with hmem | hmem
      · exact hsince move hmem
      · exact hnew move hmem
    · obtain ⟨w, hw, hsame, -, hstays⟩ := hwatchers v hv
      exact hstays (hquiet id hstops w hw (hsame ▸ hkey))
  · rcases append_eq_append_cons hmoves with ⟨mid, rfl, rfl⟩ | ⟨mid, rfl, rfl⟩
    · obtain ⟨w, hw, hsame, hnumber, hstays⟩ := hwatchers v hv
      rcases h.fenced rfl hlast hstops w hw (hsame ▸ hkey) with hquiet | ⟨e', hmem, hstarts⟩
      · exact .inl (hstays hquiet)
      · exact .inr ⟨e', hnumber ▸ List.mem_append_left new hmem, hstarts⟩
    · have hforwarding := hnew (.entered .forwarder record) (by simp)
      cases hforwarding
  · obtain ⟨hlisting, hsame⟩ := hphase answerAt hlisting
    obtain ⟨hnone, hmoves⟩ := h.listing hlisting
    refine ⟨hsame.trans hnone, fun move hmem => ?_⟩
    rcases List.mem_append.mp hmem with hmem | hmem
    · exact hmoves move hmem
    · exact hnew move hmem

/-- What leaves the watchers and the forwarder alone. -/
theorem apart (h : s.Guarded cancelled moves) (hmore : cancelled ⊆ more)
    (hnew : ∀ move ∈ new, move.isForwarding = false) (hforwarder : s'.forwarder = s.forwarder)
    (hwatchers : s'.crew.watchers = s.crew.watchers)
    (hphase : ∀ answerAt, s'.phase = .listing answerAt → s.phase = .listing answerAt) :
    s'.Guarded more (moves ++ new) := by
  refine h.quietly hnew (fun f' hf' hbusy => ⟨f', hforwarder ▸ hf', hbusy, fun _ he => he⟩) (fun v hv => ?_)
    (fun answerAt hlisting => ⟨hphase answerAt hlisting, hforwarder⟩)
  exact ⟨v, hwatchers ▸ hv, rfl, rfl, fun hquiet => hquiet.mono hmore⟩

/-- Nothing at all happens in the stream. -/
theorem around (h : s.Guarded cancelled moves) (hmore : cancelled ⊆ more) (hforwarder : s'.forwarder = s.forwarder)
    (hwatchers : s'.crew.watchers = s.crew.watchers) (hphase : s'.phase = s.phase) : s'.Guarded more moves := by
  have hapart : s'.Guarded more (moves ++ []) :=
    h.apart hmore (by simp) hforwarder hwatchers fun _ hlisting => hphase ▸ hlisting
  rwa [List.append_nil] at hapart

theorem stepped {crew : Crew σ} {w : Watcher} {crewMoves : List CrewMove} (h : s.Guarded cancelled moves)
    (run : CrewRun setup.runtime setup.monitor s.crew crewMoves) (hmore : cancelled ⊆ more)
    (hnew : ∀ move ∈ new, move.isForwarding = false) (hw : s.crew.watcher? w.number = some w)
    (hs : s.crew.stepWatcher setup.runtime setup.monitor w = some crew) :
    Guarded more { s with crew } (moves ++ new) := by
  obtain ⟨hub, w', hturn, hstepped⟩ := Crew.stepWatcher_turn hs
  have hmem := (Crew.mem_of_watcher? hw).1
  refine h.quietly hnew (fun f' hf' hbusy => ⟨f', hf', hbusy, fun _ he => he⟩) (fun v hv => ?_)
    (fun answerAt hlisting => ⟨hlisting, rfl⟩)
  rcases hstepped.mem_follows hturn run.kept.nodup hmem hv with rfl | ⟨hv, -⟩
  · have hcont := hturn.continues
    exact ⟨w, hmem, hcont.key, hcont.number, fun hquiet => (hturn.quiet hquiet).mono hmore⟩
  · exact ⟨v, hv, rfl, rfl, fun hquiet => hquiet.mono hmore⟩

/-- A forwarder that takes, asks for or gives up what it works on. -/
theorem onward {crew : Crew σ} {f f' : Forwarder} (h : s.Guarded cancelled moves) (hmore : cancelled ⊆ more)
    (hf : s.forwarder = some f) (hwatchers : crew.watchers = s.crew.watchers)
    (hgoes : f'.isIdle ∨ f.isIdle = false ∧ ∀ e, f.WorksOn e → f'.WorksOn e) :
    Guarded more { s with crew, forwarder := some f' } (moves ++ []) := by
  refine h.quietly (by simp) (fun g hg hbusy => ?_) (fun v hv => ?_) (fun answerAt hlisting => ?_)
  · obtain rfl := Option.some.inj hg
    rcases hgoes with hidle | ⟨hworks, hgoes⟩
    · rw [hidle] at hbusy
      cases hbusy
    · exact ⟨f, hf, hworks, hgoes⟩
  · exact ⟨v, hwatchers ▸ hv, rfl, rfl, fun hquiet => hquiet.mono hmore⟩
  · rw [(h.listing hlisting).1] at hf
    cases hf

theorem record {event : Event} {hub : Hub σ} (h : s.Guarded cancelled moves) (hmore : cancelled ⊆ more)
    (hf : s.forwarder = some (.sending event)) :
    Guarded more { s with crew.toHub := hub, forwarder := some .waiting } (moves ++ [.entered .forwarder event]) := by
  refine ⟨fun hf' hbusy => ?_, fun {before between record e id} hmoves hlast hstops w hw hkey => ?_,
    fun {answerAt} hlisting => ?_⟩
  · obtain rfl := Option.some.inj hf'
    cases hbusy
  · rcases append_eq_append_cons hmoves with ⟨mid, rfl, rfl⟩ | ⟨mid, rfl, hnew⟩
    · rcases h.fenced rfl hlast hstops w hw hkey with hquiet | ⟨e', hmem, hstarts⟩
      · exact .inl (hquiet.mono hmore)
      · exact .inr ⟨e', List.mem_append_left _ hmem, hstarts⟩
    · obtain rfl : mid = [] := by
        cases mid with
        | nil => rfl
        | cons _ mid => simp at hnew
      obtain ⟨earlier, e₀, begun, since, hsplit, hsince, -, hquiet⟩ := h.working hf rfl
      rw [List.append_nil, hsplit, lastTaken_taken earlier e₀ begun hsince] at hlast
      obtain rfl := Option.some.inj hlast
      exact .inl ((hquiet id hstops w hw hkey).mono hmore)
  · rw [(h.listing hlisting).1] at hf
    cases hf

theorem take {host : Traced σ} {e : RuntimeEvent} {crew : Crew σ} {f : Forwarder}
    (h : s.Guarded cancelled moves) (hheeded : s.crew.Heeded cancelled) (hf : s.forwarder = some .waiting)
    (hmeet : Forwarder.meet setup.runtime { s.crew with host } e = (crew, f)) :
    Guarded (crew.cancelled ++ cancelled) { s with crew, forwarder := some f }
      (moves ++ [.taken e (s.begun? { s with crew, forwarder := some f })]) := by
  obtain ⟨host', hkeeps⟩ := Forwarder.meet_keeps setup.runtime { s.crew with host } e
  have hworks := (Forwarder.worksFor_meet setup.runtime { s.crew with host } e).worksOn
  rw [hmeet] at hkeeps hworks
  subst hkeeps
  have hseen : Crew.Heeded cancelled { s.crew with host } := hheeded.around rfl
  refine ⟨fun hf' _ => ?_, fun {before between record e₀ id} hmoves hlast hstops w hw hkey => ?_,
    fun {answerAt} hlisting => ?_⟩
  · obtain rfl := Option.some.inj hf'
    exact ⟨moves, e, _, [], rfl, by simp, hworks, fun id hstops w hw hkey => hseen.quiet_of_stops hstops hw hkey⟩
  · rcases append_eq_append_cons hmoves with ⟨mid, rfl, rfl⟩ | ⟨mid, rfl, hnew⟩
    · rcases Crew.mem_obey hw with hold | ⟨hstarts, hwatchers⟩
      · rcases h.fenced rfl hlast hstops w hold hkey with hquiet | ⟨e', hmem, hstarts⟩
        · exact .inl (hquiet.mono (List.subset_append_right _ _))
        · exact .inr ⟨e', List.mem_append_left _ hmem, hstarts⟩
      · refine .inr ⟨e, List.mem_append_right _ ?_, hkey ▸ hstarts⟩
        simp [begun?, hwatchers]
    · cases mid with
      | nil => cases hnew
      | cons _ mid => simp at hnew
  · rw [(h.listing hlisting).1] at hf
    cases hf

/-- A stream that goes on with its containers has not taken any event yet. -/
theorem launch {host : Traced σ} {containers : List Container} {answerAt : Nat} (h : s.Guarded cancelled moves)
    (hlisting : s.phase = .listing answerAt) :
    (EventStream.launch setup containers { s with crew.host := host }).Guarded more (moves ++ []) := by
  obtain ⟨hnone, hquiet⟩ := h.listing hlisting
  have hempty {s' : EventStream σ τ} (hidle : ∀ f, s'.forwarder = some f → f.isIdle)
      (hphase : ∀ answerAt, s'.phase ≠ .listing answerAt) : s'.Guarded more (moves ++ []) := by
    refine ⟨fun hf hbusy => ?_, fun {before between record e id} hmoves _ _ w _ _ => ?_,
      fun hlisting => absurd hlisting (hphase _)⟩
    · rw [hidle _ hf] at hbusy
      cases hbusy
    · have hforwarding := hquiet (.entered .forwarder record) (by
        rw [List.append_nil] at hmoves
        simp [hmoves])
      cases hforwarding
  obtain ⟨host', announcer, -, ⟨fault, heq⟩ | ⟨phase, sampler, heq, hphase, -⟩⟩ :=
    launch_cases setup containers { s with crew.host := host }
  · rw [heq]
    exact hempty (fun f hf => absurd (hnone.symm.trans hf) nofun) nofun
  · rw [heq]
    refine hempty (fun f hf => ?_) ?_
    · obtain rfl := Option.some.inj hf
      rfl
    · rcases hphase with rfl | ⟨_, _, rfl⟩ <;> nofun

/-- One turn of any task. -/
theorem turned {crewMoves : List CrewMove} (h : s.Guarded cancelled moves) (hheeded : s.crew.Heeded cancelled)
    (run : CrewRun setup.runtime setup.monitor s.crew crewMoves) (hturned : Turned setup s s' new) :
    s'.Guarded (s'.crew.cancelled ++ cancelled) (moves ++ new) := by
  have hmore : cancelled ⊆ s'.crew.cancelled ++ cancelled := List.subset_append_right _ _
  cases hturned with
  | shown => exact h.apart hmore (by simp) rfl rfl fun _ hlisting => hlisting
  | announced | counted | received =>
    refine h.apart hmore ?_ rfl rfl fun _ hlisting => hlisting
    simp [StreamMove.isForwarding]
  | unannounced | sampled => exact h.apart hmore (by simp) rfl rfl fun _ hlisting => hlisting
  | told hw hs => exact h.stepped run hmore (by simp [StreamMove.isForwarding]) hw hs
  | watched hw hs => exact h.stepped run hmore (by simp) hw hs
  | took hf _ hmeet => exact h.take hheeded hf hmeet
  | recorded hf => exact h.record hmore hf
  | unrecorded hf _ _ hstays =>
    refine h.onward hmore hf rfl ?_
    rcases hstays with rfl | rfl
    · exact .inr ⟨rfl, fun _ he => he⟩
    · exact .inl rfl
  | stopped _ _ hf => exact h.onward hmore hf rfl (.inl rfl)
  | @dismissed _ e _ _ hf _ henrich =>
    obtain ⟨host, hkeeps⟩ := Forwarder.enrich_keeps setup.runtime s.crew e
    have hworks := (Forwarder.worksFor_enrich setup.runtime s.crew e).worksOn
    rw [henrich] at hkeeps hworks
    subst hkeeps
    exact h.onward hmore hf rfl (.inr ⟨rfl, fun _ he => he ▸ hworks⟩)
  | answered hf => exact h.onward hmore hf rfl (.inr ⟨rfl, fun _ he => he ▸ ⟨_, _, rfl⟩⟩)
  | joined hjoin =>
    cases hjoin with
    | feedFailed | samplingFailed => exact h.apart hmore (by simp) rfl rfl nofun
    | samplingEnded => exact h.apart hmore (by simp) rfl rfl fun _ hlisting => hlisting
    | feedEnded hf =>
      refine h.quietly (by simp) nofun (fun v hv => ?_) fun answerAt hlisting => ?_
      · exact ⟨v, hv, rfl, rfl, fun hquiet => hquiet.mono hmore⟩
      · rw [(h.listing hlisting).1] at hf
        cases hf
  | went hturn =>
    cases hturn with
    | unlisted | unloaded | ended => exact h.apart hmore (by simp) rfl rfl nofun
    | launched hlisting => exact h.launch hlisting
    | unloading | dismissed | closing => exact h.apart hmore (by simp) rfl rfl nofun

end Guarded

end EventStream

theorem StreamRun.guarded {setup : StreamSetup σ τ} {s : EventStream σ τ} {moves : List StreamMove}
    (run : StreamRun setup s moves) : s.Guarded s.crew.cancelled moves := by
  induction run with
  | start host origin cancelled =>
    obtain ⟨-, hwatchers⟩ := EventStream.start_crew setup host origin cancelled
    have hnone : (EventStream.start setup host origin cancelled).forwarder = none := by
      unfold EventStream.start
      dsimp only
      split <;> rfl
    refine ⟨fun hf => ?_, fun hmoves => ?_, fun _ => ⟨hnone, by simp⟩⟩
    · rw [hnone] at hf
      cases hf
    · simp at hmoves
  | @turn s s' _ _ run h ih =>
    obtain ⟨_, crewRun⟩ := run.crewRun
    have hturned := EventStream.turned h
    have hsame : s'.crew.cancelled ++ s.crew.cancelled ⊆ s'.crew.cancelled :=
      List.append_subset.mpr ⟨List.Subset.refl _, hturned.path.cancelled_subset⟩
    exact (ih.turned run.heeded crewRun hturned).around hsame rfl rfl rfl
  | @unaware s _ moves _ run _ h ih =>
    obtain ⟨_, crewRun⟩ := run.crewRun
    have hunaware : s.unaware.Guarded s.crew.cancelled moves := ih.around (List.Subset.refl _) rfl rfl rfl
    have hheeded : s.unaware.crew.Heeded s.crew.cancelled := run.heeded.around rfl
    have hlater := hunaware.turned hheeded (crewRun.move (.around _)) (EventStream.turned h)
    exact hlater.around (List.Subset.refl _) rfl rfl rfl
  | around _ _ tokens _ ih => exact ih.around (List.subset_append_right tokens _) rfl rfl rfl

theorem Sampling.kind_of_tick {b : TrafficBackend σ τ} {services : ServiceNames} {window : String} {now : Instant}
    {host host' : Traced σ} {scopes scopes' : List (CountedScope τ)} {events : List Event}
    (h : tick b services window now host scopes = (host', scopes', .ok events)) : ∀ e ∈ events, e.kind = .traffic := by
  obtain ⟨p, -, rfl⟩ := visit_of_tick h
  intro e he
  split at he
  · cases he
  · simp only [Sampling.events, List.mem_cons, List.mem_append, List.mem_map] at he
    rcases he with rfl | ⟨row, -, rfl⟩ | ⟨row, -, rfl⟩ <;> rfl

namespace EventStream

variable {setup : StreamSetup σ τ} {s s' : EventStream σ τ} {new : List StreamMove}

/-- The announcer and the sampler send nothing about an interface. -/
structure Typed (s : EventStream σ τ) : Prop where
  announcer {e : Event} : s.announcer.event = some e → e.kind = .container
  sampler {sampler : Sampler τ} {events : List Event} : s.sampler = some sampler →
    sampler.phase = .sending events → ∀ e ∈ events, e.kind = .traffic

theorem Typed.turned (h : s.Typed) (hturned : Turned setup s s' new) : s'.Typed := by
  cases hturned with
  | shown =>
    refine ⟨fun he => ?_, h.sampler⟩
    dsimp only at he
    split at he
    · obtain rfl := Option.some.inj he
      rfl
    · cases he
  | announced => exact ⟨nofun, h.sampler⟩
  | unannounced _ _ hstays =>
    rcases hstays with rfl | rfl
    · exact ⟨h.announcer, h.sampler⟩
    · exact ⟨nofun, h.sampler⟩
  | counted _ hsampler hphase =>
    refine ⟨h.announcer, fun hs hp e he => ?_⟩
    obtain rfl := Option.some.inj hs
    obtain rfl := SamplerPhase.sending.inj hp
    exact h.sampler hsampler hphase e (List.mem_cons_of_mem _ he)
  | sampled _ hsampler hturn =>
    refine ⟨h.announcer, fun hs hp e he => ?_⟩
    obtain rfl := Option.some.inj hs
    cases hturn with
    | sampled _ _ htick =>
      obtain rfl := SamplerPhase.sending.inj hp
      exact Sampling.kind_of_tick htick e he
    | sent hsends =>
      obtain rfl := SamplerPhase.sending.inj hp
      exact h.sampler hsampler hsends e (List.mem_cons_of_mem _ he)
    | blocked => exact h.sampler hsampler hp e he
    | cancelled | failed | rested | refused | unloaded | finished => cases hp
  | told | watched | took | recorded | unrecorded | stopped | dismissed | answered | received =>
    exact ⟨h.announcer, h.sampler⟩
  | joined hjoin => cases hjoin <;> exact ⟨h.announcer, h.sampler⟩
  | went hturn =>
    cases hturn with
    | @launched _ host containers =>
      obtain ⟨host', announcer, hannouncer, hcases⟩ := launch_cases setup containers { s with crew.host := host }
      have hevent : announcer.event = none := by rcases hannouncer with rfl | rfl <;> rfl
      rcases hcases with ⟨fault, heq⟩ | ⟨phase, sampler, heq, -, hsampler⟩
      · rw [heq]
        exact ⟨fun he => absurd (hevent.symm.trans he) nofun, h.sampler⟩
      · rw [heq]
        refine ⟨fun he => absurd (hevent.symm.trans he) nofun, fun {sampler'} {events} hs hp => ?_⟩
        rcases hsampler with rfl | ⟨started, rfl, hwaiting⟩
        · exact h.sampler hs hp
        · obtain rfl := Option.some.inj hs
          cases hwaiting.symm.trans hp
    | unlisted | unloading | unloaded | dismissed | closing | ended => exact ⟨h.announcer, h.sampler⟩

end EventStream

theorem StreamRun.typed {setup : StreamSetup σ τ} {s : EventStream σ τ} {moves : List StreamMove}
    (run : StreamRun setup s moves) : s.Typed := by
  induction run with
  | start host origin cancelled =>
    unfold EventStream.start
    dsimp only
    split <;> exact ⟨nofun, nofun⟩
  | turn _ _ h ih => exact ih.turned (EventStream.turned h)
  | @unaware s _ _ _ _ _ h ih =>
    have hunaware : s.unaware.Typed := ⟨ih.announcer, ih.sampler⟩
    obtain ⟨hannouncer, hsampler⟩ := hunaware.turned (EventStream.turned h)
    exact ⟨hannouncer, hsampler⟩
  | around _ _ _ _ ih => exact ⟨ih.announcer, ih.sampler⟩

/-- Where an event about an interface of a container comes from that enters after something else: from a
watcher that has begun since, or from the feed itself. -/
def Since (between : List StreamMove) (id : String) (sender : Sender) (event : Event) : Prop :=
  (∃ n key e, sender = .watcher n key ∧ .taken e (some n) ∈ between ∧ e.Starts id) ∨
    ∃ e begun attrs at', sender = .forwarder ∧ .taken e begun ∈ between ∧ event = e.toEvent attrs at' ∧
      EventKind.ofName e.kind = .interface ∧ e.fullId = id

/-- Each record of the forwarder is that of the event it took last, and each event about an interface of a
container that enters after the record of the container's end comes from something later. -/
structure Fence (moves : List StreamMove) : Prop where
  record {before after : List StreamMove} {record : Event} : moves = before ++ .entered .forwarder record :: after →
    ∃ e attrs at', lastTaken before = some e ∧ record = e.toEvent attrs at'
  later {before between after : List StreamMove} {record event : Event} {sender : Sender} {e : RuntimeEvent}
    {id : String} : moves = before ++ .entered .forwarder record :: (between ++ .entered sender event :: after) →
    lastTaken before = some e → e.Stops id → id ≠ "" → event.kind = .interface → event.actorFullId = id →
    Since between id sender event

namespace Fence

variable {moves new : List StreamMove}

theorem silent (h : Fence moves) (hnew : ∀ sender event, .entered sender event ∉ new) : Fence (moves ++ new) := by
  refine ⟨fun {before after record} hmoves => ?_,
    fun {before between after record event sender e id} hmoves hlast hstops hid hkind hactor => ?_⟩
  · rcases append_eq_append_cons hmoves with ⟨mid, rfl, -⟩ | ⟨mid, -, rfl⟩
    · exact h.record rfl
    · exact absurd (by simp) (hnew .forwarder record)
  · have hsplit : moves ++ new = (before ++ .entered .forwarder record :: between) ++ .entered sender event :: after := by
      rw [hmoves, List.append_assoc, List.cons_append]
    rcases append_eq_append_cons hsplit with ⟨mid, rfl, -⟩ | ⟨mid, -, rfl⟩
    · exact h.later (List.append_assoc _ _ _) hlast hstops hid hkind hactor
    · exact absurd (by simp) (hnew sender event)

theorem enter {sender : Sender} {event : Event} (h : Fence moves)
    (hrecord : sender = .forwarder → ∃ e attrs at', lastTaken moves = some e ∧ event = e.toEvent attrs at')
    (hlater : ∀ before record between e id, moves = before ++ .entered .forwarder record :: between →
      lastTaken before = some e → e.Stops id → id ≠ "" → event.kind = .interface → event.actorFullId = id →
      Since between id sender event) : Fence (moves ++ [.entered sender event]) := by
  refine ⟨fun {before after record} hmoves => ?_,
    fun {before between after record event'} {sender' e id} hmoves hlast hstops hid hkind hactor => ?_⟩
  · rcases append_eq_append_cons hmoves with ⟨mid, rfl, -⟩ | ⟨mid, rfl, hnew⟩
    · exact h.record rfl
    · cases mid with
      | nil =>
        obtain ⟨heq, -⟩ := List.cons.inj hnew
        obtain ⟨rfl, rfl⟩ := StreamMove.entered.inj heq
        rw [List.append_nil]
        exact hrecord rfl
      | cons _ mid => simp at hnew
  · have hsplit : moves ++ [.entered sender event] =
        (before ++ .entered .forwarder record :: between) ++ .entered sender' event' :: after := by
      rw [hmoves, List.append_assoc, List.cons_append]
    rcases append_eq_append_cons hsplit with ⟨mid, rfl, -⟩ | ⟨mid, hbefore, hnew⟩
    · exact h.later (List.append_assoc _ _ _) hlast hstops hid hkind hactor
    · cases mid with
      | nil =>
        obtain ⟨heq, -⟩ := List.cons.inj hnew
        obtain ⟨rfl, rfl⟩ := StreamMove.entered.inj heq
        rw [List.append_nil] at hbefore
        exact hlater before record between e id hbefore.symm hlast hstops hid hkind hactor
      | cons _ mid => simp at hnew

variable {setup : StreamSetup σ τ} {s s' : EventStream σ τ}

theorem turned (h : Fence moves) (hguarded : s.Guarded s.crew.cancelled moves)
    (hheeded : s.crew.Heeded s.crew.cancelled) (htyped : s.Typed)
    (hturned : EventStream.Turned setup s s' new) : Fence (moves ++ new) := by
  cases hturned with
  | shown | unannounced | watched | unrecorded | stopped | dismissed | answered | sampled | joined | went =>
    exact h.silent fun _ _ => List.not_mem_nil
  | took | received => exact h.silent (by simp)
  | announced he =>
    refine h.enter nofun fun _ _ _ _ _ _ _ _ _ hkind => ?_
    cases (htyped.announcer he).symm.trans hkind
  | counted _ hsampler hphase =>
    refine h.enter nofun fun _ _ _ _ _ _ _ _ _ hkind => ?_
    cases (htyped.sampler hsampler hphase _ List.mem_cons_self).symm.trans hkind
  | @told w _ event rest begins hw _ hphase hlive =>
    refine h.enter nofun fun before record between e id hmoves hlast hstops hid hkind hactor => ?_
    have hmem := (Crew.mem_of_watcher? hw).1
    obtain ⟨-, hown⟩ := hheeded.sendsOwn hmem event rest begins hphase
    have hkey : w.key = id := by
      rw [hheeded.key hmem, Container.identity, ← hown, hactor, if_neg (by simpa using hid)]
    rcases hguarded.fenced hmoves hlast hstops w hmem hkey with (hdone | hcovered) | ⟨e', htaken, hstarts⟩
    · cases hdone.symm.trans hphase
    · exact absurd hcovered (Bool.eq_false_iff.mp hlive)
    · exact .inl ⟨w.number, w.key, e', rfl, htaken, hstarts⟩
  | @recorded event _ hf =>
    obtain ⟨earlier, e', begun, since, hsplit, hsince, ⟨attrs, at', hevent⟩, -⟩ := hguarded.working hf rfl
    have htaken : lastTaken moves = some e' := by rw [hsplit, lastTaken_taken earlier e' begun hsince]
    refine h.enter (fun _ => ⟨e', attrs, at', htaken, hevent⟩)
      fun before record between e id hmoves hlast hstops hid hkind hactor => ?_
    have hmem : .taken e' begun ∈ between := by
      rw [hsplit] at hmoves
      rcases append_eq_append_cons hmoves with ⟨mid, -, rfl⟩ | ⟨mid, -, hmid⟩
      · simp
      · cases mid with
        | nil => cases (List.cons.inj hmid).1
        | cons _ mid =>
          obtain ⟨-, rfl⟩ := List.cons.inj hmid
          cases hsince (.entered .forwarder record) (by simp)
    subst hevent
    exact .inr ⟨e', begun, attrs, at', rfl, hmem, rfl, hkind, hactor⟩

end Fence

theorem StreamRun.fence {setup : StreamSetup σ τ} {s : EventStream σ τ} {moves : List StreamMove}
    (run : StreamRun setup s moves) : Fence moves := by
  induction run with
  | start =>
    constructor <;> intros <;> simp_all
  | turn _ run h ih => exact ih.turned run.guarded run.heeded run.typed (EventStream.turned h)
  | unaware _ _ hheeds h ih => exact ih.silent (EventStream.silent_of_heedsCancel hheeds h)
  | around _ _ _ _ ih => exact ih

/-- After the record of the end of a container, whatever the tasks do in whatever order, no event about an
interface of it enters the channel but from a watcher that has begun on a later event of its start, unless it
is itself the record of a later event that the runtime calls one about an interface. Without such later
events none is written out any more. -/
theorem StreamRun.interface_fence {setup : StreamSetup σ τ} {s : EventStream σ τ} {moves : List StreamMove}
    (run : StreamRun setup s moves) :
    (∀ before record after, moves = before ++ .entered .forwarder record :: after →
      ∃ e attrs at', lastTaken before = some e ∧ record = e.toEvent attrs at') ∧
    (∀ before record between sender event after e id,
      moves = before ++ .entered .forwarder record :: (between ++ .entered sender event :: after) →
      lastTaken before = some e → e.Stops id → id ≠ "" → event.kind = .interface → event.actorFullId = id →
        (∃ n key e', sender = .watcher n key ∧ .taken e' (some n) ∈ between ∧ e'.Starts id) ∨
        ∃ e' begun attrs at', sender = .forwarder ∧ .taken e' begun ∈ between ∧ event = e'.toEvent attrs at' ∧
          EventKind.ofName e'.kind = .interface ∧ e'.fullId = id) ∧
    (receipts moves).map (·.1) <+: enteredEvents moves ∧
    ∀ before record after e id, moves = before ++ .entered .forwarder record :: after →
      lastTaken before = some e → e.Stops id → id ≠ "" →
      (∀ e' begun, .taken e' begun ∈ after →
        ¬e'.Starts id ∧ ¬(EventKind.ofName e'.kind = .interface ∧ e'.fullId = id)) →
      ∀ i event out, (enteredEvents before).length < i → (receipts moves)[i]? = some (event, out) →
        event.kind = .interface → event.actorFullId ≠ id := by
  have hfence := run.fence
  refine ⟨fun _ _ _ => hfence.record, fun _ _ _ _ _ _ _ _ => hfence.later, run.receipts_prefix, ?_⟩
  intro before record after e id hmoves hlast hstops hid hnone i event out hi hreceived hkind hactor
  have hentered : (enteredEvents moves)[i]? = some event := by
    obtain ⟨queue, hqueue⟩ := run.receipts_prefix
    have hi : i < ((receipts moves).map (·.1)).length := by
      rw [List.length_map]
      exact (List.getElem?_eq_some_iff.mp hreceived).1
    rw [← hqueue, List.getElem?_append_left hi, List.getElem?_map, hreceived]
    rfl
  have hafter : event ∈ enteredEvents after := by
    rw [hmoves, enteredEvents_append, List.getElem?_append_right (Nat.le_of_lt hi)] at hentered
    obtain ⟨k, hk⟩ : ∃ k, i - (enteredEvents before).length = k + 1 := ⟨i - (enteredEvents before).length - 1, by omega⟩
    rw [hk] at hentered
    exact List.mem_of_getElem? hentered
  obtain ⟨move, hmem, hmove⟩ := List.mem_filterMap.mp hafter
  cases move with
  | taken | received => cases hmove
  | entered sender event' =>
    obtain rfl := Option.some.inj hmove
    obtain ⟨between, rest, rfl⟩ := List.append_of_mem hmem
    rcases hfence.later hmoves hlast hstops hid hkind hactor with
      ⟨_, _, e', -, htaken, hstarts⟩ | ⟨e', begun, _, _, -, htaken, -, hinterface, hfull⟩
    · exact (hnone e' _ (List.mem_append_left _ htaken)).1 hstarts
    · exact (hnone e' begun (List.mem_append_left _ htaken)).2 ⟨hinterface, hfull⟩

namespace ScriptedWorld

/-- A container that runs with one interface, and what is going to be told of it. -/
def ofFeed (id : String) (feed : List RuntimeEvent) : ScriptedWorld :=
  { empty with
    containers := [.running id]
    filters := false
    feed := feed.map .ok
    namespaces := [{ ScriptedNamespace.blank ("/ns/" ++ id) with links := [veth 2 "eth0"] }] }

/-- A stream that shows what is there at its start. -/
def showing : StreamSetup ScriptedWorld String := .scripted { StreamOptions.standard with initialState := true }

/-- What happens in a stream of its own accord. -/
def movesOf (world : ScriptedWorld) : List StreamMove :=
  ((EventStream.start showing (.start world) 0 []).play showing 100).2

theorem movesOf_run (world : ScriptedWorld) : StreamRun showing
    ((EventStream.clockwork showing).settle 100 (.start showing (.start world) 0 [])) (movesOf world) := by
  have run : StreamRun showing _ [] := .start (.start world) 0 []
  exact run.settle_eq 100 ▸ run.play 100

/-- A container whose runtime speaks of an interface itself after the container's end. -/
def outspoken : ScriptedWorld := ofFeed "x" [.bare "container" "die" "x", .bare "interface" "connect" "x"]

/-- A container that starts again after its end. -/
def restarted : ScriptedWorld := ofFeed "x" [.bare "container" "die" "x", .bare "container" "start" "x"]

/-- An event about an interface need not come from any watcher. -/
theorem interface_fence_not_of_watchers : ¬∀ (s : EventStream ScriptedWorld String) (moves : List StreamMove),
    StreamRun showing s moves → ∀ before record between sender event after e id,
      moves = before ++ .entered .forwarder record :: (between ++ .entered sender event :: after) →
      lastTaken before = some e → e.Stops id → id ≠ "" → event.kind = .interface → event.actorFullId = id →
        ∃ n key e', sender = .watcher n key ∧ .taken e' (some n) ∈ between ∧ e'.Starts id := by
  intro hclaim
  have run := movesOf_run outspoken
  have hmoves : movesOf outspoken = (movesOf outspoken).take 3 ++
      .entered .forwarder ((RuntimeEvent.bare "container" "die" "x").toEvent ∅ (.ofNanos 0)) ::
      ([.taken (.bare "interface" "connect" "x") none] ++
      .entered .forwarder ((RuntimeEvent.bare "interface" "connect" "x").toEvent ∅ (.ofNanos 0)) ::
      (movesOf outspoken).drop 6) := by
    decide +kernel
  obtain ⟨n, key, e', hsender, -⟩ := hclaim _ _ run _ _ _ _ _ _ (.bare "container" "die" "x") "x" hmoves
    (by decide +kernel) (by decide +kernel) (by decide) (by decide +kernel) (by decide +kernel)
  cases hsender

theorem interface_fence_after_restart : ∃ s before record between event after,
    StreamRun showing s (before ++ .entered .forwarder record ::
      (between ++ .entered (.watcher 1 "x") event :: after)) ∧
    lastTaken before = some (.bare "container" "die" "x") ∧ event.kind = .interface ∧ event.actorFullId = "x" ∧
    ∃ e, .taken e (some 1) ∈ between ∧ e.Starts "x" := by
  have run := movesOf_run restarted
  let event : Event := (LinkReport.snapshot (veth 2 "eth0").snapshot).event
    { Container.blank with
      id := "x"
      shortId := "x" } "containerlab" (.ofNanos 0)
  have hmoves : movesOf restarted = (movesOf restarted).take 3 ++
      .entered .forwarder ((RuntimeEvent.bare "container" "die" "x").toEvent ∅ (.ofNanos 0)) ::
      ([.taken (.bare "container" "start" "x") (some 1)] ++ .entered (.watcher 1 "x") event ::
      (movesOf restarted).drop 6) := by
    decide +kernel
  have hlast : lastTaken ((movesOf restarted).take 3) = some (.bare "container" "die" "x") := by decide +kernel
  have hkind : event.kind = .interface := by decide +kernel
  have hactor : event.actorFullId = "x" := by decide +kernel
  obtain ⟨-, hfence, -, -⟩ := run.interface_fence
  refine ⟨_, _, _, _, event, _, hmoves ▸ run, hlast, hkind, hactor, ?_⟩
  rcases hfence _ _ _ _ _ _ _ _ hmoves hlast (by decide +kernel) (by decide) hkind hactor with
    ⟨n, key, e, hsender, htaken, hstarts⟩ | ⟨_, _, _, _, hsender, -⟩
  · cases hsender
    exact ⟨e, htaken, hstarts⟩
  · cases hsender

end ScriptedWorld

end LabStream
