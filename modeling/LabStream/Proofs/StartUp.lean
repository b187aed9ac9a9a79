import LabStream.Proofs.Lab
import LabStream.Proofs.LifecycleHistory
import LabStream.Proofs.Outside
import LabStream.Proofs.StreamPlay

namespace LabStream

variable {σ ρ τ : Type} {runtime : ContainerRuntime σ} {monitor : LinkMonitor σ}

namespace Crew

variable {crew crew' : Crew σ} {hub : Hub σ} {w w' : Watcher} {key : String} {moves : List CrewMove}

/-- Whether a watcher was ever begun for a container, at work still or not. -/
def Watches (crew : Crew σ) (key : String) : Prop := ∃ w ∈ crew.watchers, w.key = key

theorem Watches.start (h : crew.Watches key) (c : Container) : (crew.start c).1.Watches key := by
  obtain ⟨w, hw, hkey⟩ := h
  by_cases ha : crew.roster.Admits c.identity
  · rw [start_admitted ha]
    exact ⟨w, List.mem_append_left _ hw, hkey⟩
  · rw [start_refused ha]
    exact ⟨w, hw, hkey⟩

theorem Watches.starts (h : crew.Watches key) (containers : List Container) :
    (containers.foldl (fun crew c => (crew.start c).1) crew).Watches key := by
  induction containers generalizing crew with
  | nil => exact h
  | cons c containers ih => exact ih (h.start c)

theorem watches_of_start {c : Container} (h : (crew.start c).1.Watches key) :
    crew.Watches key ∨ c.identity = key := by
  obtain ⟨w, hw, hkey⟩ := h
  by_cases ha : crew.roster.Admits c.identity
  · rw [start_admitted ha] at hw
    rcases List.mem_append.mp hw with hw | hw
    · exact .inl ⟨w, hw, hkey⟩
    · obtain rfl := List.mem_singleton.mp hw
      exact .inr hkey
  · rw [start_refused ha] at hw
    exact .inl ⟨w, hw, hkey⟩

theorem watches_of_starts {containers : List Container}
    (h : (containers.foldl (fun crew c => (crew.start c).1) crew).Watches key) :
    crew.Watches key ∨ ∃ c ∈ containers, c.identity = key := by
  induction containers generalizing crew with
  | nil => exact .inl h
  | cons c containers ih =>
    rcases ih h with hstarted | ⟨other, hother, hkey⟩
    · rcases watches_of_start hstarted with hold | hkey
      · exact .inl hold
      · exact .inr ⟨c, List.mem_cons_self, hkey⟩
    · exact .inr ⟨other, List.mem_cons_of_mem c hother, hkey⟩

/-- No step of a watcher makes a watcher of anybody else. -/
theorem Stepped.watches_iff (hs : Stepped crew w hub w' crew') (ht : Turn runtime monitor crew w hub w')
    (hu : (crew.watchers.map (·.number)).Nodup) (hw : w ∈ crew.watchers) :
    crew'.Watches key ↔ crew.Watches key := by
  have hmem {v : Watcher} := hs.mem_watchers ht.continues hu hw (v := v)
  constructor
  · rintro ⟨v, hv, rfl⟩
    rcases hmem.mp hv with rfl | ⟨hv, -⟩
    · exact ⟨w, hw, ht.continues.key.symm⟩
    · exact ⟨v, hv, rfl⟩
  · rintro ⟨v, hv, rfl⟩
    by_cases hsame : v.number = w.number
    · obtain rfl := List.inj_on_of_nodup_map hu hv hw hsame
      exact ⟨w', hmem.mpr (.inl rfl), ht.continues.key⟩
    · exact ⟨v, hmem.mpr (.inr ⟨hv, hsame⟩), rfl⟩

end Crew

namespace CrewRun

variable {crew : Crew σ} {moves : List CrewMove} {key : String}

theorem watches_of_mem (run : CrewRun runtime monitor crew moves) (h : key ∈ crew.roster.entries) :
    crew.Watches key := by
  obtain ⟨number, hentry⟩ := Option.isSome_iff_exists.mp (Std.ExtTreeMap.mem_iff_isSome_getElem?.mp h)
  obtain ⟨-, w, hw, -, hkey, -⟩ := run.kept.entered hentry
  exact ⟨w, hw, hkey⟩

theorem watches_startWatchers (run : CrewRun runtime monitor crew moves) (containers : List Container)
    (hnamed : key ≠ "") : (EventStream.startWatchers crew containers).Watches key ↔
      crew.Watches key ∨ ∃ c ∈ containers, c.isRunning ∧ c.identity = key := by
  constructor
  · intro h
    rcases Crew.watches_of_starts h with hold | ⟨c, hc, hkey⟩
    · exact .inl hold
    · obtain ⟨hmem, hrunning⟩ := List.mem_filter.mp hc
      exact .inr ⟨c, hmem, hrunning, hkey⟩
  · rintro (hold | hlisted)
    · exact hold.starts _
    · have hpath : CrewPath runtime monitor crew (EventStream.startWatchers crew containers) :=
        CrewPath.refl.starts _
      obtain ⟨_, started⟩ := run.path hpath
      exact started.watches_of_mem ((crew.mem_startWatchers containers).mpr (.inr ⟨hnamed, hlisted⟩))

theorem watches_obey (run : CrewRun runtime monitor crew moves) (e : RuntimeEvent) (hnamed : key ≠ "") :
    (crew.obey e).1.Watches key ↔ crew.Watches key ∨ e.Starts key := by
  constructor
  · rintro ⟨w, hw, rfl⟩
    rcases Crew.mem_obey hw with hold | ⟨hstarts, -⟩
    · exact .inl ⟨w, hold, rfl⟩
    · exact .inr hstarts
  · rintro (hold | hstarts)
    · unfold Crew.obey
      split
      · exact hold
      · exact hold.start _
      · obtain ⟨w, hw, hkey⟩ := hold
        exact ⟨w, by rwa [Crew.dismiss_watchers], hkey⟩
    · have hpath : CrewPath runtime monitor crew (crew.obey e).1 := CrewPath.refl.obey e
      obtain ⟨_, obeyed⟩ := run.path hpath
      exact obeyed.watches_of_mem (Crew.mem_obey_of_starts hstarts hnamed)

end CrewRun

theorem Crew.obey_host (crew : Crew σ) (e : RuntimeEvent) : (crew.obey e).1.host = crew.host := by
  unfold obey
  split
  · rfl
  · exact congrArg Hub.host (crew.start_hub _)
  · unfold dismiss
    split <;> rfl

namespace EventStream

def isListing (s : EventStream σ τ) : Bool :=
  match s.phase with
  | .listing _ => true
  | .unloading .. | .running | .dismissing _ | .closing _ | .ended _ => false

def diary (s : EventStream (Lab ρ) τ) : Diary := s.crew.host.world.toDiary

end EventStream

/-- What one turn of a task is for a lab: nothing or another listing that is asked for, an event that is taken off the
feed, or the subscription with the watchers of those who were listed. -/
inductive LabTurn (setup : StreamSetup ρ τ) (s s' : EventStream (Lab ρ) τ) : Prop where
  | quiet (asks : List Moment) : (∀ m ∈ asks, m.isAsked) → s'.diary.past = s.diary.past ++ asks →
    s'.diary.taken = s.diary.taken → (∀ key, s'.crew.Watches key ↔ s.crew.Watches key) →
    s'.isListing = s.isListing → (s.forwarder = none → s'.diary = s.diary ∧ s'.forwarder = none) →
    LabTurn setup s s'
  | took (asks : List Moment) (e : RuntimeEvent) : (∀ m ∈ asks, m.isAsked) →
    s'.diary.past = s.diary.past ++ asks → s.forwarder = some .waiting →
    (Moment.feed s.diary.past)[s.diary.taken]? = some e → s'.diary.taken = s.diary.taken + 1 →
    (∀ key ≠ "", s'.crew.Watches key ↔ s.crew.Watches key ∨ e.Starts key) → s'.isListing = s.isListing →
    LabTurn setup s s'
  | launched : s.isListing → s'.isListing = false →
    s'.diary.past = s.diary.past ++ [.subscribed setup.options.labLabel] → s'.diary.taken = s.diary.taken →
    (∀ key ≠ "", s'.crew.Watches key ↔ s.crew.Watches key ∨ ∃ c ∈ s.diary.listed, c.val.identity = key) →
    LabTurn setup s s'

theorem Lab.part_spares : Part.Spares part (Lab.toDiary : Lab ρ → Diary) := fun _ _ => rfl

namespace LabTurn

variable {setup : StreamSetup ρ τ} {s s' : EventStream (Lab ρ) τ} {moves : List CrewMove}

theorem still (hdiary : s'.diary = s.diary) (hwatches : ∀ key, s'.crew.Watches key ↔ s.crew.Watches key)
    (hlisting : s'.isListing = s.isListing) (hforwarder : s.forwarder = none → s'.forwarder = none) :
    LabTurn setup s s' :=
  .quiet [] nofun (by rw [hdiary, List.append_nil]) (by rw [hdiary]) hwatches hlisting
    fun hnone => ⟨hdiary, hforwarder hnone⟩

theorem turned_announcer (h : s.turn setup.inLab .announcer = some s') : LabTurn setup s s' := by
  obtain ⟨⟨hub, announcer⟩, hstep, heq⟩ := Option.bind_eq_some_iff.mp h
  obtain rfl := Option.some.inj heq
  cases Announcer.step_turn hstep with
  | begun => exact still rfl (fun _ => Iff.rfl) rfl id
  | sent _ ho | blocked _ ho | refused _ ho =>
    obtain ⟨channel, rfl, -⟩ := Hub.offer_eq_some ho
    exact still rfl (fun _ => Iff.rfl) rfl id

theorem turned_watcher {number : Nat} (run : CrewRun setup.inLab.runtime setup.inLab.monitor s.crew moves)
    (h : s.turn setup.inLab (.watcher number) = some s') : LabTurn setup s s' := by
  obtain ⟨w, hw, h⟩ := Option.bind_eq_some_iff.mp h
  obtain ⟨crew, hs, heq⟩ := Option.bind_eq_some_iff.mp h
  obtain rfl := Option.some.inj heq
  obtain ⟨hub, w', hturn, hstepped⟩ := Crew.stepWatcher_turn hs
  have hdiary : hub.host.world.toDiary = s.crew.host.world.toDiary := Lab.part_spares.watcher (fun _ _ => rfl) hturn
  have hhub : crew.toHub = hub := hstepped.hub
  have hsame : crew.host.world.toDiary = s.crew.host.world.toDiary := by rw [hhub, hdiary]
  exact still hsame (fun key => hstepped.watches_iff hturn run.kept.nodup (Crew.mem_of_watcher? hw).1) rfl id

theorem turned_sampler (h : s.turn setup.inLab .sampler = some s') : LabTurn setup s s' := by
  obtain ⟨sampler, hsampler, h⟩ := Option.bind_eq_some_iff.mp h
  obtain ⟨b, hb, h⟩ := Option.bind_eq_some_iff.mp h
  obtain ⟨⟨hub, sampler'⟩, hstep, heq⟩ := Option.bind_eq_some_iff.mp h
  obtain rfl := Option.some.inj heq
  obtain ⟨inner, -, rfl⟩ := Option.map_eq_some_iff.mp hb
  have hdiary : hub.host.world.toDiary = s.crew.host.world.toDiary :=
    Lab.part_spares.sampler (Sampler.step_turn hstep)
  exact still hdiary (fun _ => Iff.rfl) rfl id

theorem turned_receiver (h : EventStream.receive setup.inLab s = some s') : LabTurn setup s s' := by
  obtain ⟨_, -, rfl⟩ := Option.map_eq_some_iff.mp h
  exact still rfl (fun _ => Iff.rfl) rfl id

theorem turned_joiner (hrunning : s.phase = .running) (h : EventStream.JoinTurn s s') : LabTurn setup s s' := by
  have hlisting : s.isListing = false := by rw [EventStream.isListing, hrunning]
  cases h with
  | feedFailed | samplingFailed => exact still rfl (fun _ => Iff.rfl) hlisting.symm id
  | feedEnded => exact still rfl (fun _ => Iff.rfl) rfl fun _ => rfl
  | samplingEnded => exact still rfl (fun _ => Iff.rfl) rfl id

/-- To fill the gaps of an event one more listing may be asked for, and nothing else. -/
theorem enriched (setup : StreamSetup ρ τ) (crew : Crew (Lab ρ)) (e : RuntimeEvent) :
    ∃ asks host, (∀ m ∈ asks, m.isAsked) ∧
      (Forwarder.enrich setup.inLab.runtime crew e).1 = { crew with host } ∧
      host.world.past = crew.host.world.past ++ asks ∧ host.world.taken = crew.host.world.taken := by
  unfold Forwarder.enrich
  split
  · exact ⟨[], crew.host, nofun, rfl, (List.append_nil _).symm, rfl⟩
  · refine ⟨[.asked], _, fun m hm => ?_, rfl, rfl, rfl⟩
    obtain rfl := List.mem_singleton.mp hm
    rfl

theorem met (setup : StreamSetup ρ τ) (crew : Crew (Lab ρ)) (e : RuntimeEvent) :
    ∃ asks host, (∀ m ∈ asks, m.isAsked) ∧
      (Forwarder.meet setup.inLab.runtime crew e).1 = { (crew.obey e).1 with host } ∧
      host.world.past = crew.host.world.past ++ asks ∧ host.world.taken = crew.host.world.taken := by
  have hhost := crew.obey_host e
  unfold Forwarder.meet
  split
  next obeyed number heq =>
    rw [heq] at hhost ⊢
    exact ⟨[], obeyed.host, nofun, rfl, by rw [hhost, List.append_nil], by rw [hhost]⟩
  next obeyed heq =>
    rw [heq] at hhost ⊢
    obtain ⟨asks, host, hasks, hkeeps, hpast, htaken⟩ := enriched setup obeyed e
    exact ⟨asks, host, hasks, hkeeps, by rw [hpast, hhost], by rw [htaken, hhost]⟩

theorem turned_forwarder (run : CrewRun setup.inLab.runtime setup.inLab.monitor s.crew moves)
    (h : s.turn setup.inLab .forwarder = some s') : LabTurn setup s s' := by
  obtain ⟨f, hf, h⟩ := Option.bind_eq_some_iff.mp h
  obtain ⟨⟨crew, f'⟩, hstep, heq⟩ := Option.bind_eq_some_iff.mp h
  obtain rfl := Option.some.inj heq
  have hbusy {P : Prop} (hnone : s.forwarder = none) : P := by
    rw [show s.forwarder = some f from hf] at hnone
    cases hnone
  cases Forwarder.step_turn hstep with
  | cancelled => exact still rfl (fun _ => Iff.rfl) rfl hbusy
  | ended _ hobserve | failed _ hobserve =>
    have hpoll := congrArg Prod.snd hobserve
    dsimp only [Traced.observe, StreamSetup.inLab, Lab.runtime] at hpoll
    split at hpoll <;> cases hpoll
  | @met host e _ hobserve =>
    have hpoll := congrArg Prod.snd hobserve
    have hworld := congrArg (·.1.world) hobserve
    dsimp only [Traced.observe, StreamSetup.inLab, Lab.runtime] at hpoll hworld
    split at hpoll
    next told hnext =>
      obtain rfl := FeedPoll.event.inj hpoll
      rw [hnext] at hworld
      dsimp only at hworld
      obtain ⟨asks, after, hasks, hkeeps, hpast, htaken⟩ := met setup { s.crew with host } told
      have hafter : (Forwarder.meet setup.inLab.runtime { s.crew with host } told).1.host = after := by
        rw [hkeeps]
      have hseen : CrewRun setup.inLab.runtime setup.inLab.monitor { s.crew with host } _ := run.move (.around _)
      refine .took asks told hasks ?_ hf hnext ?_ (fun key hnamed => ?_) rfl
      · simp only [EventStream.diary]
        rw [hafter, hpast, ← hworld]
      · simp only [EventStream.diary]
        rw [hafter, htaken, ← hworld]
      · rw [hkeeps]
        exact hseen.watches_obey told hnamed
    next => cases hpoll
  | @dismissed number e _ =>
    obtain ⟨asks, after, hasks, hkeeps, hpast, htaken⟩ := enriched setup s.crew e
    refine .quiet asks hasks ?_ ?_ (fun key => ?_) rfl hbusy
    · simp only [EventStream.diary]
      rw [hkeeps, hpast]
    · simp only [EventStream.diary]
      rw [hkeeps, htaken]
    · rw [hkeeps]
      rfl
  | answered hobserve =>
    have hworld := congrArg (·.1.world) hobserve
    dsimp only [Traced.observe, StreamSetup.inLab, Lab.runtime] at hworld
    refine still ?_ (fun _ => Iff.rfl) rfl hbusy
    simp only [EventStream.diary]
    rw [← hworld]
  | sent ho | blocked ho | refused ho =>
    obtain ⟨channel, rfl, -⟩ := Hub.offer_eq_some ho
    exact still rfl (fun _ => Iff.rfl) rfl hbusy

/-- Loading the counters leaves the diary as it is, and the watchers too. -/
theorem sampling (setup : StreamSetup ρ τ) (containers : List Container) (s : EventStream (Lab ρ) τ) :
    ∃ host phase sampler, EventStream.startSampler setup.inLab containers s =
        { s with crew.host := host, phase, sampler } ∧
      host.world.toDiary = s.diary ∧
      (phase = .running ∨ ∃ teardown fault, phase = .unloading teardown fault) := by
  unfold EventStream.startSampler
  split
  next b _ hb =>
    obtain ⟨inner, -, rfl⟩ := Option.map_eq_some_iff.mp hb
    have hloaded := Lab.part_spares.load inner s.crew.host containers
    split
    next heq =>
      rw [heq] at hloaded
      exact ⟨_, _, s.sampler, rfl, hloaded, .inr ⟨_, _, rfl⟩⟩
    next heq =>
      rw [heq] at hloaded
      exact ⟨_, _, _, rfl, hloaded, .inl rfl⟩
  next => exact ⟨s.crew.host, _, s.sampler, rfl, rfl, .inl rfl⟩

/-- To go on with the containers that were listed is to begin their watchers and to subscribe, in this order. -/
theorem launch (setup : StreamSetup ρ τ) (containers : List Container) (s : EventStream (Lab ρ) τ) :
    ∃ host announcer phase sampler, EventStream.launch setup.inLab containers s =
        { s with
          announcer, crew := { EventStream.startWatchers s.crew containers with host }
          forwarder := some .waiting, phase, sampler } ∧
      host.world.past = s.diary.past ++ [.subscribed setup.options.labLabel] ∧
      host.world.taken = s.diary.taken ∧
      (phase = .running ∨ ∃ teardown fault, phase = .unloading teardown fault) := by
  have hhub := EventStream.startWatchers_hub s.crew containers
  obtain ⟨host, phase, sampler, heq, hdiary, hphase⟩ := sampling setup containers
    { s with
      announcer := if setup.options.initialState then .ofContainers containers else .finished
      crew := { EventStream.startWatchers s.crew containers with
        host := ((EventStream.startWatchers s.crew containers).host.perform (.events setup.options.labLabel)
          (setup.inLab.runtime.subscribe setup.options.labLabel)).1 }
      forwarder := some .waiting }
  refine ⟨host, _, phase, sampler, heq, ?_, ?_, hphase⟩ <;> rw [hdiary] <;> simp only [EventStream.diary] <;>
    rw [hhub]
  · rfl
  · rfl

theorem turned_listing (run : CrewRun setup.inLab.runtime setup.inLab.monitor s.crew moves)
    {answerAt : Nat} (hp : s.phase = .listing answerAt) (h : s.stepMain setup.inLab = some s') :
    LabTurn setup s s' := by
  have hlisting : s.isListing := by rw [EventStream.isListing, hp]
  let containers := s.diary.listed.map (·.val)
  have hlaunch : EventStream.launch setup.inLab containers s = s' := by
    unfold EventStream.stepMain at h
    rw [hp] at h
    dsimp only at h
    split at h
    · cases h
    · exact Option.some.inj h
  obtain ⟨host, announcer, phase, sampler, heq, hpast, htaken, hphase⟩ := launch setup containers s
  obtain rfl := heq.symm.trans hlaunch
  refine .launched hlisting ?_ hpast htaken fun key hnamed => ?_
  · rcases hphase with rfl | ⟨_, _, rfl⟩ <;> rfl
  · have hlisted : (∃ c ∈ containers, c.isRunning ∧ c.identity = key) ↔
        ∃ c ∈ s.diary.listed, c.val.identity = key := by
      constructor
      · rintro ⟨_, hmem, -, hkey⟩
        obtain ⟨c, hc, rfl⟩ := List.mem_map.mp hmem
        exact ⟨c, hc, hkey⟩
      · rintro ⟨c, hc, hkey⟩
        exact ⟨c.val, List.mem_map_of_mem hc, c.property.1, hkey⟩
    exact (run.watches_startWatchers containers hnamed).trans (or_congr_right hlisted)

theorem turned_main (run : CrewRun setup.inLab.runtime setup.inLab.monitor s.crew moves)
    (h : s.turn setup.inLab .main = some s') : LabTurn setup s s' := by
  obtain ⟨-, h⟩ := Option.ite_none_left_eq_some.mp h
  cases hp : s.phase with
  | listing answerAt => exact turned_listing run hp h
  | running =>
    have hlisting : s.isListing = false := by rw [EventStream.isListing, hp]
    unfold EventStream.stepMain at h
    rw [hp] at h
    dsimp only at h
    split at h
    · cases h
      exact still rfl (fun _ => Iff.rfl) hlisting.symm id
    · rcases Option.or_eq_some_iff.mp h with hreceived | ⟨-, hjoined⟩
      · exact turned_receiver hreceived
      · exact turned_joiner hp (EventStream.join_turn hjoined)
  | unloading teardown fault =>
    have hlisting : s.isListing = false := by rw [EventStream.isListing, hp]
    unfold EventStream.stepMain at h
    rw [hp] at h
    dsimp only at h
    split at h
    · cases h
      exact still rfl (fun _ => Iff.rfl) hlisting.symm id
    next b hb =>
      obtain ⟨inner, -, rfl⟩ := Option.map_eq_some_iff.mp hb
      split at h
      · cases h
      next hstep =>
        cases h
        exact still (Lab.part_spares.teardown hstep) (fun _ => Iff.rfl) hlisting.symm id
      next hstep =>
        cases h
        exact still (Lab.part_spares.teardown hstep) (fun _ => Iff.rfl) hlisting.symm id
  | dismissing numbers =>
    have hlisting : s.isListing = false := by rw [EventStream.isListing, hp]
    unfold EventStream.stepMain at h
    rw [hp] at h
    obtain ⟨-, h⟩ := Option.ite_none_right_eq_some.mp h
    cases h
    exact still rfl (fun _ => Iff.rfl) hlisting.symm id
  | closing deadline =>
    have hlisting : s.isListing = false := by rw [EventStream.isListing, hp]
    unfold EventStream.stepMain at h
    rw [hp] at h
    obtain ⟨-, h⟩ := Option.ite_none_right_eq_some.mp h
    cases h
    exact still rfl (fun _ => Iff.rfl) hlisting.symm id
  | ended result =>
    unfold EventStream.stepMain at h
    rw [hp] at h
    cases h

/-- Whatever task has its turn. -/
theorem turned (run : CrewRun setup.inLab.runtime setup.inLab.monitor s.crew moves)
    {task : StreamTask} (h : s.turn setup.inLab task = some s') : LabTurn setup s s' := by
  cases task with
  | announcer => exact turned_announcer h
  | watcher number => exact turned_watcher run h
  | forwarder => exact turned_forwarder run h
  | sampler => exact turned_sampler h
  | receiver => exact turned_receiver (Option.ite_none_right_eq_some.mp h).2
  | joiner =>
    obtain ⟨hrunning, hjoin⟩ := EventStream.turn_joiner h
    exact turned_joiner hrunning hjoin
  | main => exact turned_main run h

end LabTurn

/-- A stream that listens to a lab. Containers begin and end at any time; everything else around it may change too.
What has happened before its start is given. -/
inductive LabRun (setup : StreamSetup ρ τ) (before : List Moment) : EventStream (Lab ρ) τ → Prop where
  | start (rest : ρ) (origin : Int) (cancelled : Cancellations) :
    LabRun setup before (.start setup.inLab (.start ⟨⟨before, [], 0⟩, rest⟩) origin cancelled)
  | turn {s s' : EventStream (Lab ρ) τ} (task : StreamTask) : LabRun setup before s →
    s.turn setup.inLab task = some s' → LabRun setup before s'
  | unaware {s s' : EventStream (Lab ρ) τ} (task : StreamTask) : LabRun setup before s → s.heedsCancel task →
    s.unaware.turn setup.inLab task = some s' → LabRun setup before (s'.cancelling s.crew.cancelled)
  | moment {s : EventStream (Lab ρ) τ} (m : Moment) : LabRun setup before s → m.isLife →
    LabRun setup before (s.around ⟨s.crew.host.world.note m, s.crew.host.calls⟩ s.crew.now [])
  | around {s : EventStream (Lab ρ) τ} (rest : ρ) (now : Nat) (tokens : Cancellations) : LabRun setup before s →
    LabRun setup before (s.around ⟨{ s.crew.host.world with rest }, s.crew.host.calls⟩ now tokens)

/-- How far a stream has come: it has asked who runs, and then it has subscribed. -/
inductive StartUp (setup : StreamSetup ρ τ) (before : List Moment) (s : EventStream (Lab ρ) τ) : Prop where
  | listing (between : List Moment) : s.isListing → s.forwarder = none →
    s.diary.past = before ++ .asked :: between → (∀ m ∈ between, m.isLife) → s.diary.taken = 0 →
    s.diary.listed = (Moment.running before).filter (fun c => ScriptedWorld.shows setup.filter c.val) →
    (∀ key, ¬ s.crew.Watches key) → StartUp setup before s
  | launched (between after : List Moment) : s.isListing = false →
    s.diary.past = before ++ .asked :: (between ++ .subscribed setup.options.labLabel :: after) →
    (∀ m ∈ between, m.isLife) → (∀ m ∈ after, m.isLife ∨ m.isAsked) →
    s.diary.taken ≤ (after.filterMap (Moment.event? setup.options.labLabel)).length →
    (∀ key ≠ "", s.crew.Watches key ↔
      (∃ c ∈ (Moment.running before).filter (fun c => ScriptedWorld.shows setup.filter c.val),
        c.val.identity = key) ∨
      ∃ e ∈ (after.filterMap (Moment.event? setup.options.labLabel)).take s.diary.taken, e.Starts key) →
    StartUp setup before s

variable {setup : StreamSetup ρ τ} {before between after asks : List Moment} {s s' : EventStream (Lab ρ) τ}

theorem Moment.feed_of_subscribed (label : String) (hbefore : ∀ m ∈ before, m.isLife)
    (hbetween : ∀ m ∈ between, m.isLife) :
    feed (before ++ .asked :: (between ++ .subscribed label :: after)) = after.filterMap (event? label) := by
  rw [feed_skip fun m hm => .inl (hbefore m hm), feed, feed_skip fun m hm => .inl (hbetween m hm), feed]

theorem Moment.filterMap_asks (label : String) (h : ∀ m ∈ asks, m.isAsked) :
    asks.filterMap (event? label) = [] := by
  rw [List.filterMap_eq_nil_iff]
  intro m hm
  have hasked := h m hm
  cases m with
  | asked => rfl
  | began | ended | subscribed => cases hasked

namespace StartUp

theorem alike (h : StartUp setup before s) (hdiary : s'.diary = s.diary) (hcrew : s'.crew.watchers = s.crew.watchers)
    (hphase : s'.phase = s.phase) (hforwarder : s'.forwarder = s.forwarder) : StartUp setup before s' := by
  have hlisting : s'.isListing = s.isListing := by rw [EventStream.isListing, hphase, EventStream.isListing]
  have hwatches (key : String) : s'.crew.Watches key ↔ s.crew.Watches key := by
    rw [Crew.Watches, hcrew, Crew.Watches]
  cases h with
  | listing between hl hf hpast hlives htaken hlisted hnone =>
    rw [← hlisting] at hl
    rw [← hforwarder] at hf
    rw [← hdiary] at hpast htaken hlisted
    exact .listing between hl hf hpast hlives htaken hlisted fun key => (hwatches key).not.mpr (hnone key)
  | launched between after hl hpast hlives hlater htaken hiff =>
    rw [← hlisting] at hl
    rw [← hdiary] at hpast htaken hiff
    exact .launched between after hl hpast hlives hlater htaken
      fun key hnamed => (hwatches key).trans (hiff key hnamed)

theorem turned (h : StartUp setup before s) (hbefore : ∀ m ∈ before, m.isLife) (ht : LabTurn setup s s') :
    StartUp setup before s' := by
  cases h with
  | listing between hl hf hpast hlives htaken hlisted hnone =>
    cases ht with
    | quiet asks _ _ _ hwatches hlisting hquiet =>
      obtain ⟨hdiary, hforwarder⟩ := hquiet hf
      rw [← hdiary] at hpast htaken hlisted
      exact .listing between (hlisting.trans hl) hforwarder hpast hlives htaken hlisted
        fun key => (hwatches key).not.mpr (hnone key)
    | took _ _ _ _ hwaiting =>
      rw [hf] at hwaiting
      cases hwaiting
    | launched _ hlaunched hsubscribed htakes hwatches =>
      refine .launched between [] hlaunched ?_ hlives nofun ?_ fun key hnamed => ?_
      · rw [hsubscribed, hpast, List.append_assoc, List.cons_append]
      · rw [htakes, htaken]
        exact Nat.zero_le _
      · rw [hwatches key hnamed, hlisted]
        simp [hnone key]
  | launched between after hl hpast hlives hlater htaken hiff =>
    have hgrown (asks : List Moment) (hmore : s'.diary.past = s.diary.past ++ asks) : s'.diary.past =
        before ++ .asked :: (between ++ .subscribed setup.options.labLabel :: (after ++ asks)) := by
      rw [hmore, hpast]
      simp
    have hafter {asks : List Moment} (hasks : ∀ m ∈ asks, m.isAsked) :
        ∀ m ∈ after ++ asks, m.isLife ∨ m.isAsked := by
      intro m hm
      rcases List.mem_append.mp hm with hm | hm
      · exact hlater m hm
      · exact .inr (hasks m hm)
    have hfeed {asks : List Moment} (hasks : ∀ m ∈ asks, m.isAsked) :
        (after ++ asks).filterMap (Moment.event? setup.options.labLabel) =
          after.filterMap (Moment.event? setup.options.labLabel) := by
      rw [List.filterMap_append, Moment.filterMap_asks _ hasks, List.append_nil]
    cases ht with
    | quiet asks hasks hmore htakes hwatches hlisting =>
      refine .launched between (after ++ asks) (hlisting.trans hl) (hgrown asks hmore) hlives (hafter hasks) ?_
        fun key hnamed => ?_
      · rw [hfeed hasks, htakes]
        exact htaken
      · rw [hfeed hasks, htakes, hwatches key]
        exact hiff key hnamed
    | took asks e hasks hmore hwaiting hnext htakes hwatches hlisting =>
      rw [hpast, Moment.feed_of_subscribed _ hbefore hlives] at hnext
      refine .launched between (after ++ asks) (hlisting.trans hl) (hgrown asks hmore) hlives (hafter hasks) ?_
        fun key hnamed => ?_
      · rw [hfeed hasks, htakes]
        exact (List.getElem?_eq_some_iff.mp hnext).1
      · rw [hfeed hasks, htakes, hwatches key hnamed, hiff key hnamed, List.take_add_one, hnext,
          Option.toList_some, or_assoc]
        simp only [List.mem_append, List.mem_singleton, or_and_right, exists_or, exists_eq_left]
    | launched hlisting =>
      rw [hl] at hlisting
      cases hlisting

/-- Lives begin and end before the subscription or after it. -/
theorem moment (h : StartUp setup before s) {m : Moment} (hm : m.isLife) :
    StartUp setup before (s.around ⟨s.crew.host.world.note m, s.crew.host.calls⟩ s.crew.now []) := by
  have hnoted : (s.around ⟨s.crew.host.world.note m, s.crew.host.calls⟩ s.crew.now []).diary =
      { s.diary with past := s.diary.past ++ [m] } := rfl
  cases h with
  | listing between hl hf hpast hlives htaken hlisted hnone =>
    refine .listing (between ++ [m]) hl hf ?_ (fun later hlater => ?_) htaken hlisted hnone
    · rw [hnoted]
      dsimp only
      rw [hpast, List.append_assoc, List.cons_append]
    · rcases List.mem_append.mp hlater with hlater | hlater
      · exact hlives later hlater
      · exact List.mem_singleton.mp hlater ▸ hm
  | launched between after hl hpast hlives hlater htaken hiff =>
    refine .launched between (after ++ [m]) hl ?_ hlives (fun later hmem => ?_) ?_ fun key hnamed => ?_
    · rw [hnoted]
      dsimp only
      rw [hpast]
      simp
    · rcases List.mem_append.mp hmem with hmem | hmem
      · exact hlater later hmem
      · exact .inl (List.mem_singleton.mp hmem ▸ hm)
    · rw [hnoted, List.filterMap_append, List.length_append]
      exact Nat.le_add_right_of_le htaken
    · rw [hnoted, List.filterMap_append, List.take_append_of_le_length htaken]
      exact hiff key hnamed

end StartUp

theorem StreamSetup.inLab_fault? (setup : StreamSetup ρ τ) : setup.inLab.fault? = setup.fault? := by
  simp only [fault?, inLab, Lab.runtime, Option.isNone_map]
  rfl

namespace LabRun

theorem streamRun (run : LabRun setup before s) : ∃ moves, StreamRun setup.inLab s moves := by
  induction run with
  | start rest origin cancelled => exact ⟨_, .start _ origin cancelled⟩
  | turn task _ h ih =>
    obtain ⟨_, run⟩ := ih
    exact ⟨_, run.turn task h⟩
  | unaware task _ hheeds h ih =>
    obtain ⟨_, run⟩ := ih
    exact ⟨_, run.unaware task hheeds h⟩
  | moment m _ _ ih =>
    obtain ⟨_, run⟩ := ih
    exact ⟨_, run.around _ _ _⟩
  | around rest now tokens _ ih =>
    obtain ⟨_, run⟩ := ih
    exact ⟨_, run.around _ _ _⟩

theorem startUp (run : LabRun setup before s) (hfault : setup.fault? = none) (hbefore : ∀ m ∈ before, m.isLife) :
    StartUp setup before s := by
  induction run with
  | start rest origin cancelled =>
    have hnone : setup.inLab.fault? = none := setup.inLab_fault?.trans hfault
    unfold EventStream.start
    rw [hnone]
    refine .listing [] rfl rfl rfl nofun rfl rfl fun key => ?_
    rintro ⟨w, hw, -⟩
    cases hw
  | turn task run h ih =>
    obtain ⟨_, run⟩ := run.streamRun
    obtain ⟨_, crewRun⟩ := run.crewRun
    exact ih.turned hbefore (.turned crewRun h)
  | @unaware s s' task run hheeds h ih =>
    obtain ⟨_, run⟩ := run.streamRun
    have hunaware : StartUp setup before s.unaware := ih.alike rfl rfl rfl rfl
    obtain ⟨_, crewRun⟩ := run.crewRun
    have hnext : StartUp setup before s' := hunaware.turned hbefore (.turned (crewRun.move (.around _)) h)
    exact hnext.alike rfl rfl rfl rfl
  | moment m _ hm ih => exact ih.moment hm
  | around rest now tokens _ ih => exact ih.alike rfl rfl rfl rfl

end LabRun

theorem StreamSetup.shows_filter (setup : StreamSetup ρ τ) (c : Container) :
    ScriptedWorld.shows setup.filter c = c.labels.contains setup.options.labLabel := by
  simp [ScriptedWorld.shows, filter, ContainerFilter.labelled]

/-- A feed starts only who has begun since it was subscribed to. -/
theorem Moment.began_of_starts {label key : String} {e : RuntimeEvent} (h : e ∈ after.filterMap (event? label))
    (hstarts : e.Starts key) : ∃ c, .began c ∈ after ∧ c.val.identity = key := by
  obtain ⟨m, hm, htold⟩ := List.mem_filterMap.mp h
  obtain ⟨-, haction, hid⟩ := hstarts
  cases m with
  | began c =>
    obtain ⟨-, -, -, hsame⟩ := isContainer_of_told? htold
    exact ⟨c, hm, hsame.symm.trans hid⟩
  | ended c =>
    obtain ⟨-, -, hdie, -⟩ := isContainer_of_told? htold
    have hnot : lowerText "die" ∉ ["start", "unpause", "restart"] := by decide +kernel
    exact absurd (hdie ▸ haction) hnot
  | asked | subscribed => cases htold

/-- The start of a container with the label is told. -/
theorem Moment.starts_of_began {label : String} {c : Live} (h : .began c ∈ after)
    (hlabel : c.val.labels.contains label) :
    ∃ e ∈ after.filterMap (event? label), e.Starts c.val.identity := by
  have htold : told? label "start" c.val =
      some ⟨"container", "start", c.val.shortId, c.val.id, c.val.firstName, c.val.labels, none⟩ := if_pos hlabel
  obtain ⟨-, hcontainer, -, hid⟩ := isContainer_of_told? htold
  have hstart : lowerText "start" ∈ ["start", "unpause", "restart"] := by decide +kernel
  exact ⟨_, List.mem_filterMap.mpr ⟨_, h, htold⟩, hcontainer, hstart, hid⟩

/-- Who runs when the stream has started was listed and is watched, or the feed tells of its start, or it has begun
after the listing was asked for and before the subscription. Of the last kind, nobody hears of one that was not
listed and has not begun again. -/
theorem LabRun.heard_of (run : LabRun setup before s) (hfault : setup.fault? = none)
    (hbefore : ∀ m ∈ before, m.isLife) (hstarted : s.isListing = false) :
    ∃ between after, s.diary.past =
        before ++ .asked :: (between ++ .subscribed setup.options.labLabel :: after) ∧
      (∀ m ∈ between, m.isLife) ∧
      (∀ key ≠ "", s.crew.Watches key ↔
        (∃ c ∈ Moment.running before, c.val.labels.contains setup.options.labLabel ∧ c.val.identity = key) ∨
        ∃ e ∈ (Moment.feed s.diary.past).take s.diary.taken, e.Starts key) ∧
      (∀ c ∈ Moment.running s.diary.past, c.val.labels.contains setup.options.labLabel →
        c ∈ Moment.running before ∧ s.crew.Watches c.val.identity ∨
        (∃ e ∈ Moment.feed s.diary.past, e.Starts c.val.identity) ∨ .began c ∈ between) ∧
      ∀ c : Live, (∀ other ∈ Moment.running before, other.val.labels.contains setup.options.labLabel →
          other.val.identity ≠ c.val.identity) →
        (∀ other, .began other ∈ after → other.val.identity ≠ c.val.identity) →
        ¬ s.crew.Watches c.val.identity ∧ ∀ e ∈ Moment.feed s.diary.past, ¬ e.Starts c.val.identity := by
  cases run.startUp hfault hbefore with
  | listing _ hlisting =>
    rw [hstarted] at hlisting
    cases hlisting
  | launched between after _ hpast hlives _ _ hiff =>
    have hfeed : Moment.feed s.diary.past = after.filterMap (Moment.event? setup.options.labLabel) := by
      rw [hpast, Moment.feed_of_subscribed _ hbefore hlives]
    have hwatches (key : String) (hnamed : key ≠ "") : s.crew.Watches key ↔
        (∃ c ∈ Moment.running before, c.val.labels.contains setup.options.labLabel ∧ c.val.identity = key) ∨
        ∃ e ∈ (Moment.feed s.diary.past).take s.diary.taken, e.Starts key := by
      rw [hiff key hnamed, hfeed]
      simp only [List.mem_filter, setup.shows_filter, and_assoc]
    refine ⟨between, after, hpast, hlives, hwatches, fun c hc hlabel => ?_,
      fun c hlisted hbegun => ⟨fun hold => ?_, ?_⟩⟩
    · rw [hpast] at hc
      rcases Moment.mem_running_append hc with hc | hbegan
      · exact .inl ⟨hc, (hwatches _ c.property.2).mpr (.inl ⟨c, hc, hlabel, rfl⟩)⟩
      · simp only [List.mem_cons, List.mem_append, reduceCtorEq, false_or] at hbegan
        rcases hbegan with hbetween | hlater
        · exact .inr (.inr hbetween)
        · rw [hfeed]
          exact .inr (.inl (Moment.starts_of_began hlater hlabel))
    · rcases (hwatches _ c.property.2).mp hold with ⟨other, hother, hlabel, hkey⟩ | ⟨e, he, hstarts⟩
      · exact hlisted other hother hlabel hkey
      · rw [hfeed] at he
        obtain ⟨other, hother, hkey⟩ := Moment.began_of_starts (List.mem_of_mem_take he) hstarts
        exact hbegun other hother hkey
    · intro e he hstarts
      rw [hfeed] at he
      obtain ⟨other, hother, hkey⟩ := Moment.began_of_starts he hstarts
      exact hbegun other hother hkey

namespace Lab

def labels : Attributes := (∅ : Attributes).insert "containerlab" "lab"

def first : Live := ⟨{ Container.running "a" with labels }, by decide⟩

def second : Live := ⟨{ Container.running "b" with labels }, by decide⟩

def plain : StreamSetup ScriptedWorld String := .scripted .standard

/-- A stream that has asked for its containers. -/
def opening (before : List Moment) : EventStream (Lab ScriptedWorld) String :=
  .start plain.inLab (.start ⟨⟨before, [], 0⟩, ScriptedWorld.empty⟩) 0 []

def amid (s : EventStream (Lab ScriptedWorld) String) (m : Moment) : EventStream (Lab ScriptedWorld) String :=
  s.around ⟨s.crew.host.world.note m, s.crew.host.calls⟩ s.crew.now []

/-- A container is listed; another one begins after the subscription and is taken off the feed. -/
theorem heard_of_two : ∃ s, LabRun plain [.began first] s ∧ s.isListing = false ∧
    s.crew.Watches "a" ∧ s.crew.Watches "b" := by
  let launched := ((opening [.began first]).turn plain.inLab .main).get (by decide +kernel)
  let told := ((amid launched (.began second)).turn plain.inLab .forwarder).get (by decide +kernel)
  have opened : LabRun plain [.began first] (opening [.began first]) := .start ScriptedWorld.empty 0 []
  have subscribed : LabRun plain [.began first] launched := opened.turn .main (Option.some_get _).symm
  have begun : LabRun plain [.began first] (amid launched (.began second)) := subscribed.moment _ rfl
  have run : LabRun plain [.began first] told := begun.turn .forwarder (Option.some_get _).symm
  have hlaunched : told.isListing = false := by decide +kernel
  obtain ⟨between, after, -, -, hwatches, -⟩ :=
    run.heard_of (by decide +kernel) (by simp [Moment.isLife]) hlaunched
  refine ⟨told, run, hlaunched, (hwatches "a" (by decide)).mpr (.inl ⟨first, ?_, ?_, rfl⟩),
    (hwatches "b" (by decide)).mpr (.inr ?_)⟩
  · decide +kernel
  · decide +kernel
  · decide +kernel

/-- A container that begins after the listing was asked for and before the subscription is not heard of. -/
theorem not_heard_of_between : ¬ ∀ before s, LabRun plain before s → (∀ m ∈ before, m.isLife) →
    s.isListing = false → ∀ c ∈ Moment.running s.diary.past, c.val.labels.contains plain.options.labLabel →
      c ∈ Moment.running before ∨ ∃ e ∈ Moment.feed s.diary.past, e.Starts c.val.identity := by
  intro hclaim
  let launched := ((amid (opening []) (.began first)).turn plain.inLab .main).get (by decide +kernel)
  have asked : LabRun plain [] (opening []) := .start ScriptedWorld.empty 0 []
  have begun : LabRun plain [] (amid (opening []) (.began first)) := asked.moment _ rfl
  have run : LabRun plain [] launched := begun.turn .main (Option.some_get _).symm
  have hunheard : ¬ (first ∈ Moment.running [] ∨
      ∃ e ∈ Moment.feed launched.diary.past, e.Starts first.val.identity) := by
    decide +kernel
  exact hunheard (hclaim [] launched run nofun (by decide +kernel) first (by decide +kernel) (by decide +kernel))

end Lab

end LabStream
