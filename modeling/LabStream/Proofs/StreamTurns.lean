import LabStream.EventStream
import LabStream.Proofs.WatcherTurns

namespace LabStream

variable {σ τ : Type} {runtime : ContainerRuntime σ} {monitor : LinkMonitor σ}

namespace Cancellations

theorem covers_append (cancelled more : Cancellations) (token : Token) :
    covers (cancelled ++ more) token = (covers cancelled token || covers more token) := List.any_append

theorem covers_mono {cancelled more : Cancellations} {token : Token} (hmore : cancelled ⊆ more)
    (h : cancelled.covers token) : more.covers token := by
  obtain ⟨above, hmem, hprefix⟩ := List.any_eq_true.mp h
  exact List.any_eq_true.mpr ⟨above, hmore hmem, hprefix⟩

theorem covers_of_mem {cancelled : Cancellations} {token : Token} (h : token ∈ cancelled) : cancelled.covers token :=
  List.any_eq_true.mpr ⟨token, h, List.isPrefixOf_iff_prefix.mpr (List.prefix_refl _)⟩

end Cancellations

namespace Channel

variable {α π : Type}

theorem isOpen_grant (ch : Channel α π) : ch.grant.isOpen = ch.isOpen := by
  unfold grant
  split
  · rfl
  · split <;> rfl

variable [DecidableEq π]

theorem isOpen_poll (ch : Channel α π) (p : π) (cancelled : Bool) (item : α) :
    (ch.poll p cancelled item).1.isOpen = ch.isOpen := by
  unfold poll leave
  split
  · exact isOpen_grant _
  · split
    · exact isOpen_grant _
    · split
      · rfl
      · split
        · rfl
        · split <;> rfl

/-- Nothing is sent on a token that is cancelled, nor when nobody receives. -/
theorem poll_sent {ch : Channel α π} {p : π} {cancelled : Bool} {item : α}
    (h : (ch.poll p cancelled item).2 = .sent) : cancelled = false ∧ ch.isOpen := by
  unfold poll at h
  split at h
  · cases h
  next hc =>
    split at h
    · cases h
    next ho => exact ⟨Bool.eq_false_iff.mpr hc, by simpa using ho⟩

theorem poll_refused_iff {ch : Channel α π} {p : π} {cancelled : Bool} {item : α} :
    (ch.poll p cancelled item).2 = .refused ↔ cancelled = true ∨ ch.isOpen = false := by
  unfold poll
  split_ifs <;> simp_all

end Channel

namespace Hub

variable {hub hub' : Hub σ} {p : Producer} {token : Token} {event : Event} {poll : SendPoll}

theorem send_of_offer (h : hub.offer p token event = some (hub', poll)) : hub.send p token event = (hub', poll) := by
  unfold offer at h
  split at h
  next heq =>
    split at h
    · cases h
    · exact heq.trans (Option.some.inj h)
  next => exact Option.some.inj h

/-- An event that is sent is the last one in the queue, its token is not cancelled and somebody receives. -/
theorem offer_sent (h : hub.offer p token event = some (hub', .sent)) :
    ∃ channel, hub' = { hub with channel } ∧ channel.queue = hub.channel.queue ++ [event] ∧
      channel.isOpen ∧ hub.channel.isOpen ∧ hub.isCancelled token = false := by
  have hsend := send_of_offer h
  obtain ⟨channel, rfl, hqueue⟩ := offer_eq_some h
  obtain ⟨hchannel, hpoll⟩ := Prod.mk.inj hsend
  obtain ⟨hlive, hopen⟩ := Channel.poll_sent hpoll
  have hkept := hub.channel.isOpen_poll p (hub.isCancelled token) event
  have heq : (hub.channel.poll p (hub.isCancelled token) event).1 = channel := congrArg Hub.channel hchannel
  rw [heq] at hkept
  exact ⟨channel, rfl, by simpa using hqueue, hkept.trans hopen, hopen, hlive⟩

theorem offer_unsent (h : hub.offer p token event = some (hub', poll)) (hpoll : poll ≠ .sent) :
    ∃ channel, hub' = { hub with channel } ∧ channel.queue = hub.channel.queue ∧
      channel.isOpen = hub.channel.isOpen := by
  have hsend := send_of_offer h
  obtain ⟨channel, rfl, hqueue⟩ := offer_eq_some h
  obtain ⟨hchannel, -⟩ := Prod.mk.inj hsend
  have hkept := hub.channel.isOpen_poll p (hub.isCancelled token) event
  have heq : (hub.channel.poll p (hub.isCancelled token) event).1 = channel := congrArg Hub.channel hchannel
  rw [heq] at hkept
  exact ⟨channel, rfl, by simpa [hpoll] using hqueue, hkept⟩

/-- An event is refused only for cancellation, or because nobody receives. -/
theorem offer_refused (h : hub.offer p token event = some (hub', .refused)) :
    hub.isCancelled token ∨ hub.channel.isOpen = false :=
  Channel.poll_refused_iff.mp (congrArg Prod.snd (send_of_offer h))

@[simp] theorem letGo_token (hub : Hub σ) (w : Watcher) : (hub.letGo monitor w).token = hub.token := by
  unfold letGo
  split <;> rfl

@[simp] theorem letGo_cancelled (hub : Hub σ) (w : Watcher) :
    (hub.letGo monitor w).cancelled = hub.cancelled := by
  unfold letGo
  split <;> rfl

end Hub

namespace Crew

variable {crew crew' : Crew σ} {w w' : Watcher} {hub : Hub σ}

theorem start_hub (crew : Crew σ) (c : Container) : (crew.start c).1.toHub = crew.toHub := by
  unfold start
  split <;> rfl

theorem dismiss_channel (crew : Crew σ) (key : String) : (crew.dismiss key).1.channel = crew.channel := by
  unfold dismiss
  split <;> rfl

theorem dismiss_token (crew : Crew σ) (key : String) : (crew.dismiss key).1.token = crew.token := by
  unfold dismiss
  split <;> rfl

theorem dismiss_cancelled (crew : Crew σ) (key : String) : (crew.dismiss key).1.cancelled =
    (crew.roster.entries[key]?.map crew.watcherToken).toList ++ crew.cancelled := by
  unfold dismiss Roster.take
  cases crew.roster.entries[key]? <;> rfl

theorem mem_foldl_cancel {token : Token} {numbers : List Nat} {cancelled : Cancellations} (f : Nat → Token) :
    token ∈ numbers.foldl (fun (cancelled : Cancellations) n => cancelled.cancel (f n)) cancelled ↔
      token ∈ cancelled ∨ ∃ n ∈ numbers, f n = token := by
  induction numbers generalizing cancelled with
  | nil => simp
  | cons n numbers ih =>
    rw [List.foldl_cons, ih, Cancellations.cancel, List.mem_cons]
    constructor
    · rintro ((rfl | hold) | ⟨m, hm, rfl⟩)
      · exact .inr ⟨n, List.mem_cons_self, rfl⟩
      · exact .inl hold
      · exact .inr ⟨m, List.mem_cons_of_mem n hm, rfl⟩
    · rintro (hold | ⟨m, hm, rfl⟩)
      · exact .inl (.inr hold)
      · rcases List.mem_cons.mp hm with rfl | hm
        · exact .inl (.inl rfl)
        · exact .inr ⟨m, hm, rfl⟩

theorem mem_dismissAll {crew : Crew σ} {token : Token} : token ∈ crew.dismissAll.1.cancelled ↔
    token ∈ crew.cancelled ∨ ∃ n ∈ crew.dismissAll.2, crew.watcherToken n = token :=
  mem_foldl_cancel _

theorem obey_channel (crew : Crew σ) (e : RuntimeEvent) : (crew.obey e).1.channel = crew.channel := by
  unfold obey
  split
  · rfl
  · exact congrArg Hub.channel (crew.start_hub _)
  · exact crew.dismiss_channel _

/-- A step of a watcher cancels nobody. -/
theorem Turn.tokens (h : Turn runtime monitor crew w hub w') :
    hub.token = crew.token ∧ hub.cancelled = crew.cancelled := by
  obtain ⟨host, hkeeps⟩ := crew.listLinks_keeps monitor w
  cases h with
  | cancelled | refused | unresolved | unopened | closed => simp
  | surveyed | unread | read => simp [hkeeps]
  | resolved | opened | learned | released | sent | blocked => exact ⟨rfl, rfl⟩

end Crew

theorem Crew.stepWatcher_queue {crew crew' : Crew σ} {w : Watcher}
    (h : crew.stepWatcher runtime monitor w = some crew') :
    (∃ event rest begins, w.phase = .sending event rest begins ∧ crew.isCancelled w.token = false ∧
      crew.channel.isOpen ∧ crew'.channel.isOpen ∧ crew'.channel.queue = crew.channel.queue ++ [event]) ∨
    crew'.channel.queue = crew.channel.queue ∧ crew'.channel.isOpen = crew.channel.isOpen := by
  by_cases hsends : ∃ event rest begins, w.phase = .sending event rest begins
  · obtain ⟨event, rest, begins, hp⟩ := hsends
    unfold stepWatcher at h
    rw [hp] at h
    dsimp only at h
    split at h
    · cases h
    next ho =>
      cases h
      obtain ⟨channel, rfl, hqueue, hopen⟩ := Hub.offer_unsent ho nofun
      exact .inr ⟨hqueue, hopen⟩
    next ho =>
      cases h
      obtain ⟨channel, rfl, hqueue, hopen⟩ := Hub.offer_unsent ho nofun
      rw [endWatch_eq]
      simp [setWatcher, hqueue, hopen]
    next ho =>
      cases h
      obtain ⟨channel, rfl, hqueue, hopen, hwas, hlive⟩ := Hub.offer_sent ho
      exact .inl ⟨event, rest, begins, hp, hlive, hwas, hopen, hqueue⟩
  · obtain ⟨hub, w', hturn, hstepped⟩ := stepWatcher_turn h
    obtain ⟨host, hkeeps⟩ := crew.listLinks_keeps monitor w
    rw [hstepped.hub]
    right
    cases hturn with
    | sent hp | blocked hp | refused hp => exact absurd ⟨_, _, _, hp⟩ hsends
    | surveyed | unread | read => simp [hkeeps]
    | cancelled | unresolved | unopened | closed => simp
    | resolved | opened | learned | released => exact ⟨rfl, rfl⟩

theorem Sampler.step_queue_cases {b : TrafficBackend σ τ} {hub hub' : Hub σ} {sampler sampler' : Sampler τ}
    (h : sampler.step b hub = some (hub', sampler')) :
    (∃ event rest channel, sampler.phase = .sending (event :: rest) ∧ hub' = { hub with channel } ∧
      sampler' = { sampler with phase := .sending rest } ∧ hub.channel.isOpen ∧ channel.isOpen ∧
      channel.queue = hub.channel.queue ++ [event]) ∨
    hub'.channel.queue = hub.channel.queue ∧ hub'.channel.isOpen = hub.channel.isOpen := by
  by_cases hsends : ∃ event rest, sampler.phase = .sending (event :: rest)
  · obtain ⟨event, rest, hp⟩ := hsends
    unfold step at h
    rw [hp] at h
    dsimp only at h
    split at h
    · cases h
    next ho =>
      cases h
      obtain ⟨channel, rfl, hqueue, hopen⟩ := Hub.offer_unsent ho nofun
      exact .inr ⟨hqueue, hopen⟩
    next ho =>
      cases h
      obtain ⟨channel, rfl, hqueue, hopen⟩ := Hub.offer_unsent ho nofun
      exact .inr ⟨hqueue, hopen⟩
    next ho =>
      cases h
      obtain ⟨channel, rfl, hqueue, hopen, hwas, -⟩ := Hub.offer_sent ho
      exact .inl ⟨event, rest, channel, hp, rfl, rfl, hwas, hopen, hqueue⟩
  · right
    unfold step at h
    split at h
    next => cases h
    next =>
      split at h
      · cases h
        exact ⟨rfl, rfl⟩
      · split at h
        · cases h
        · dsimp only at h
          split at h <;> cases h <;> exact ⟨rfl, rfl⟩
    next =>
      cases h
      exact ⟨rfl, rfl⟩
    next hp => exact absurd ⟨_, _, hp⟩ hsends
    next =>
      split at h <;> cases h <;> exact ⟨rfl, rfl⟩

namespace Announcer

/-- What one step of an announcer can be. -/
inductive Turn (hub : Hub σ) (a : Announcer) : Hub σ → Announcer → Prop where
  | begun {c : Container} {rest : List Container} : a.event = none → a.containers = c :: rest →
    Turn hub a hub ⟨rest, if c.showsSnapshot hub.instant then some (c.snapshotEvent hub.instant) else none⟩
  | sent {event : Event} {hub' : Hub σ} : a.event = some event →
    hub.offer .announcer hub.token event = some (hub', .sent) → Turn hub a hub' { a with event := none }
  | blocked {event : Event} {hub' : Hub σ} : a.event = some event →
    hub.offer .announcer hub.token event = some (hub', .blocked) → Turn hub a hub' a
  | refused {event : Event} {hub' : Hub σ} : a.event = some event →
    hub.offer .announcer hub.token event = some (hub', .refused) → Turn hub a hub' finished

theorem step_turn {hub hub' : Hub σ} {a a' : Announcer} (h : a.step hub = some (hub', a')) :
    Turn hub a hub' a' := by
  unfold step at h
  split at h
  next he =>
    split at h
    · cases h
    next ho =>
      cases h
      exact .blocked he ho
    next ho =>
      cases h
      exact .refused he ho
    next ho =>
      cases h
      exact .sent he ho
  · cases h
  next he hc =>
    cases h
    exact .begun he hc

end Announcer

namespace Forwarder

/-- What one step of a forwarder can be. -/
inductive Turn (runtime : ContainerRuntime σ) (crew : Crew σ) : Forwarder → Crew σ → Forwarder → Prop where
  | cancelled : crew.isCancelled crew.token → Turn runtime crew waiting crew (done (.ok ()))
  | ended {host : Traced σ} : crew.isCancelled crew.token = false →
    crew.host.observe runtime.nextEvent = (host, .ended) →
    Turn runtime crew waiting { crew with host } (done (.ok ()))
  | failed {host : Traced σ} {fault : RuntimeFault} : crew.isCancelled crew.token = false →
    crew.host.observe runtime.nextEvent = (host, .failed fault) →
    Turn runtime crew waiting { crew with host } (done (.error fault))
  | met {host : Traced σ} {e : RuntimeEvent} : crew.isCancelled crew.token = false →
    crew.host.observe runtime.nextEvent = (host, .event e) →
    Turn runtime crew waiting (meet runtime { crew with host } e).1 (meet runtime { crew with host } e).2
  | dismissed {number : Nat} {e : RuntimeEvent} : crew.isDone number →
    Turn runtime crew (dismissing number e) (enrich runtime crew e).1 (enrich runtime crew e).2
  | answered {e : RuntimeEvent} {filter : ContainerFilter} {answerAt : Nat} {host : Traced σ}
    {found : Except RuntimeFault (List Container)} :
    crew.host.observe (runtime.answerList filter) = (host, found) →
    Turn runtime crew (asking e filter answerAt) { crew with host }
      (sending (e.toEvent (Enrichment.fill e.attributes e.fullId e.name found) crew.instant))
  | sent {event : Event} {hub : Hub σ} : crew.offer .forwarder crew.token event = some (hub, .sent) →
    Turn runtime crew (sending event) { crew with toHub := hub } waiting
  | blocked {event : Event} {hub : Hub σ} : crew.offer .forwarder crew.token event = some (hub, .blocked) →
    Turn runtime crew (sending event) { crew with toHub := hub } (sending event)
  | refused {event : Event} {hub : Hub σ} : crew.offer .forwarder crew.token event = some (hub, .refused) →
    Turn runtime crew (sending event) { crew with toHub := hub } (done (.ok ()))

theorem step_turn {crew crew' : Crew σ} {f f' : Forwarder} (h : f.step runtime crew = some (crew', f')) :
    Turn runtime crew f crew' f' := by
  cases f with
  | waiting =>
    simp only [step] at h
    split at h
    next hc =>
      cases h
      exact .cancelled hc
    next hc =>
      have hlive := Bool.eq_false_iff.mpr hc
      split at h
      · cases h
      next heq =>
        cases h
        exact .ended hlive (Prod.ext rfl heq)
      next heq =>
        cases h
        exact .failed hlive (Prod.ext rfl heq)
      next e heq =>
        obtain ⟨rfl, rfl⟩ := Prod.mk.inj (Option.some.inj h)
        exact .met hlive (Prod.ext rfl heq)
  | dismissing number e =>
    simp only [step] at h
    split at h
    next hd =>
      obtain ⟨rfl, rfl⟩ := Prod.mk.inj (Option.some.inj h)
      exact .dismissed hd
    · cases h
  | asking e filter answerAt =>
    simp only [step] at h
    split at h
    · cases h
    · cases h
      exact .answered rfl
  | sending event =>
    simp only [step] at h
    split at h
    · cases h
    next ho =>
      cases h
      exact .blocked ho
    next ho =>
      cases h
      exact .refused ho
    next ho =>
      cases h
      exact .sent ho
  | done result => cases h

theorem enrich_keeps (runtime : ContainerRuntime σ) (crew : Crew σ) (e : RuntimeEvent) :
    ∃ host, (enrich runtime crew e).1 = { crew with host } := by
  unfold enrich
  split <;> exact ⟨_, rfl⟩

theorem enrich_channel (runtime : ContainerRuntime σ) (crew : Crew σ) (e : RuntimeEvent) :
    (enrich runtime crew e).1.channel = crew.channel := by
  obtain ⟨host, hkeeps⟩ := enrich_keeps runtime crew e
  rw [hkeeps]

theorem meet_keeps (runtime : ContainerRuntime σ) (crew : Crew σ) (e : RuntimeEvent) :
    ∃ host, (meet runtime crew e).1 = { (crew.obey e).1 with host } := by
  unfold meet
  split
  next heq => exact ⟨_, by rw [heq]⟩
  next heq =>
    obtain ⟨host, hkeeps⟩ := enrich_keeps runtime (crew.obey e).1 e
    rw [heq] at hkeeps ⊢
    exact ⟨host, hkeeps⟩

theorem meet_channel (runtime : ContainerRuntime σ) (crew : Crew σ) (e : RuntimeEvent) :
    (meet runtime crew e).1.channel = crew.channel := by
  obtain ⟨host, hkeeps⟩ := meet_keeps runtime crew e
  rw [hkeeps]
  exact crew.obey_channel e

end Forwarder

theorem Sampler.Turn.tokens {b : TrafficBackend σ τ} {hub hub' : Hub σ} {sampler sampler' : Sampler τ}
    (h : sampler.Turn b hub hub' sampler') : hub'.token = hub.token ∧ hub'.cancelled = hub.cancelled := by
  cases h <;> exact ⟨rfl, rfl⟩

namespace EventStream

variable {setup : StreamSetup σ τ} {s s' : EventStream σ τ}

/-- The first event of the queue is received and written out. -/
theorem receive_eq (h : receive setup s = some s') : ∃ host channel event, s' =
    { s with crew.host := host, crew.channel := channel } ∧ s.crew.channel.queue = event :: channel.queue ∧
      channel.isOpen = s.crew.channel.isOpen ∧
      host.world = setup.writer.put setup.format event s.crew.host.world := by
  obtain ⟨⟨event, channel⟩, hreceive, rfl⟩ := Option.map_eq_some_iff.mp h
  unfold Channel.receive at hreceive
  split at hreceive
  · cases hreceive
  next heq =>
    cases hreceive
    refine ⟨_, _, event, rfl, ?_, Channel.isOpen_grant _, rfl⟩
    rw [Channel.queue_grant, heq]

/-- What follows from the end of a task: a fault ends the stream. -/
inductive JoinTurn (s : EventStream σ τ) : EventStream σ τ → Prop where
  | feedFailed {fault : RuntimeFault} : s.forwarder = some (.done (.error fault)) →
    JoinTurn s (s.finish (.error (.runtime fault)))
  | feedEnded : s.forwarder = some (.done (.ok ())) → JoinTurn s { s with forwarder := none }
  | samplingFailed {sampler : Sampler τ} {fault : TrafficFault} : s.sampler = some sampler →
    sampler.fault = some fault →
    JoinTurn s ({ s with samplerSeen := true }.finish (.error (.traffic fault)))
  | samplingEnded {sampler : Sampler τ} : s.sampler = some sampler → sampler.fault = none →
    JoinTurn s { s with samplerSeen := true }

theorem join_turn (h : s.join = some s') : JoinTurn s s' := by
  unfold join at h
  split at h
  next hf =>
    cases h
    exact .feedFailed hf
  next hf =>
    cases h
    exact .feedEnded hf
  next =>
    split at h
    · cases h
    next hs =>
      split at h
      · cases h
      · split at h
        next hfault =>
          cases h
          exact .samplingFailed hs hfault
        next hfault =>
          cases h
          exact .samplingEnded hs hfault

/-- What a sampler is started with does not reach the other tasks. -/
theorem startSampler_keeps (setup : StreamSetup σ τ) (containers : List Container) (s : EventStream σ τ) :
    ∃ host phase sampler, startSampler setup containers s = { s with crew.host := host, phase, sampler } ∧
      (phase = .running ∨ ∃ teardown fault, phase = .unloading teardown fault) ∧
      (sampler = s.sampler ∨ ∃ started : Sampler τ, sampler = some started ∧ started.phase = .waiting) := by
  unfold startSampler
  split
  · split
    · exact ⟨_, _, s.sampler, rfl, .inr ⟨_, _, rfl⟩, .inl rfl⟩
    · exact ⟨_, _, _, rfl, .inl rfl, .inr ⟨_, rfl, rfl⟩⟩
  · exact ⟨s.crew.host, _, s.sampler, rfl, .inl rfl, .inl rfl⟩

theorem startWatchers_hub (crew : Crew σ) (containers : List Container) :
    (startWatchers crew containers).toHub = crew.toHub := by
  unfold startWatchers
  induction containers.filter (·.isRunning) generalizing crew with
  | nil => rfl
  | cons c containers ih => rw [List.foldl_cons, ih, Crew.start_hub]

/-- A stream that goes on with its containers, unless it may not subscribe to what is to come. -/
theorem launch_cases (setup : StreamSetup σ τ) (containers : List Container) (s : EventStream σ τ) :
    ∃ host announcer, (announcer = .finished ∨ announcer = .ofContainers containers) ∧
      ((∃ fault, launch setup containers s = EventStream.finish
          { s with announcer, crew := { startWatchers s.crew containers with host } } (.error (.runtime fault))) ∨
        ∃ phase sampler, launch setup containers s =
          { s with
            announcer, crew := { startWatchers s.crew containers with host }
            forwarder := some .waiting, phase, sampler } ∧
          (phase = .running ∨ ∃ teardown fault, phase = .unloading teardown fault) ∧
          (sampler = s.sampler ∨ ∃ started : Sampler τ, sampler = some started ∧ started.phase = .waiting)) := by
  have hannouncer : (if setup.options.initialState then Announcer.ofContainers containers else .finished) = .finished ∨
      (if setup.options.initialState then Announcer.ofContainers containers else .finished) =
        .ofContainers containers := by
    split
    · exact .inr rfl
    · exact .inl rfl
  unfold launch
  dsimp only
  split
  next => exact ⟨_, _, hannouncer, .inl ⟨_, rfl⟩⟩
  next =>
    obtain ⟨host, phase, sampler, heq, hphase, hsampler⟩ := startSampler_keeps setup containers _
    exact ⟨host, _, hannouncer, .inr ⟨phase, sampler, heq, hphase, hsampler⟩⟩

/-- What one step of the stream from phase to phase can be. -/
inductive MainTurn (setup : StreamSetup σ τ) (s : EventStream σ τ) : EventStream σ τ → Prop where
  | unlisted {answerAt : Nat} (host : Traced σ) (fault : RuntimeFault) : s.phase = .listing answerAt →
    MainTurn setup s ({ s with crew.host := host }.finish (.error (.runtime fault)))
  | launched {answerAt : Nat} {host : Traced σ} {containers : List Container} : s.phase = .listing answerAt →
    s.crew.host.observe (setup.runtime.answerList setup.filter) = (host, .ok containers) →
    MainTurn setup s (launch setup containers { s with crew.host := host })
  | unloading {before after : Teardown τ} {fault : TrafficFault} (host : Traced σ) :
    s.phase = .unloading before fault →
    MainTurn setup s { s with crew.host := host, phase := .unloading after fault }
  | unloaded {teardown : Teardown τ} {fault : TrafficFault} (host : Traced σ) :
    s.phase = .unloading teardown fault →
    MainTurn setup s ({ s with crew.host := host }.finish (.error (.traffic fault)))
  | dismissed : s.phase = .running → s.crew.isCancelled s.crew.token →
    MainTurn setup s { s with crew := s.crew.dismissAll.1, phase := .dismissing s.crew.dismissAll.2 }
  | closing {numbers : List Nat} : s.phase = .dismissing numbers → numbers.all s.crew.isDone →
    MainTurn setup s { s with phase := .closing (s.crew.now + closingGrace.nanos) }
  | ended {deadline : Nat} : s.phase = .closing deadline → MainTurn setup s (s.finish (.ok ()))

/-- One step of the stream: it goes from phase to phase, it receives, or it notes the end of a task. -/
theorem stepMain_turn (h : s.stepMain setup = some s') :
    MainTurn setup s s' ∨ s.phase = .running ∧ s.crew.isCancelled s.crew.token = false ∧
      (receive setup s = some s' ∨ s.join = some s') := by
  unfold stepMain at h
  split at h
  · cases h
  next hp =>
    split at h
    · cases h
    · dsimp only at h
      split at h
      · cases h
        exact .inl (.unlisted _ _ hp)
      next heq =>
        cases h
        exact .inl (.launched hp (Prod.ext rfl heq))
  next hp =>
    split at h
    · cases h
      exact .inl (.unloaded _ hp)
    · split at h
      · cases h
      · cases h
        exact .inl (.unloading _ hp)
      · cases h
        exact .inl (.unloaded _ hp)
  next hp =>
    split at h
    next hc =>
      cases h
      exact .inl (.dismissed hp hc)
    next hc =>
      refine .inr ⟨hp, Bool.eq_false_iff.mpr hc, ?_⟩
      rcases Option.or_eq_some_iff.mp h with hreceived | ⟨-, hjoined⟩
      · exact .inl hreceived
      · exact .inr hjoined
  next hp =>
    split at h
    next hd =>
      cases h
      exact .inl (.closing hp hd)
    · cases h
  next hp =>
    split at h
    · cases h
      exact .inl (.ended hp)
    · cases h

end EventStream

end LabStream
