import LabStream.Rehearsal
import LabStream.Proofs.RosterRun
import LabStream.Proofs.StreamTurns

namespace LabStream

/-- The tasks of a stream. The stream itself is three of them: it receives, it notes the ends of other
tasks, and it goes from phase to phase. -/
inductive StreamTask where
  | announcer
  | watcher (number : Nat)
  | forwarder
  | sampler
  | receiver
  | joiner
  | main
  deriving DecidableEq

inductive Sender where
  | announcer
  | forwarder
  | sampler
  | watcher (number : Nat) (key : String)
  deriving DecidableEq

/-- What happens in a stream. -/
inductive StreamMove where
  /-- The forwarder takes an event off the feed; a watcher may begin on it. -/
  | taken (e : RuntimeEvent) (begun : Option Nat)
  /-- An event enters the channel. -/
  | entered (sender : Sender) (event : Event)
  /-- An event is received and written out; `out` is what comes out. -/
  | received (event : Event) (out : List Event)
  deriving DecidableEq

variable {σ τ : Type}

namespace EventStream

variable (setup : StreamSetup σ τ) (s s' : EventStream σ τ)

def isRunning : Bool :=
  match s.phase with
  | .running => true
  | _ => false

/-- One turn of a task; none when it has to wait. -/
def turn : StreamTask → Option (EventStream σ τ)
  | .announcer => s.stepAnnouncer
  | .watcher number => do
    let w ← s.crew.watcher? number
    return { s with crew := ← s.crew.stepWatcher setup.runtime setup.monitor w }
  | .forwarder => s.stepForwarder setup
  | .sampler => s.stepSampler setup
  | .receiver => if s.isRunning then receive setup s else none
  | .joiner => if s.isRunning then s.join else none
  | .main => if s.isRunning && !s.crew.isCancelled s.crew.token then none else s.stepMain setup

/-- The event that the forwarder takes off the feed, if its turn comes. -/
def taken? : Option RuntimeEvent :=
  match s.forwarder with
  | some .waiting =>
    if s.crew.isCancelled s.crew.token then none
    else match (setup.runtime.nextEvent s.crew.host.world).2 with
      | .event e => some e
      | _ => none
  | _ => none

/-- The number of the first watcher that has been added. -/
def begun? : Option Nat := (s'.crew.watchers.drop s.crew.watchers.length).head?.map (·.number)

/-- The events that have been added to the queue. -/
def entries (sender : Sender) : List StreamMove :=
  (s'.crew.channel.queue.drop s.crew.channel.queue.length).map (.entered sender)

/-- The events that have come out. -/
def cameOut : List Event :=
  (setup.writer.written s'.crew.host.world).drop (setup.writer.written s.crew.host.world).length

/-- What happens in a turn. -/
def moved : StreamTask → List StreamMove
  | .announcer => s.entries s' .announcer
  | .watcher number => match s.crew.watcher? number with
    | some w => s.entries s' (.watcher number w.key)
    | none => []
  | .forwarder => ((s.taken? setup).map fun e => .taken e (s.begun? s')).toList ++ s.entries s' .forwarder
  | .sampler => s.entries s' .sampler
  | .receiver => match s.crew.channel.queue with
    | [] => []
    | event :: _ => [.received event (s.cameOut setup s')]
  | .joiner | .main => []

/-- Whether a task waits for several things at once, cancellation among them. -/
def heedsCancel : StreamTask → Bool
  | .watcher number => (s.crew.watcher? number).any (·.heedsCancel)
  | .forwarder => match s.forwarder with
    | some .waiting => true
    | _ => false
  | .sampler => match s.sampler with
    | some sampler => match sampler.phase with
      | .waiting => true
      | _ => false
    | none => false
  | .announcer | .receiver | .joiner | .main => false

/-- A stream as it looks to a task that sees something else first than that it is cancelled. -/
def unaware : EventStream σ τ := { s with crew.cancelled := [] }

def cancelling (tokens : Cancellations) : EventStream σ τ :=
  { s with crew.cancelled := s.crew.cancelled ++ tokens }

/-- A stream when something around it has changed: the world, the clock and what is cancelled. -/
def around (host : Traced σ) (now : Nat) (tokens : Cancellations) : EventStream σ τ :=
  { s with crew.host := host, crew.now := now, crew.cancelled := tokens ++ s.crew.cancelled }

end EventStream

/-- A stream at work, with all that has happened since its start. The tasks take turns in any order, a
task to which several things happen at once sees any of them first, and between two turns anything may
change around them. -/
inductive StreamRun (setup : StreamSetup σ τ) : EventStream σ τ → List StreamMove → Prop where
  | start (host : Traced σ) (origin : Int) (cancelled : Cancellations) :
    StreamRun setup (.start setup host origin cancelled) []
  | turn {s s' : EventStream σ τ} {moves : List StreamMove} (task : StreamTask) :
    StreamRun setup s moves → s.turn setup task = some s' →
    StreamRun setup s' (moves ++ s.moved setup s' task)
  | unaware {s s' : EventStream σ τ} {moves : List StreamMove} (task : StreamTask) :
    StreamRun setup s moves → s.heedsCancel task → s.unaware.turn setup task = some s' →
    StreamRun setup (s'.cancelling s.crew.cancelled) (moves ++ s.unaware.moved setup s' task)
  | around {s : EventStream σ τ} {moves : List StreamMove} (host : Traced σ) (now : Nat) (tokens : Cancellations) :
    StreamRun setup s moves → StreamRun setup (s.around host now tokens) moves

namespace EventStream

/-- What one turn of a task can be, with what happens in it. -/
inductive Turned (setup : StreamSetup σ τ) (s : EventStream σ τ) : EventStream σ τ → List StreamMove → Prop where
  | shown {c : Container} {rest : List Container} : s.announcer.containers = c :: rest →
    Turned setup s { s with announcer := ⟨rest, if c.showsSnapshot s.crew.instant then
      some (c.snapshotEvent s.crew.instant) else none⟩ } []
  | announced {event : Event} {hub : Hub σ} : s.announcer.event = some event →
    s.crew.offer .announcer s.crew.token event = some (hub, .sent) →
    Turned setup s { s with crew.toHub := hub, announcer.event := none } [.entered .announcer event]
  | unannounced {event : Event} {hub : Hub σ} {poll : SendPoll} {announcer : Announcer} :
    s.crew.offer .announcer s.crew.token event = some (hub, poll) → poll ≠ .sent →
    announcer = s.announcer ∨ announcer = .finished →
    Turned setup s { s with crew.toHub := hub, announcer } []
  | told {w : Watcher} {crew : Crew σ} {event : Event} {rest : List LinkReport} {begins : Bool} :
    s.crew.watcher? w.number = some w → s.crew.stepWatcher setup.runtime setup.monitor w = some crew →
    w.phase = .sending event rest begins → s.crew.isCancelled w.token = false → s.crew.channel.isOpen →
    crew.channel.isOpen → crew.channel.queue = s.crew.channel.queue ++ [event] →
    Turned setup s { s with crew } [.entered (.watcher w.number w.key) event]
  | watched {w : Watcher} {crew : Crew σ} : s.crew.watcher? w.number = some w →
    s.crew.stepWatcher setup.runtime setup.monitor w = some crew →
    crew.channel.queue = s.crew.channel.queue → crew.channel.isOpen = s.crew.channel.isOpen →
    Turned setup s { s with crew } []
  | took {host : Traced σ} {e : RuntimeEvent} {crew : Crew σ} {f : Forwarder} : s.forwarder = some .waiting →
    s.crew.host.observe setup.runtime.nextEvent = (host, .event e) →
    Forwarder.meet setup.runtime { s.crew with host } e = (crew, f) →
    Turned setup s { s with crew, forwarder := some f } [.taken e (begun? s { s with crew, forwarder := some f })]
  | recorded {event : Event} {hub : Hub σ} : s.forwarder = some (.sending event) →
    s.crew.offer .forwarder s.crew.token event = some (hub, .sent) →
    Turned setup s { s with crew.toHub := hub, forwarder := some .waiting } [.entered .forwarder event]
  | unrecorded {event : Event} {hub : Hub σ} {poll : SendPoll} {f : Forwarder} :
    s.forwarder = some (.sending event) → s.crew.offer .forwarder s.crew.token event = some (hub, poll) →
    poll ≠ .sent → f = .sending event ∨ f = .done (.ok ()) →
    Turned setup s { s with crew.toHub := hub, forwarder := some f } []
  | stopped (host : Traced σ) (result : Except RuntimeFault Unit) : s.forwarder = some .waiting →
    Turned setup s { s with crew.host := host, forwarder := some (.done result) } []
  | dismissed {number : Nat} {e : RuntimeEvent} {crew : Crew σ} {f : Forwarder} :
    s.forwarder = some (.dismissing number e) → s.crew.isDone number →
    Forwarder.enrich setup.runtime s.crew e = (crew, f) → Turned setup s { s with crew, forwarder := some f } []
  | answered {e : RuntimeEvent} {filter : ContainerFilter} {answerAt : Nat} {host : Traced σ}
    {found : Except RuntimeFault (List Container)} : s.forwarder = some (.asking e filter answerAt) →
    s.crew.host.observe (setup.runtime.answerList filter) = (host, found) →
    Turned setup s { s with
      crew.host := host
      forwarder := some (.sending (e.toEvent (Enrichment.fill e.attributes e.fullId e.name found) s.crew.instant)) } []
  | counted {b : TrafficBackend σ τ} {sampler : Sampler τ} {event : Event} {rest : List Event}
    {channel : Channel Event Producer} : setup.backend = some b → s.sampler = some sampler →
    sampler.phase = .sending (event :: rest) →
    s.crew.channel.isOpen → channel.isOpen → channel.queue = s.crew.channel.queue ++ [event] →
    Turned setup s { s with crew.channel := channel, sampler := some { sampler with phase := .sending rest } }
      [.entered .sampler event]
  | sampled {b : TrafficBackend σ τ} {sampler sampler' : Sampler τ} {hub : Hub σ} : setup.backend = some b →
    s.sampler = some sampler → sampler.Turn b s.crew.toHub hub sampler' →
    hub.channel.queue = s.crew.channel.queue → hub.channel.isOpen = s.crew.channel.isOpen →
    Turned setup s { s with crew.toHub := hub, sampler := some sampler' } []
  | received {host : Traced σ} {channel : Channel Event Producer} {event : Event} {out : List Event} :
    s.crew.channel.queue = event :: channel.queue → channel.isOpen = s.crew.channel.isOpen →
    out = setup.writer.leaves setup.format event s.crew.host.world →
    Turned setup s { s with crew.host := host, crew.channel := channel } [.received event out]
  | joined {s' : EventStream σ τ} : JoinTurn s s' → Turned setup s s' []
  | went {s' : EventStream σ τ} : MainTurn setup s s' → Turned setup s s' []

section Turned

variable {setup : StreamSetup σ τ} {s s' : EventStream σ τ}

theorem entries_sent {sender : Sender} {event : Event}
    (h : s'.crew.channel.queue = s.crew.channel.queue ++ [event]) : s.entries s' sender = [.entered sender event] := by
  rw [entries, h, List.drop_left]
  rfl

theorem entries_kept {sender : Sender} (h : s'.crew.channel.queue = s.crew.channel.queue) :
    s.entries s' sender = [] := by
  rw [entries, h, List.drop_length]
  rfl

theorem turned_announcer (h : s.turn setup .announcer = some s') :
    Turned setup s s' (s.moved setup s' .announcer) := by
  obtain ⟨⟨hub, announcer⟩, hstep, heq⟩ := Option.bind_eq_some_iff.mp h
  obtain rfl := Option.some.inj heq
  cases Announcer.step_turn hstep with
  | begun _ hc =>
    rw [moved, entries_kept]
    · exact .shown hc
    · rfl
  | sent he ho =>
    obtain ⟨channel, rfl, hqueue, -⟩ := Hub.offer_sent ho
    rw [moved, entries_sent hqueue]
    exact .announced he ho
  | blocked he ho =>
    obtain ⟨channel, rfl, hqueue, -⟩ := Hub.offer_unsent ho nofun
    rw [moved, entries_kept hqueue]
    exact .unannounced ho nofun (.inl rfl)
  | refused he ho =>
    obtain ⟨channel, rfl, hqueue, -⟩ := Hub.offer_unsent ho nofun
    rw [moved, entries_kept hqueue]
    exact .unannounced ho nofun (.inr rfl)

theorem turned_watcher {number : Nat} (h : s.turn setup (.watcher number) = some s') :
    Turned setup s s' (s.moved setup s' (.watcher number)) := by
  obtain ⟨w, hw, h⟩ := Option.bind_eq_some_iff.mp h
  obtain ⟨crew, hs, heq⟩ := Option.bind_eq_some_iff.mp h
  obtain rfl := Option.some.inj heq
  obtain ⟨-, rfl⟩ := Crew.mem_of_watcher? hw
  simp only [moved, hw]
  rcases Crew.stepWatcher_queue hs with ⟨event, rest, begins, hp, hlive, hwas, hopen, hqueue⟩ | ⟨hqueue, hopen⟩
  · rw [entries_sent hqueue]
    exact .told hw hs hp hlive hwas hopen hqueue
  · rw [entries_kept hqueue]
    exact .watched hw hs hqueue hopen

/-- The receiver sends nothing. -/
theorem mem_moved_receiver {move : StreamMove} (h : move ∈ s.moved setup s' .receiver) :
    ∃ event out, move = .received event out := by
  rw [moved] at h
  split at h
  · cases h
  · exact ⟨_, _, List.mem_singleton.mp h⟩

/-- A forwarder that takes nothing does no more than it sends. -/
theorem moved_forwarder (h : s.taken? setup = none) : s.moved setup s' .forwarder = s.entries s' .forwarder := by
  simp [moved, h]

theorem taken?_eq_none {f : Forwarder} (hf : s.forwarder = some f) (hbusy : f ≠ .waiting) : s.taken? setup = none := by
  unfold taken?
  rw [hf]
  cases f with
  | waiting => exact absurd rfl hbusy
  | dismissing | asking | sending | done => rfl

theorem taken?_eq_none_of_poll (h : ∀ e, (setup.runtime.nextEvent s.crew.host.world).2 ≠ .event e) :
    s.taken? setup = none := by
  unfold taken?
  split
  · split
    · rfl
    · split
      next heq => exact absurd heq (h _)
      · rfl
  · rfl

theorem turned_forwarder (h : s.turn setup .forwarder = some s') :
    Turned setup s s' (s.moved setup s' .forwarder) := by
  obtain ⟨f, hf, h⟩ := Option.bind_eq_some_iff.mp h
  obtain ⟨⟨crew, f'⟩, hstep, heq⟩ := Option.bind_eq_some_iff.mp h
  obtain rfl := Option.some.inj heq
  cases Forwarder.step_turn hstep with
  | cancelled hc =>
    have hnone : s.taken? setup = none := by simp [taken?, hf, hc]
    rw [moved_forwarder hnone, entries_kept]
    · exact .stopped s.crew.host (.ok ()) hf
    · rfl
  | ended _ hobserve =>
    have hpoll : (setup.runtime.nextEvent s.crew.host.world).2 = .ended := congrArg Prod.snd hobserve
    rw [moved_forwarder (taken?_eq_none_of_poll fun e => by rw [hpoll]; nofun), entries_kept]
    · exact .stopped _ (.ok ()) hf
    · rfl
  | @failed _ fault _ hobserve =>
    have hpoll : (setup.runtime.nextEvent s.crew.host.world).2 = .failed fault := congrArg Prod.snd hobserve
    rw [moved_forwarder (taken?_eq_none_of_poll fun e => by rw [hpoll]; nofun), entries_kept]
    · exact .stopped _ (.error fault) hf
    · rfl
  | @met host e hlive hobserve =>
    have hpoll : (setup.runtime.nextEvent s.crew.host.world).2 = .event e := congrArg Prod.snd hobserve
    have htaken : s.taken? setup = some e := by simp [taken?, hf, hlive, hpoll]
    rw [moved, htaken, entries_kept]
    · exact .took hf hobserve rfl
    · obtain ⟨host', hkeeps⟩ := Forwarder.meet_keeps setup.runtime { s.crew with host } e
      rw [hkeeps]
      exact congrArg Channel.queue (Crew.obey_channel _ e)
  | dismissed hd =>
    rw [moved_forwarder (taken?_eq_none hf nofun), entries_kept]
    · exact .dismissed hf hd rfl
    · obtain ⟨host, hkeeps⟩ := Forwarder.enrich_keeps setup.runtime s.crew _
      rw [hkeeps]
  | answered hobserve =>
    rw [moved_forwarder (taken?_eq_none hf nofun), entries_kept]
    · exact .answered hf hobserve
    · rfl
  | sent ho =>
    obtain ⟨channel, rfl, hqueue, -⟩ := Hub.offer_sent ho
    rw [moved_forwarder (taken?_eq_none hf nofun), entries_sent hqueue]
    exact .recorded hf ho
  | blocked ho =>
    obtain ⟨channel, rfl, hqueue, -⟩ := Hub.offer_unsent ho nofun
    rw [moved_forwarder (taken?_eq_none hf nofun), entries_kept hqueue]
    exact .unrecorded hf ho nofun (.inl rfl)
  | refused ho =>
    obtain ⟨channel, rfl, hqueue, -⟩ := Hub.offer_unsent ho nofun
    rw [moved_forwarder (taken?_eq_none hf nofun), entries_kept hqueue]
    exact .unrecorded hf ho nofun (.inr rfl)

theorem turned_sampler (h : s.turn setup .sampler = some s') :
    Turned setup s s' (s.moved setup s' .sampler) := by
  obtain ⟨sampler, hsampler, h⟩ := Option.bind_eq_some_iff.mp h
  obtain ⟨b, hb, h⟩ := Option.bind_eq_some_iff.mp h
  obtain ⟨⟨hub, sampler'⟩, hstep, heq⟩ := Option.bind_eq_some_iff.mp h
  obtain rfl := Option.some.inj heq
  rcases Sampler.step_queue_cases hstep with ⟨event, rest, channel, hp, rfl, rfl, hwas, hopen, hqueue⟩ | ⟨hqueue, hopen⟩
  · rw [moved, entries_sent hqueue]
    exact .counted hb hsampler hp hwas hopen hqueue
  · rw [moved, entries_kept hqueue]
    exact .sampled hb hsampler (Sampler.step_turn hstep) hqueue hopen

theorem phase_of_isRunning (h : s.isRunning) : s.phase = .running := by
  unfold isRunning at h
  split at h
  next hp => exact hp
  next => cases h

theorem turn_joiner (h : s.turn setup .joiner = some s') : s.phase = .running ∧ JoinTurn s s' := by
  obtain ⟨hrunning, h⟩ := Option.ite_none_right_eq_some.mp h
  exact ⟨phase_of_isRunning hrunning, join_turn h⟩

theorem turn_main (h : s.turn setup .main = some s') : MainTurn setup s s' := by
  obtain ⟨hphase, h⟩ := Option.ite_none_left_eq_some.mp h
  rcases stepMain_turn h with hturn | ⟨hrunning, hlive, -⟩
  · exact hturn
  · exact absurd (by simp [isRunning, hrunning, hlive]) hphase

theorem turned {task : StreamTask} (h : s.turn setup task = some s') : Turned setup s s' (s.moved setup s' task) := by
  cases task with
  | announcer => exact turned_announcer h
  | watcher number => exact turned_watcher h
  | forwarder => exact turned_forwarder h
  | sampler => exact turned_sampler h
  | receiver =>
    obtain ⟨-, h⟩ := Option.ite_none_right_eq_some.mp h
    obtain ⟨host, channel, event, rfl, hqueue, hopen, hput⟩ := receive_eq h
    rw [moved, hqueue]
    refine .received hqueue hopen ?_
    rw [cameOut, hput, EventWriter.leaves]
  | joiner => exact .joined (turn_joiner h).2
  | main => exact .went (turn_main h)

/-- No task sends anything while it waits for several things at once. -/
theorem silent_of_heedsCancel {task : StreamTask} (hheeds : s.heedsCancel task)
    (h : s.unaware.turn setup task = some s') (sender : Sender) (event : Event) :
    .entered sender event ∉ s.unaware.moved setup s' task := by
  cases task with
  | announcer | receiver | joiner | main => cases hheeds
  | watcher number =>
    obtain ⟨w, hw, h⟩ := Option.bind_eq_some_iff.mp h
    obtain ⟨crew, hs, heq⟩ := Option.bind_eq_some_iff.mp h
    obtain rfl := Option.some.inj heq
    have hwaits : w.heedsCancel := by simpa [heedsCancel, show s.crew.watcher? number = some w from hw] using hheeds
    simp only [moved, hw]
    rcases Crew.stepWatcher_queue hs with ⟨_, _, _, hp, -⟩ | ⟨hqueue, -⟩
    · simp [Watcher.heedsCancel, hp] at hwaits
    · rw [entries_kept hqueue]
      exact List.not_mem_nil
  | forwarder =>
    obtain ⟨f, hf, h⟩ := Option.bind_eq_some_iff.mp h
    obtain ⟨⟨crew, f'⟩, hstep, heq⟩ := Option.bind_eq_some_iff.mp h
    obtain rfl := Option.some.inj heq
    have hqueue : crew.channel.queue = s.unaware.crew.channel.queue := by
      cases Forwarder.step_turn hstep with
      | cancelled | ended | failed => rfl
      | met => rw [Forwarder.meet_channel]
      | dismissed | answered | sent | blocked | refused =>
        simp [heedsCancel, show s.forwarder = some _ from hf] at hheeds
    rw [moved, entries_kept hqueue, List.append_nil]
    simp
  | sampler =>
    obtain ⟨sampler, hsampler, h⟩ := Option.bind_eq_some_iff.mp h
    obtain ⟨b, hb, h⟩ := Option.bind_eq_some_iff.mp h
    obtain ⟨⟨hub, sampler'⟩, hstep, heq⟩ := Option.bind_eq_some_iff.mp h
    obtain rfl := Option.some.inj heq
    rcases Sampler.step_queue_cases hstep with ⟨_, _, _, hp, -⟩ | ⟨hqueue, -⟩
    · simp [heedsCancel, show s.sampler = some sampler from hsampler, hp] at hheeds
    · rw [moved, entries_kept hqueue]
      exact List.not_mem_nil

end Turned

end EventStream

variable {runtime : ContainerRuntime σ} {monitor : LinkMonitor σ}

/-- Moves of a crew that keep its token and take no cancellation back. -/
inductive CrewPath (runtime : ContainerRuntime σ) (monitor : LinkMonitor σ) (crew : Crew σ) : Crew σ → Prop where
  | refl : CrewPath runtime monitor crew crew
  | move {mid crew' : Crew σ} {move : CrewMove} : CrewPath runtime monitor crew mid →
    CrewStep runtime monitor mid move crew' → crew'.token = mid.token → mid.cancelled ⊆ crew'.cancelled →
    CrewPath runtime monitor crew crew'

namespace CrewPath

variable {crew mid : Crew σ}

theorem hub (path : CrewPath runtime monitor crew mid) {hub : Hub σ} (htoken : hub.token = mid.token)
    (hcancelled : mid.cancelled ⊆ hub.cancelled) : CrewPath runtime monitor crew { mid with toHub := hub } :=
  path.move (.around hub) htoken hcancelled

theorem start (path : CrewPath runtime monitor crew mid) (c : Container) :
    CrewPath runtime monitor crew (mid.start c).1 := by
  have hhub := mid.start_hub c
  exact path.move (.start c) (by rw [hhub]) (by rw [hhub]; exact List.Subset.refl _)

theorem starts (path : CrewPath runtime monitor crew mid) (containers : List Container) :
    CrewPath runtime monitor crew (containers.foldl (fun crew c => (crew.start c).1) mid) := by
  induction containers generalizing mid with
  | nil => exact path
  | cons c containers ih => exact ih (path.start c)

theorem dismiss (path : CrewPath runtime monitor crew mid) (key : String) :
    CrewPath runtime monitor crew (mid.dismiss key).1 := by
  refine path.move (.stop key) (mid.dismiss_token key) ?_
  rw [Crew.dismiss_cancelled]
  exact List.subset_append_right _ _

theorem dismissAll (path : CrewPath runtime monitor crew mid) :
    CrewPath runtime monitor crew mid.dismissAll.1 :=
  path.move .shutdown rfl fun _ hmem => Crew.mem_dismissAll.mpr (.inl hmem)

theorem obey (path : CrewPath runtime monitor crew mid) (e : RuntimeEvent) :
    CrewPath runtime monitor crew (mid.obey e).1 := by
  unfold Crew.obey
  split
  · exact path
  · exact path.start _
  · exact path.dismiss _

theorem watcher (path : CrewPath runtime monitor crew mid) {w : Watcher} {crew' : Crew σ}
    (hw : mid.watcher? w.number = some w) (hs : mid.stepWatcher runtime monitor w = some crew') :
    CrewPath runtime monitor crew crew' := by
  obtain ⟨hub, w', hturn, hstepped⟩ := Crew.stepWatcher_turn hs
  obtain ⟨htoken, hcancelled⟩ := hturn.tokens
  rw [← hstepped.hub] at htoken hcancelled
  exact path.move (.watcher hw hs) htoken (hcancelled ▸ List.Subset.refl _)

end CrewPath

namespace EventStream

variable {setup : StreamSetup σ τ} {s s' : EventStream σ τ}

theorem path_finish {before : Crew σ} (path : CrewPath runtime monitor before s.crew) (result : Except StreamFault Unit) :
    CrewPath runtime monitor before (s.finish result).crew :=
  path.hub rfl (List.subset_cons_self _ _)

theorem path_main (h : MainTurn setup s s') : CrewPath setup.runtime setup.monitor s.crew s'.crew := by
  cases h with
  | unlisted host | unloaded host =>
    refine path_finish ?_ _
    exact CrewPath.refl.hub rfl (List.Subset.refl _)
  | @launched _ host containers =>
    have hlisted : CrewPath setup.runtime setup.monitor s.crew { s.crew with host } :=
      CrewPath.refl.hub rfl (List.Subset.refl _)
    have hstarted := hlisted.starts (containers.filter (·.isRunning))
    obtain ⟨host', announcer, -, ⟨fault, heq⟩ | ⟨phase, sampler, heq, -⟩⟩ :=
      launch_cases setup containers { s with crew.host := host }
    · rw [heq]
      refine path_finish ?_ _
      exact hstarted.hub rfl (List.Subset.refl _)
    · rw [heq]
      exact hstarted.hub rfl (List.Subset.refl _)
  | unloading host => exact CrewPath.refl.hub rfl (List.Subset.refl _)
  | dismissed => exact CrewPath.refl.dismissAll
  | closing => exact .refl
  | ended => exact path_finish .refl _

/-- What a turn does to the crew, the crew could do by moves of its own. -/
theorem Turned.path {moves : List StreamMove} (h : Turned setup s s' moves) :
    CrewPath setup.runtime setup.monitor s.crew s'.crew := by
  cases h with
  | shown => exact .refl
  | announced _ ho | unannounced ho | recorded _ ho | unrecorded _ ho =>
    obtain ⟨channel, rfl, -⟩ := Hub.offer_eq_some ho
    exact CrewPath.refl.hub rfl (List.Subset.refl _)
  | told hw hs | watched hw hs => exact CrewPath.refl.watcher hw hs
  | @took host e _ _ _ _ hmeet =>
    obtain ⟨host', hkeeps⟩ := Forwarder.meet_keeps setup.runtime { s.crew with host } e
    rw [hmeet] at hkeeps
    obtain rfl := hkeeps
    have hseen : CrewPath setup.runtime setup.monitor s.crew { s.crew with host } :=
      CrewPath.refl.hub rfl (List.Subset.refl _)
    exact (hseen.obey e).hub rfl (List.Subset.refl _)
  | stopped | answered | counted | received => exact CrewPath.refl.hub rfl (List.Subset.refl _)
  | dismissed _ _ henrich =>
    obtain ⟨host, hkeeps⟩ := Forwarder.enrich_keeps setup.runtime s.crew _
    rw [henrich] at hkeeps
    obtain rfl := hkeeps
    exact CrewPath.refl.hub rfl (List.Subset.refl _)
  | sampled _ _ hturn =>
    obtain ⟨htoken, hcancelled⟩ := hturn.tokens
    exact CrewPath.refl.hub htoken (hcancelled ▸ List.Subset.refl _)
  | joined hjoin =>
    cases hjoin with
    | feedFailed | samplingFailed => exact CrewPath.refl.hub rfl (List.subset_cons_self _ _)
    | feedEnded | samplingEnded => exact .refl
  | went hturn => exact path_main hturn

end EventStream

theorem CrewPath.cancelled_subset {crew crew' : Crew σ} (path : CrewPath runtime monitor crew crew') :
    crew.cancelled ⊆ crew'.cancelled := by
  induction path with
  | refl => exact List.Subset.refl _
  | move _ _ _ hcancelled ih => exact List.Subset.trans ih hcancelled

theorem CrewRun.path {crew crew' : Crew σ} {moves : List CrewMove} (run : CrewRun runtime monitor crew moves)
    (path : CrewPath runtime monitor crew crew') : ∃ moves, CrewRun runtime monitor crew' moves := by
  induction path with
  | refl => exact ⟨moves, run⟩
  | move _ hstep _ _ ih =>
    obtain ⟨moves, run⟩ := ih
    exact ⟨_, run.move hstep⟩

namespace EventStream

theorem start_crew (setup : StreamSetup σ τ) (host : Traced σ) (origin : Int) (cancelled : Cancellations) :
    (start setup host origin cancelled).crew.roster = .empty ∧
      (start setup host origin cancelled).crew.watchers = [] := by
  unfold start
  dsimp only
  split <;> exact ⟨rfl, rfl⟩

end EventStream

namespace StreamRun

variable {setup : StreamSetup σ τ} {s : EventStream σ τ} {moves : List StreamMove}

/-- What holds of a crew whoever starts and stops its watchers holds of the crew of a stream. -/
theorem crewRun (run : StreamRun setup s moves) :
    ∃ moves, CrewRun setup.runtime setup.monitor s.crew moves := by
  induction run with
  | start host origin cancelled =>
    obtain ⟨hroster, hwatchers⟩ := EventStream.start_crew setup host origin cancelled
    exact ⟨[], .fresh hroster hwatchers⟩
  | turn _ _ h ih =>
    obtain ⟨_, crewRun⟩ := ih
    exact crewRun.path (EventStream.turned h).path
  | unaware _ _ _ h ih =>
    obtain ⟨_, crewRun⟩ := ih
    obtain ⟨_, later⟩ := (crewRun.move (.around _)).path (EventStream.turned h).path
    exact ⟨_, later.move (.around _)⟩
  | around _ _ _ _ ih =>
    obtain ⟨_, crewRun⟩ := ih
    exact ⟨_, crewRun.move (.around _)⟩

end StreamRun

/-- The events that have entered the channel. -/
def enteredEvents (moves : List StreamMove) : List Event :=
  moves.filterMap fun
    | .entered _ event => some event
    | _ => none

/-- The events that have been received, each with what has come out when it was written. -/
def receipts (moves : List StreamMove) : List (Event × List Event) :=
  moves.filterMap fun
    | .received event out => some (event, out)
    | _ => none

theorem enteredEvents_append (moves more : List StreamMove) :
    enteredEvents (moves ++ more) = enteredEvents moves ++ enteredEvents more := List.filterMap_append

theorem receipts_append (moves more : List StreamMove) :
    receipts (moves ++ more) = receipts moves ++ receipts more := List.filterMap_append

namespace EventStream

variable {setup : StreamSetup σ τ} {s s' : EventStream σ τ} {moves new : List StreamMove}

/-- What has entered is received, or it is still in the queue; a closed channel has lost its queue. -/
structure InOrder (s : EventStream σ τ) (moves : List StreamMove) : Prop where
  opened : s.crew.channel.isOpen → enteredEvents moves = (receipts moves).map (·.1) ++ s.crew.channel.queue
  closed : s.crew.channel.isOpen = false →
    s.crew.channel.queue = [] ∧ (receipts moves).map (·.1) <+: enteredEvents moves

namespace InOrder

theorem quiet (h : s.InOrder moves) (hopen : s'.crew.channel.isOpen = s.crew.channel.isOpen)
    (hqueue : s'.crew.channel.queue = s.crew.channel.queue) : s'.InOrder moves := by
  refine ⟨fun ho => ?_, fun hc => ?_⟩
  · rw [hqueue, h.opened (hopen ▸ ho)]
  · rw [hqueue]
    exact h.closed (hopen ▸ hc)

theorem finish (h : s.InOrder moves) (result : Except StreamFault Unit) : (s.finish result).InOrder moves := by
  refine ⟨nofun, fun _ => ⟨rfl, ?_⟩⟩
  cases ho : s.crew.channel.isOpen with
  | true => exact h.opened ho ▸ List.prefix_append _ _
  | false => exact (h.closed ho).2

theorem enter (h : s.InOrder moves) {sender : Sender} {event : Event} (hwas : s.crew.channel.isOpen)
    (hopen : s'.crew.channel.isOpen) (hqueue : s'.crew.channel.queue = s.crew.channel.queue ++ [event]) :
    s'.InOrder (moves ++ [.entered sender event]) := by
  refine ⟨fun _ => ?_, fun hc => absurd hopen (by simp [hc])⟩
  rw [enteredEvents_append, receipts_append, hqueue, h.opened hwas]
  simp [enteredEvents, receipts]

theorem receive (h : s.InOrder moves) {event : Event} {out : List Event}
    (hopen : s'.crew.channel.isOpen = s.crew.channel.isOpen)
    (hqueue : s.crew.channel.queue = event :: s'.crew.channel.queue) : s'.InOrder (moves ++ [.received event out]) := by
  refine ⟨fun ho => ?_, fun hc => ?_⟩
  · have hopened := h.opened (hopen ▸ ho)
    rw [enteredEvents_append, receipts_append, hopened, hqueue]
    simp [enteredEvents, receipts]
  · have hclosed := (h.closed (hopen ▸ hc)).1
    rw [hqueue] at hclosed
    cases hclosed

theorem take (h : s.InOrder moves) {e : RuntimeEvent} {begun : Option Nat}
    (hopen : s'.crew.channel.isOpen = s.crew.channel.isOpen)
    (hqueue : s'.crew.channel.queue = s.crew.channel.queue) : s'.InOrder (moves ++ [.taken e begun]) := by
  refine ⟨fun ho => ?_, fun hc => ?_⟩
  · rw [enteredEvents_append, receipts_append, hqueue, h.opened (hopen ▸ ho)]
    simp [enteredEvents, receipts]
  · rw [enteredEvents_append, receipts_append, hqueue]
    simpa [enteredEvents, receipts] using h.closed (hopen ▸ hc)

theorem turned (h : s.InOrder moves) (hturned : Turned setup s s' new) : s'.InOrder (moves ++ new) := by
  cases hturned with
  | shown | stopped | answered =>
    rw [List.append_nil]
    exact h.quiet rfl rfl
  | announced _ ho | recorded _ ho =>
    obtain ⟨channel, rfl, hqueue, hopen, hwas, -⟩ := Hub.offer_sent ho
    exact h.enter hwas hopen hqueue
  | unannounced ho hpoll | unrecorded _ ho hpoll =>
    obtain ⟨channel, rfl, hqueue, hopen⟩ := Hub.offer_unsent ho hpoll
    rw [List.append_nil]
    exact h.quiet hopen hqueue
  | told _ _ _ _ hwas hopen hqueue | counted _ _ _ hwas hopen hqueue => exact h.enter hwas hopen hqueue
  | watched _ _ hqueue hopen | sampled _ _ _ hqueue hopen =>
    rw [List.append_nil]
    exact h.quiet hopen hqueue
  | @took host e crew _ _ _ hmeet =>
    have hchannel : crew.channel = s.crew.channel := by
      have hkept := Forwarder.meet_channel setup.runtime { s.crew with host } e
      rwa [hmeet] at hkept
    exact h.take (congrArg Channel.isOpen hchannel) (congrArg Channel.queue hchannel)
  | @dismissed _ e crew _ _ _ henrich =>
    have hchannel : crew.channel = s.crew.channel := by
      have hkept := Forwarder.enrich_channel setup.runtime s.crew e
      rwa [henrich] at hkept
    rw [List.append_nil]
    exact h.quiet (congrArg Channel.isOpen hchannel) (congrArg Channel.queue hchannel)
  | received hqueue hopen => exact h.receive hopen hqueue
  | joined hjoin =>
    rw [List.append_nil]
    cases hjoin with
    | feedFailed => exact h.finish _
    | feedEnded | samplingEnded => exact h.quiet rfl rfl
    | samplingFailed =>
      have hseen : InOrder { s with samplerSeen := true } moves := h.quiet rfl rfl
      exact hseen.finish _
  | went hturn =>
    rw [List.append_nil]
    cases hturn with
    | unlisted host | unloaded host =>
      have hseen : InOrder { s with crew.host := host } moves := h.quiet rfl rfl
      exact hseen.finish _
    | @launched _ host containers =>
      have hchannel : (startWatchers { s.crew with host } containers).channel = s.crew.channel := by
        rw [startWatchers_hub]
      obtain ⟨host', announcer, -, ⟨fault, heq⟩ | ⟨phase, sampler, heq, -⟩⟩ :=
        launch_cases setup containers { s with crew.host := host }
      · rw [heq]
        refine InOrder.finish ?_ _
        exact h.quiet (congrArg Channel.isOpen hchannel) (congrArg Channel.queue hchannel)
      · rw [heq]
        exact h.quiet (congrArg Channel.isOpen hchannel) (congrArg Channel.queue hchannel)
    | unloading | dismissed | closing => exact h.quiet rfl rfl
    | ended => exact h.finish _

end InOrder

end EventStream

/-- The channel is first in, first out: what is received is what has entered, in this order. -/
theorem StreamRun.inOrder {setup : StreamSetup σ τ} {s : EventStream σ τ} {moves : List StreamMove}
    (run : StreamRun setup s moves) : s.InOrder moves := by
  induction run with
  | start host origin cancelled =>
    unfold EventStream.start
    dsimp only
    split
    · refine EventStream.InOrder.finish ?_ _
      exact ⟨fun _ => rfl, nofun⟩
    · exact ⟨fun _ => rfl, nofun⟩
  | turn _ _ h ih => exact ih.turned (EventStream.turned h)
  | @unaware s _ moves _ _ _ h ih =>
    have hunaware : s.unaware.InOrder moves := ih.quiet rfl rfl
    exact (hunaware.turned (EventStream.turned h)).quiet rfl rfl
  | around _ _ _ _ ih => exact ih.quiet rfl rfl

/-- Each event that is received is handed to the writer once. -/
theorem EventStream.Turned.written {setup : StreamSetup σ τ} {s s' : EventStream σ τ} {new : List StreamMove}
    (h : EventStream.Turned setup s s' new) :
    ∀ r ∈ receipts new, ∃ world, r.2 = setup.writer.leaves setup.format r.1 world := by
  cases h with
  | received _ _ hout =>
    intro r hr
    obtain rfl := List.mem_singleton.mp hr
    exact ⟨_, hout⟩
  | shown | unannounced | watched | unrecorded | stopped | dismissed | answered | sampled | joined | went => nofun
  | announced | told | took | recorded | counted => nofun

theorem StreamRun.written {setup : StreamSetup σ τ} {s : EventStream σ τ} {moves : List StreamMove}
    (run : StreamRun setup s moves) :
    ∀ r ∈ receipts moves, ∃ world, r.2 = setup.writer.leaves setup.format r.1 world := by
  induction run with
  | start => nofun
  | turn _ _ h ih | unaware _ _ _ h ih =>
    rw [receipts_append]
    exact List.forall_mem_append.mpr ⟨ih, (EventStream.turned h).written⟩
  | around _ _ _ _ ih => exact ih

theorem StreamRun.receipts_prefix {setup : StreamSetup σ τ} {s : EventStream σ τ} {moves : List StreamMove}
    (run : StreamRun setup s moves) : (receipts moves).map (·.1) <+: enteredEvents moves := by
  cases ho : s.crew.channel.isOpen with
  | true => exact run.inOrder.opened ho ▸ List.prefix_append _ _
  | false => exact (run.inOrder.closed ho).2

end LabStream
