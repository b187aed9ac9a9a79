import LabStream.Proofs.Rendering
import LabStream.Proofs.Tidy

namespace LabStream

variable {σ τ : Type}

/-- All that has entered the channel, with its senders. -/
def sendings (moves : List StreamMove) : List (Sender × Event) :=
  moves.filterMap fun
    | .entered sender event => some (sender, event)
    | _ => none

/-- The events that the forwarder has sent. -/
def forwarded (moves : List StreamMove) : List Event :=
  ((sendings moves).filter (·.1 = .forwarder)).map (·.2)

theorem forwarded_append (moves more : List StreamMove) :
    forwarded (moves ++ more) = forwarded moves ++ forwarded more := by
  simp only [forwarded, sendings, List.filterMap_append, List.filter_append, List.map_append]

theorem map_snd_sendings (moves : List StreamMove) : (sendings moves).map (·.2) = enteredEvents moves := by
  rw [sendings, enteredEvents, List.map_filterMap]
  refine List.filterMap_congr fun move _ => ?_
  cases move <;> rfl

namespace EventStream

variable (setup : StreamSetup σ τ) (s : EventStream σ τ)

/-- What the feed shows in the turn of a task. -/
def heard : StreamTask → List FeedPoll
  | .forwarder => match s.forwarder with
    | some .waiting =>
      if s.crew.isCancelled s.crew.token then [] else [(setup.runtime.nextEvent s.crew.host.world).2]
    | _ => []
  | _ => []

end EventStream

/-- A stream at work, with all that has happened, all that the feed has shown to it and all that has been cancelled
from outside. -/
inductive FeedRun (setup : StreamSetup σ τ) :
    EventStream σ τ → List StreamMove → List FeedPoll → Cancellations → Prop where
  | start (host : Traced σ) (origin : Int) (cancelled : Cancellations) :
    FeedRun setup (.start setup host origin cancelled) [] [] cancelled
  | turn {s s' : EventStream σ τ} {moves : List StreamMove} {polls : List FeedPoll} {called : Cancellations}
    (task : StreamTask) : FeedRun setup s moves polls called → s.turn setup task = some s' →
    FeedRun setup s' (moves ++ s.moved setup s' task) (polls ++ s.heard setup task) called
  | unaware {s s' : EventStream σ τ} {moves : List StreamMove} {polls : List FeedPoll} {called : Cancellations}
    (task : StreamTask) : FeedRun setup s moves polls called → s.heedsCancel task →
    s.unaware.turn setup task = some s' →
    FeedRun setup (s'.cancelling s.crew.cancelled) (moves ++ s.unaware.moved setup s' task)
      (polls ++ s.unaware.heard setup task) called
  | around {s : EventStream σ τ} {moves : List StreamMove} {polls : List FeedPoll} {called : Cancellations}
    (host : Traced σ) (now : Nat) (tokens : Cancellations) : FeedRun setup s moves polls called →
    FeedRun setup (s.around host now tokens) moves polls (tokens ++ called)

variable {setup : StreamSetup σ τ} {s s' : EventStream σ τ} {moves : List StreamMove}

theorem FeedRun.streamRun {polls : List FeedPoll} {called : Cancellations} (run : FeedRun setup s moves polls called) :
    StreamRun setup s moves := by
  induction run with
  | start host origin cancelled => exact .start host origin cancelled
  | turn task _ h ih => exact ih.turn task h
  | unaware task _ hheeds h ih => exact ih.unaware task hheeds h
  | around host now tokens _ ih => exact ih.around host now tokens

/-- Whatever happens to a stream, its feed shows something meanwhile. -/
theorem StreamRun.feedRun (run : StreamRun setup s moves) : ∃ polls called, FeedRun setup s moves polls called := by
  induction run with
  | start host origin cancelled => exact ⟨_, _, .start host origin cancelled⟩
  | turn task _ h ih =>
    obtain ⟨_, _, feedRun⟩ := ih
    exact ⟨_, _, feedRun.turn task h⟩
  | unaware task _ hheeds h ih =>
    obtain ⟨_, _, feedRun⟩ := ih
    exact ⟨_, _, feedRun.unaware task hheeds h⟩
  | around host now tokens _ ih =>
    obtain ⟨_, _, feedRun⟩ := ih
    exact ⟨_, _, feedRun.around host now tokens⟩

/-- Where a forwarder stands: what the feed has shown, and what was sent for it. Only if it is halted may an event
be lost, the one that it had in hand. -/
inductive Standing (halted : Prop) : Option Forwarder → List FeedPoll → List Event → Prop where
  | unborn : Standing halted none [] []
  | waiting {feed : List RuntimeEvent} {records : List Event} : List.Forall₂ RuntimeEvent.Renders feed records →
    Standing halted (some .waiting) (feed.map .event) records
  | working {feed : List RuntimeEvent} {records : List Event} {e : RuntimeEvent} {f : Forwarder} :
    List.Forall₂ RuntimeEvent.Renders feed records → f.WorksFor e →
    Standing halted (some f) ((feed ++ [e]).map .event) records
  | ended {feed : List RuntimeEvent} {records : List Event} {f : Option Forwarder} :
    List.Forall₂ RuntimeEvent.Renders feed records → f = some (.done (.ok ())) ∨ f = none →
    Standing halted f (feed.map .event ++ [.ended]) records
  | failed {feed : List RuntimeEvent} {records : List Event} {fault : RuntimeFault} :
    List.Forall₂ RuntimeEvent.Renders feed records →
    Standing halted (some (.done (.error fault))) (feed.map .event ++ [.failed fault]) records
  | idle {feed : List RuntimeEvent} {records : List Event} {f : Option Forwarder} :
    List.Forall₂ RuntimeEvent.Renders feed records → f = some (.done (.ok ())) ∨ f = none → halted →
    Standing halted f (feed.map .event) records
  | lost {feed : List RuntimeEvent} {records : List Event} {e : RuntimeEvent} {f : Option Forwarder} :
    List.Forall₂ RuntimeEvent.Renders feed records → f = some (.done (.ok ())) ∨ f = none → halted →
    Standing halted f ((feed ++ [e]).map .event) records

namespace Standing

variable {halted later : Prop} {f : Option Forwarder} {polls : List FeedPoll} {records : List Event}

theorem mono (h : Standing halted f polls records) (hlater : halted → later) : Standing later f polls records := by
  cases h with
  | unborn => exact .unborn
  | waiting hall => exact .waiting hall
  | working hall hworks => exact .working hall hworks
  | ended hall hf => exact .ended hall hf
  | failed hall => exact .failed hall
  | idle hall hf hhalted => exact .idle hall hf (hlater hhalted)
  | lost hall hf hhalted => exact .lost hall hf (hlater hhalted)

/-- The end of a forwarder is noted. -/
theorem joined (h : Standing halted (some (.done (.ok ()))) polls records) : Standing halted none polls records := by
  cases h with
  | working _ hworks => cases hworks
  | ended hall => exact .ended hall (.inr rfl)
  | idle hall _ hhalted => exact .idle hall (.inr rfl) hhalted
  | lost hall _ hhalted => exact .lost hall (.inr rfl) hhalted

theorem launched (h : Standing halted none [] records) : Standing halted (some .waiting) [] records := by
  obtain rfl : records = [] := by
    generalize hpolls : ([] : List FeedPoll) = polls at h
    cases h with
    | unborn => rfl
    | ended | lost => simp at hpolls
    | idle hall =>
      obtain rfl := List.map_eq_nil_iff.mp hpolls.symm
      cases hall
      rfl
  exact .waiting .nil

theorem of_waiting (h : Standing halted (some .waiting) polls records) :
    ∃ feed : List RuntimeEvent, polls = feed.map .event ∧ List.Forall₂ RuntimeEvent.Renders feed records := by
  cases h with
  | waiting hall => exact ⟨_, rfl, hall⟩
  | working _ hworks => cases hworks
  | ended _ hf | idle _ hf | lost _ hf => simp at hf

theorem of_busy {f : Forwarder} (h : Standing halted (some f) polls records) (hbusy : f ≠ .waiting)
    (hgoes : ∀ result, f ≠ .done result) : ∃ (feed : List RuntimeEvent) (e : RuntimeEvent),
      polls = (feed ++ [e]).map .event ∧ List.Forall₂ RuntimeEvent.Renders feed records ∧ f.WorksFor e := by
  cases h with
  | waiting => exact absurd rfl hbusy
  | working hall hworks => exact ⟨_, _, rfl, hall, hworks⟩
  | failed => exact absurd rfl (hgoes _)
  | ended _ hf | idle _ hf | lost _ hf =>
    rcases hf with hf | hf
    · exact absurd (Option.some.inj hf) (hgoes _)
    · cases hf

end Standing

namespace EventStream

theorem forwarded_entries (s s' : EventStream σ τ) (sender : Sender) : forwarded (s.entries s' sender) =
    if sender = .forwarder then s'.crew.channel.queue.drop s.crew.channel.queue.length else [] := by
  have hsendings : sendings (s.entries s' sender) =
      (s'.crew.channel.queue.drop s.crew.channel.queue.length).map fun event => (sender, event) := by
    rw [sendings, entries, List.filterMap_map, ← List.filterMap_eq_map]
    rfl
  rw [forwarded, hsendings, List.filter_map]
  split
  next heq => simp [Function.comp_def, heq]
  next hne => simp [Function.comp_def, hne]

theorem forwarded_moved (setup : StreamSetup σ τ) (s s' : EventStream σ τ) :
    forwarded (s.moved setup s' .forwarder) = s'.crew.channel.queue.drop s.crew.channel.queue.length := by
  rw [moved, forwarded_append, forwarded_entries, if_pos rfl]
  cases s.taken? setup <;> rfl

theorem forwarded_receiver (setup : StreamSetup σ τ) (s s' : EventStream σ τ) :
    forwarded (s.moved setup s' .receiver) = [] := by
  have hsilent : sendings (s.moved setup s' .receiver) = [] := by
    refine List.filterMap_eq_nil_iff.mpr fun move hmem => ?_
    obtain ⟨event, out, rfl⟩ := mem_moved_receiver hmem
    rfl
  rw [forwarded, hsilent]
  rfl

theorem isCancelled_cancelling {token : Token} (rest : Cancellations) (h : s.crew.isCancelled token) :
    (s.cancelling rest).crew.isCancelled token :=
  (Cancellations.covers_append _ _ _).trans (Bool.or_eq_true_iff.mpr (.inl h))

theorem heard_of_ne {task : StreamTask} (h : task ≠ .forwarder) : s.heard setup task = [] := by
  cases task with
  | forwarder => exact absurd rfl h
  | announcer | watcher | sampler | receiver | joiner | main => rfl

theorem heard_of_waiting (hf : s.forwarder = some .waiting) (hlive : s.crew.isCancelled s.crew.token = false)
    {host : Traced σ} {poll : FeedPoll} (hobserve : s.crew.host.observe setup.runtime.nextEvent = (host, poll)) :
    s.heard setup .forwarder = [poll] := by
  have hpoll : (setup.runtime.nextEvent s.crew.host.world).2 = poll := congrArg Prod.snd hobserve
  simp [heard, hf, hlive, hpoll]

theorem heard_of_busy {f : Forwarder} (hf : s.forwarder = some f) (hbusy : f ≠ .waiting) :
    s.heard setup .forwarder = [] := by
  unfold heard
  rw [hf]
  cases f with
  | waiting => exact absurd rfl hbusy
  | dismissing | asking | sending | done => rfl

/-- What one turn of the forwarder makes of where it stands. The rest of what is cancelled is out of its sight if it
sees something else first. -/
theorem standing_turn {rest : Cancellations} {polls : List FeedPoll}
    (h : Standing ((s.cancelling rest).crew.isCancelled s.crew.token) s.forwarder polls (forwarded moves))
    (hopened : (s.cancelling rest).crew.isCancelled s.crew.token = false → s.crew.channel.isOpen)
    (hturn : s.turn setup .forwarder = some s') :
    Standing ((s'.cancelling rest).crew.isCancelled s'.crew.token) s'.forwarder
      (polls ++ s.heard setup .forwarder) (forwarded (moves ++ s.moved setup s' .forwarder)) := by
  obtain ⟨f, hf, hturn⟩ := Option.bind_eq_some_iff.mp hturn
  obtain ⟨⟨crew, f'⟩, hstep, heq⟩ := Option.bind_eq_some_iff.mp hturn
  obtain rfl := Option.some.inj heq
  rw [forwarded_append, forwarded_moved]
  rw [hf] at h
  cases Forwarder.step_turn hstep with
  | cancelled hc =>
    have hheard : s.heard setup .forwarder = [] := by simp [heard, hf, hc]
    obtain ⟨feed, rfl, hall⟩ := h.of_waiting
    rw [hheard, List.append_nil, List.drop_length, List.append_nil]
    exact .idle hall (.inl rfl) (isCancelled_cancelling rest hc)
  | ended hlive hobserve =>
    obtain ⟨feed, rfl, hall⟩ := h.of_waiting
    rw [heard_of_waiting hf hlive hobserve, List.drop_length, List.append_nil]
    exact .ended hall (.inl rfl)
  | failed hlive hobserve =>
    obtain ⟨feed, rfl, hall⟩ := h.of_waiting
    rw [heard_of_waiting hf hlive hobserve, List.drop_length, List.append_nil]
    exact .failed hall
  | @met _ e hlive hobserve =>
    obtain ⟨feed, rfl, hall⟩ := h.of_waiting
    have hpolls : feed.map FeedPoll.event ++ [.event e] = (feed ++ [e]).map .event := by
      rw [List.map_append, List.map_singleton]
    rw [heard_of_waiting hf hlive hobserve, hpolls, Forwarder.meet_channel, List.drop_length, List.append_nil]
    exact .working hall (Forwarder.worksFor_meet _ _ _)
  | dismissed hdone =>
    obtain ⟨feed, e, rfl, hall, hworks⟩ := h.of_busy nofun nofun
    cases hworks
    rw [heard_of_busy hf nofun, List.append_nil, Forwarder.enrich_channel, List.drop_length, List.append_nil]
    exact .working hall (Forwarder.worksFor_enrich _ _ _)
  | answered hobserve =>
    obtain ⟨feed, e, rfl, hall, hworks⟩ := h.of_busy nofun nofun
    cases hworks with
    | asking _ _ hcontainer =>
      rw [heard_of_busy hf nofun, List.append_nil, List.drop_length, List.append_nil]
      exact .working hall (.sending (RuntimeEvent.renders_fill hcontainer _ _))
  | sent ho =>
    obtain ⟨feed, e, rfl, hall, hworks⟩ := h.of_busy nofun nofun
    obtain ⟨channel, rfl, hqueue, -⟩ := Hub.offer_sent ho
    cases hworks with
    | sending hrenders =>
      rw [heard_of_busy hf nofun, List.append_nil, hqueue, List.drop_left]
      exact .waiting (List.rel_append hall (.cons hrenders .nil))
  | blocked ho =>
    obtain ⟨feed, e, rfl, hall, hworks⟩ := h.of_busy nofun nofun
    obtain ⟨channel, rfl, hqueue, -⟩ := Hub.offer_unsent ho nofun
    rw [heard_of_busy hf nofun, List.append_nil, hqueue, List.drop_length, List.append_nil]
    exact .working hall hworks
  | refused ho =>
    obtain ⟨feed, e, rfl, hall, hworks⟩ := h.of_busy nofun nofun
    have hcancelled : (s.cancelling rest).crew.isCancelled s.crew.token := by
      rcases Hub.offer_refused ho with hc | hclosed
      · exact isCancelled_cancelling rest hc
      · refine (Bool.not_eq_false _).mp fun hlive => ?_
        cases (hopened hlive).symm.trans hclosed
    obtain ⟨channel, rfl, hqueue, -⟩ := Hub.offer_unsent ho nofun
    rw [heard_of_busy hf nofun, List.append_nil, hqueue, List.drop_length, List.append_nil]
    exact .lost hall (.inl rfl) hcancelled

end EventStream

end LabStream
