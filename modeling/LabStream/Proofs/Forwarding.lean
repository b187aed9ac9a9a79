import LabStream.Proofs.FeedRun
import LabStream.Proofs.StreamPlay

namespace LabStream

variable {σ τ : Type}

namespace EventStream

/-- What a stream has met before it has got where it is: it does not go without a cancellation from outside, nor
does it end with a fault that nobody has shown to it. -/
def Reached (s : EventStream σ τ) (polls : List FeedPoll) (called : Cancellations) : Prop :=
  match s.phase with
  | .listing _ => s.forwarder = none ∧ polls = []
  | .unloading .. | .running | .ended (.error (.traffic _)) => True
  | .dismissing _ | .closing _ | .ended (.ok ()) => called.covers s.crew.token
  | .ended (.error (.runtime fault)) => s.forwarder = some (.done (.error fault)) ∨ s.forwarder = none ∧ polls = []
  | .ended (.error _) => s.forwarder = none ∧ polls = []

/-- What holds of a stream with what the feed has shown to it. -/
structure Fed (s : EventStream σ τ) (moves : List StreamMove) (polls : List FeedPoll) (called : Cancellations) :
    Prop where
  standing : Standing (s.crew.isCancelled s.crew.token) s.forwarder polls (forwarded moves)
  cancelled : s.result? = none → s.crew.isCancelled s.crew.token → called.covers s.crew.token
  reached : s.Reached polls called

variable {setup : StreamSetup σ τ} {s s' : EventStream σ τ} {moves moves' : List StreamMove} {polls : List FeedPoll}
  {called : Cancellations}

namespace Fed

theorem congr (h : s.Fed moves polls called) (hforwarder : s'.forwarder = s.forwarder) (hphase : s'.phase = s.phase)
    (htoken : s'.crew.token = s.crew.token) (hcancelled : s'.crew.cancelled = s.crew.cancelled)
    (hsent : forwarded moves' = forwarded moves) : s'.Fed moves' polls called := by
  have hroot : s'.crew.isCancelled s'.crew.token = s.crew.isCancelled s.crew.token := by
    rw [Hub.isCancelled, Hub.isCancelled, htoken, hcancelled]
  refine ⟨?_, ?_, ?_⟩
  · rw [hsent, hroot, hforwarder]
    exact h.standing
  · rw [result?, hphase, hroot, htoken]
    exact h.cancelled
  · rw [Reached, hphase, hforwarder, htoken]
    exact h.reached

theorem finish (h : s.Fed moves polls called) {result : Except StreamFault Unit}
    (hreached : (s.finish result).Reached polls called) : (s.finish result).Fed moves polls called :=
  ⟨h.standing.mono fun _ => isCancelled_finish s result, nofun, hreached⟩

theorem around (h : s.Fed moves polls called) (host : Traced σ) (now : Nat) (tokens : Cancellations) :
    (s.around host now tokens).Fed moves polls (tokens ++ called) := by
  have hmore : called.covers s.crew.token → Cancellations.covers (tokens ++ called) s.crew.token :=
    Cancellations.covers_mono (List.subset_append_right _ _)
  refine ⟨h.standing.mono (Cancellations.covers_mono (List.subset_append_right _ _)), fun hgoes hcancelled => ?_, ?_⟩
  · rw [EventStream.around, Hub.isCancelled, Cancellations.covers_append] at hcancelled
    rcases Bool.or_eq_true_iff.mp hcancelled with hnew | hold
    · exact Cancellations.covers_mono (List.subset_append_left _ _) hnew
    · exact hmore (h.cancelled hgoes hold)
  · have hreached := h.reached
    unfold Reached at hreached ⊢
    dsimp only [EventStream.around]
    split <;> simp_all

/-- A task that is neither the forwarder nor the stream itself. -/
theorem beside {rest : Cancellations} (h : (s.cancelling rest).Fed moves polls called) {task : StreamTask}
    (hturn : s.turn setup task = some s') (hforwarder : task ≠ .forwarder) (hjoiner : task ≠ .joiner)
    (hmain : task ≠ .main) :
    (s'.cancelling rest).Fed (moves ++ s.moved setup s' task) (polls ++ s.heard setup task) called := by
  have congr (hforwarder : s'.forwarder = s.forwarder) (hphase : s'.phase = s.phase)
      (htoken : s'.crew.token = s.crew.token) (hcancelled : s'.crew.cancelled = s.crew.cancelled)
      (hsilent : forwarded (s.moved setup s' task) = []) :
      (s'.cancelling rest).Fed (moves ++ s.moved setup s' task) polls called :=
    h.congr hforwarder hphase htoken (congrArg (· ++ rest) hcancelled)
      (by rw [forwarded_append, hsilent, List.append_nil])
  rw [heard_of_ne hforwarder, List.append_nil]
  cases task with
  | forwarder => exact absurd rfl hforwarder
  | joiner => exact absurd rfl hjoiner
  | main => exact absurd rfl hmain
  | announcer =>
    obtain ⟨⟨hub, announcer⟩, hstep, heq⟩ := Option.bind_eq_some_iff.mp hturn
    obtain rfl := Option.some.inj heq
    have hhub : hub.token = s.crew.token ∧ hub.cancelled = s.crew.cancelled := by
      cases Announcer.step_turn hstep with
      | begun => exact ⟨rfl, rfl⟩
      | sent _ ho | blocked _ ho | refused _ ho =>
        obtain ⟨channel, rfl, -⟩ := Hub.offer_eq_some ho
        exact ⟨rfl, rfl⟩
    exact congr rfl rfl hhub.1 hhub.2 (forwarded_entries _ _ _)
  | watcher number =>
    obtain ⟨w, hw, hturn⟩ := Option.bind_eq_some_iff.mp hturn
    obtain ⟨crew, hs, heq⟩ := Option.bind_eq_some_iff.mp hturn
    obtain rfl := Option.some.inj heq
    obtain ⟨hub, w', hstep, hstepped⟩ := Crew.stepWatcher_turn hs
    obtain ⟨htoken, hcancelled⟩ := hstep.tokens
    rw [← hstepped.hub] at htoken hcancelled
    refine congr rfl rfl htoken hcancelled ?_
    simp only [moved, hw]
    exact forwarded_entries _ _ _
  | sampler =>
    obtain ⟨sampler, hsampler, hturn⟩ := Option.bind_eq_some_iff.mp hturn
    obtain ⟨b, hb, hturn⟩ := Option.bind_eq_some_iff.mp hturn
    obtain ⟨⟨hub, sampler'⟩, hstep, heq⟩ := Option.bind_eq_some_iff.mp hturn
    obtain rfl := Option.some.inj heq
    obtain ⟨htoken, hcancelled⟩ := (Sampler.step_turn hstep).tokens
    exact congr rfl rfl htoken hcancelled (forwarded_entries _ _ _)
  | receiver =>
    obtain ⟨-, hturn⟩ := Option.ite_none_right_eq_some.mp hturn
    obtain ⟨host, channel, event, rfl, -⟩ := receive_eq hturn
    exact congr rfl rfl rfl rfl (forwarded_receiver _ _ _)

theorem forward {rest : Cancellations} (h : (s.cancelling rest).Fed moves polls called)
    (hopened : (s.cancelling rest).crew.isCancelled s.crew.token = false → s.crew.channel.isOpen)
    (hturn : s.turn setup .forwarder = some s') :
    (s'.cancelling rest).Fed (moves ++ s.moved setup s' .forwarder) (polls ++ s.heard setup .forwarder) called := by
  have hstanding := standing_turn h.standing hopened hturn
  have htoken : s'.crew.token = s.crew.token := (turned hturn).path.token
  obtain ⟨f, hf, hturn⟩ := Option.bind_eq_some_iff.mp hturn
  obtain ⟨⟨crew, f'⟩, hstep, heq⟩ := Option.bind_eq_some_iff.mp hturn
  obtain rfl := Option.some.inj heq
  have hroot : Cancellations.covers (crew.cancelled ++ rest) crew.token =
      (s.cancelling rest).crew.isCancelled s.crew.token := by
    cases Forwarder.step_turn hstep with
    | cancelled | ended | failed | answered => rfl
    | sent ho | blocked ho | refused ho =>
      obtain ⟨channel, rfl, -⟩ := Hub.offer_eq_some ho
      rfl
    | @met host e =>
      obtain ⟨host', hkeeps⟩ := Forwarder.meet_keeps setup.runtime { s.crew with host } e
      rw [hkeeps]
      exact isCancelled_obey { s.crew with host } e rest
    | @dismissed _ e =>
      obtain ⟨host, hkeeps⟩ := Forwarder.enrich_keeps setup.runtime s.crew e
      rw [hkeeps]
      rfl
  have hgoes : ∀ result, f ≠ .done result := by
    rintro result rfl
    cases hstep
  refine ⟨hstanding, fun hends hcancelled => ?_, ?_⟩
  · have hcalled := h.cancelled hends (hroot.symm.trans hcancelled)
    exact htoken ▸ hcalled
  · have hreached := h.reached
    have hsome : (s.cancelling rest).forwarder = some f := hf
    unfold Reached at hreached ⊢
    dsimp only [cancelling] at htoken hreached ⊢
    split <;> simp_all

theorem join (h : s.Fed moves polls called) (hrunning : s.phase = .running) (hturn : JoinTurn s s') :
    s'.Fed moves polls called := by
  cases hturn with
  | feedFailed hf => exact h.finish (.inl hf)
  | feedEnded hf =>
    have hstanding := h.standing
    rw [hf] at hstanding
    exact ⟨hstanding.joined, h.cancelled, by simp [Reached, hrunning]⟩
  | samplingFailed =>
    have hseen : Fed { s with samplerSeen := true } moves polls called := h.congr rfl rfl rfl rfl rfl
    exact hseen.finish trivial
  | samplingEnded => exact h.congr rfl rfl rfl rfl rfl

/-- Before the listing nothing is heard of the feed. -/
theorem of_listing (h : s.Fed moves polls called) {answerAt : Nat} (hlisting : s.phase = .listing answerAt) :
    s.forwarder = none ∧ polls = [] := by
  simpa only [Reached, hlisting] using h.reached

theorem launch (h : s.Fed moves polls called) {answerAt : Nat} (hlisting : s.phase = .listing answerAt)
    (host : Traced σ) (containers : List Container) :
    (launch setup containers { s with crew.host := host }).Fed moves polls called := by
  have htoken : (startWatchers { s.crew with host } containers).token = s.crew.token := by rw [startWatchers_hub]
  have hcancelled : (startWatchers { s.crew with host } containers).cancelled = s.crew.cancelled := by
    rw [startWatchers_hub]
  obtain ⟨host', announcer, -, ⟨fault, heq⟩ | ⟨phase, sampler, heq, hphase, -⟩⟩ :=
    launch_cases setup containers { s with crew.host := host }
  · rw [heq]
    refine Fed.finish ?_ (.inr (h.of_listing hlisting))
    exact h.congr rfl rfl htoken hcancelled rfl
  · obtain ⟨hnone, rfl⟩ := h.of_listing hlisting
    have hroot : (startWatchers { s.crew with host } containers).isCancelled
        (startWatchers { s.crew with host } containers).token = s.crew.isCancelled s.crew.token := by
      rw [Hub.isCancelled, Hub.isCancelled, htoken, hcancelled]
    have hstanding := h.standing
    rw [hnone] at hstanding
    rw [heq]
    refine ⟨hstanding.launched.mono fun hc => hroot.trans hc, fun _ hc => ?_, ?_⟩
    · have hcalled := h.cancelled (by rw [result?, hlisting]) (hroot.symm.trans hc)
      rwa [← htoken] at hcalled
    · rcases hphase with rfl | ⟨_, _, rfl⟩ <;> trivial

theorem main (h : s.Fed moves polls called) (hturn : MainTurn setup s s') : s'.Fed moves polls called := by
  cases hturn with
  | unlisted host fault hlisting =>
    have hseen : Fed { s with crew.host := host } moves polls called := h.congr rfl rfl rfl rfl rfl
    exact hseen.finish (.inr (h.of_listing hlisting))
  | launched hlisting => exact h.launch hlisting _ _
  | unloading host hp =>
    exact ⟨h.standing, fun _ => h.cancelled (by rw [result?, hp]), trivial⟩
  | unloaded host hp =>
    have hseen : Fed { s with crew.host := host } moves polls called := h.congr rfl rfl rfl rfl rfl
    exact hseen.finish trivial
  | dismissed hp hcancelled =>
    have hcalled := h.cancelled (by rw [result?, hp]) hcancelled
    refine ⟨h.standing.mono ?_, fun _ _ => hcalled, hcalled⟩
    exact Cancellations.covers_mono fun _ hmem => Crew.mem_dismissAll.mpr (.inl hmem)
  | closing hp =>
    have hcalled : called.covers s.crew.token := by simpa only [Reached, hp] using h.reached
    exact ⟨h.standing, fun _ _ => hcalled, hcalled⟩
  | ended hp =>
    have hcalled : called.covers s.crew.token := by simpa only [Reached, hp] using h.reached
    exact h.finish hcalled

theorem start (setup : StreamSetup σ τ) (host : Traced σ) (origin : Int) (cancelled : Cancellations) :
    (EventStream.start setup host origin cancelled).Fed [] [] cancelled := by
  rcases start_eq setup host origin cancelled with ⟨fault, -, heq⟩ | ⟨host', answerAt, heq⟩
  · rw [heq]
    refine ⟨.unborn, nofun, ?_⟩
    cases fault with
    | traffic => trivial
    | runtime => exact .inr ⟨rfl, rfl⟩
    | unsupportedFormat | runtimeNotInitialized | noBackend | channelTooLarge => exact ⟨rfl, rfl⟩
  · rw [heq]
    exact ⟨.unborn, fun _ => id, rfl, rfl⟩

end Fed

end EventStream

namespace FeedRun

open EventStream

variable {setup : StreamSetup σ τ} {s : EventStream σ τ} {moves : List StreamMove} {polls : List FeedPoll}
  {called : Cancellations}

theorem fed (run : FeedRun setup s moves polls called) : s.Fed moves polls called := by
  induction run with
  | start host origin cancelled => exact .start setup host origin cancelled
  | @turn s s' _ _ _ task run h ih =>
    have hnil := s.cancelling_nil
    cases task with
    | announcer | watcher | sampler | receiver =>
      have hfed := Fed.beside (hnil.symm ▸ ih) h nofun nofun nofun
      rwa [s'.cancelling_nil] at hfed
    | forwarder =>
      have hfed := Fed.forward (hnil.symm ▸ ih) (hnil.symm ▸ run.streamRun.opened) h
      rwa [s'.cancelling_nil] at hfed
    | joiner =>
      obtain ⟨hrunning, hjoin⟩ := turn_joiner h
      have hfed := ih.join hrunning hjoin
      simpa [moved, heard] using hfed
    | main => simpa [moved, heard] using ih.main (turn_main h)
  | @unaware s s' _ _ _ task run hheeds h ih =>
    have hunaware : (s.unaware.cancelling s.crew.cancelled).Fed _ _ _ := ih
    cases task with
    | announcer | receiver | joiner | main => cases hheeds
    | watcher | sampler => exact hunaware.beside h nofun nofun nofun
    | forwarder => exact hunaware.forward run.streamRun.opened h
  | around host now tokens _ ih => exact ih.around host now tokens

end FeedRun

namespace Standing

variable {halted : Prop} {f : Option Forwarder} {polls : List FeedPoll} {records : List Event}

theorem of_ended (h : Standing halted f polls records) (hmem : .ended ∈ polls) :
    f = some (.done (.ok ())) ∨ f = none := by
  cases h with
  | ended _ hf | idle _ hf | lost _ hf => exact hf
  | unborn | waiting | working | failed => simp at hmem

theorem of_failed {fault : RuntimeFault} (h : Standing halted f polls records) (hmem : .failed fault ∈ polls) :
    f = some (.done (.error fault)) := by
  cases h with
  | failed =>
    obtain rfl : fault = _ := by simpa using hmem
    rfl
  | unborn | waiting | working | ended | idle | lost => simp at hmem

end Standing

/-- How a feed has been passed on: its events have records, one for one, but for the last event if the forwarder is
still at work on it or the stream is cancelled, and what has come after them is the end of the feed. -/
structure Relayed (s : EventStream σ τ) (polls : List FeedPoll) (records : List Event) (feed : List RuntimeEvent)
    (rest : Option RuntimeEvent) (ending : Option FeedPoll) : Prop where
  shown : polls = (feed ++ rest.toList).map .event ++ ending.toList
  rendered : List.Forall₂ RuntimeEvent.Renders feed records
  pending {e : RuntimeEvent} : rest = some e →
    (∃ f, s.forwarder = some f ∧ f.WorksFor e) ∨ s.crew.isCancelled s.crew.token
  ended {poll : FeedPoll} : ending = some poll → rest = none ∧ (poll = .ended ∨ ∃ fault, poll = .failed fault)

namespace EventStream.Fed

variable {setup : StreamSetup σ τ} {s : EventStream σ τ} {moves : List StreamMove} {polls : List FeedPoll}
  {called : Cancellations} {result : Except StreamFault Unit}

theorem relayed (h : s.Fed moves polls called) :
    ∃ feed rest ending, Relayed s polls (forwarded moves) feed rest ending := by
  have hstanding := h.standing
  generalize hf : s.forwarder = f at hstanding
  generalize forwarded moves = records at hstanding ⊢
  cases hstanding with
  | unborn => exact ⟨[], none, none, rfl, .nil, nofun, nofun⟩
  | @waiting feed _ hall | @idle feed _ _ hall =>
    exact ⟨feed, none, none, by simp, hall, nofun, nofun⟩
  | @working feed _ e f hall hworks =>
    refine ⟨feed, some e, none, by simp, hall, fun heq => ?_, nofun⟩
    obtain rfl := Option.some.inj heq
    exact .inl ⟨f, hf, hworks⟩
  | @lost feed _ e _ hall _ hcancelled => exact ⟨feed, some e, none, by simp, hall, fun _ => .inr hcancelled, nofun⟩
  | @ended feed _ _ hall =>
    refine ⟨feed, none, some .ended, by simp, hall, nofun, fun heq => ⟨rfl, .inl ?_⟩⟩
    exact (Option.some.inj heq).symm
  | @failed feed _ fault hall =>
    refine ⟨feed, none, some (.failed fault), by simp, hall, nofun, fun heq => ⟨rfl, .inr ⟨fault, ?_⟩⟩⟩
    exact (Option.some.inj heq).symm

/-- What a stream ends with, after an end of its feed or a fault of it. -/
theorem result_cases (h : s.Fed moves polls called) (hheard : polls ≠ []) (hresult : s.result? = some result) :
    result = .ok () ∧ called.covers s.crew.token ∨ (∃ fault, result = .error (.traffic fault)) ∨
      ∃ fault, result = .error (.runtime fault) ∧ s.forwarder = some (.done (.error fault)) := by
  have hphase : s.phase = .ended result := by
    unfold result? at hresult
    split at hresult
    next heq => rw [heq, Option.some.inj hresult]
    next => cases hresult
  have hreached := h.reached
  rw [Reached, hphase] at hreached
  rcases result with (_ | _ | _ | _ | fault | fault) | _
  · exact absurd hreached.2 hheard
  · exact absurd hreached.2 hheard
  · exact absurd hreached.2 hheard
  · exact absurd hreached.2 hheard
  · rcases hreached with hfailed | ⟨-, hnone⟩
    · exact .inr (.inr ⟨fault, rfl, hfailed⟩)
    · exact absurd hnone hheard
  · exact .inr (.inl ⟨fault, rfl⟩)
  · exact .inl ⟨rfl, hreached⟩

end EventStream.Fed

/-- An event that is received, with its sender and what has come out when it was written. -/
structure Arrival where
  sender : Sender
  event : Event
  out : List Event

namespace Arrival

def sending (a : Arrival) : Sender × Event := (a.sender, a.event)

def receipt (a : Arrival) : Event × List Event := (a.event, a.out)

theorem exists_of_receipts {sent : List (Sender × Event)} {received : List (Event × List Event)}
    (h : received.map (·.1) = sent.map (·.2)) :
    ∃ arrivals : List Arrival, arrivals.map sending = sent ∧ arrivals.map receipt = received := by
  induction sent generalizing received with
  | nil => exact ⟨[], rfl, (List.map_eq_nil_iff.mp h).symm⟩
  | cons first sent ih =>
    obtain ⟨⟨event, out⟩, rest, rfl, rfl, hrest⟩ := List.map_eq_cons_iff.mp h
    obtain ⟨arrivals, rfl, rfl⟩ := ih hrest
    exact ⟨⟨first.1, first.2, out⟩ :: arrivals, rfl, rfl⟩

end Arrival

section

variable {sender : Sender} {arrivals : List Arrival}

/-- What has come out of the records of a sender. -/
def writtenOf (sender : Sender) (arrivals : List Arrival) : List Event :=
  (arrivals.filter (·.sender = sender)).flatMap (·.out)

theorem map_event_filter : (arrivals.filter (·.sender = sender)).map (·.event) =
    ((arrivals.map Arrival.sending).filter (·.1 = sender)).map (·.2) := by
  rw [List.filter_map, List.map_map]
  rfl

theorem writtenOf_eq (h : ∀ a ∈ arrivals, a.out = [a.event]) :
    writtenOf sender arrivals = ((arrivals.map Arrival.sending).filter (·.1 = sender)).map (·.2) := by
  rw [← map_event_filter, writtenOf, List.map_eq_flatMap]
  exact List.flatMap_congr fun a ha => h a (List.mem_of_mem_filter ha)

/-- What is written whole or not at all keeps its order. -/
theorem writtenOf_sublist (h : ∀ a ∈ arrivals, a.out = [] ∨ a.out = [a.event]) :
    (writtenOf sender arrivals).Sublist (((arrivals.map Arrival.sending).filter (·.1 = sender)).map (·.2)) := by
  have hsent : ∀ a ∈ arrivals.filter (·.sender = sender), a.out = [] ∨ a.out = [a.event] := fun a ha =>
    h a (List.mem_of_mem_filter ha)
  rw [← map_event_filter, writtenOf]
  generalize arrivals.filter (·.sender = sender) = own at hsent
  induction own with
  | nil => exact .slnil
  | cons a own ih =>
    obtain ⟨ha, hown⟩ := List.forall_mem_cons.mp hsent
    rw [List.flatMap_cons, List.map_cons]
    rcases ha with hnone | hout
    · rw [hnone]
      exact (ih hown).cons _
    · rw [hout]
      exact (ih hown).cons_cons _

end

/-- How the forwarder's records come out: each is handed to the writer once, in the order in which they were sent. As
long as every record comes out when it is written, these are the records that were sent, from the first one on; where
a write that fails leaves nothing, only what could not be written is missing. -/
structure Delivered (setup : StreamSetup σ τ) (moves : List StreamMove) (arrivals : List Arrival) : Prop where
  sent : arrivals.map Arrival.sending <+: sendings moves
  received : arrivals.map Arrival.receipt = receipts moves
  written {a : Arrival} : a ∈ arrivals → ∃ world, a.out = setup.writer.leaves setup.format a.event world
  complete {n : Nat} : (∀ a ∈ arrivals.take n, a.out = [a.event]) →
    writtenOf .forwarder (arrivals.take n) <+: forwarded moves
  ordered : (∀ a ∈ arrivals, a.out = [] ∨ a.out = [a.event]) →
    (writtenOf .forwarder arrivals).Sublist (forwarded moves)

theorem StreamRun.delivered {setup : StreamSetup σ τ} {s : EventStream σ τ} {moves : List StreamMove}
    (run : StreamRun setup s moves) : ∃ arrivals, Delivered setup moves arrivals := by
  have hprefix := run.receipts_prefix
  rw [← map_snd_sendings] at hprefix
  obtain ⟨sent, hsent, hevents⟩ := List.prefix_map_iff.mp hprefix
  obtain ⟨arrivals, rfl, hreceived⟩ := Arrival.exists_of_receipts hevents
  refine ⟨arrivals, hsent, hreceived, fun ha => ?_, fun {n} hout => ?_, fun hout => ?_⟩
  · exact run.written _ (hreceived ▸ List.mem_map_of_mem ha)
  · have hfirst : (arrivals.take n).map Arrival.sending <+: sendings moves :=
      ((List.take_prefix n arrivals).map _).trans hsent
    rw [writtenOf_eq hout]
    exact (hfirst.filter _).map _
  · exact (writtenOf_sublist hout).trans ((hsent.filter _).map _).sublist

/-- The feed of a stream is passed on one to one, and its records are written in that order. The end of the feed does
not end the stream; a fault of the feed does, unless it is cancelled or traffic cannot be counted. -/
theorem FeedRun.forwards_one_to_one {setup : StreamSetup σ τ} {s : EventStream σ τ} {moves : List StreamMove}
    {polls : List FeedPoll} {called : Cancellations} (run : FeedRun setup s moves polls called) :
    (∃ feed rest ending, Relayed s polls (forwarded moves) feed rest ending) ∧
    (∃ arrivals, Delivered setup moves arrivals) ∧
    (.ended ∈ polls → ∀ result, s.result? = some result →
      result = .ok () ∧ called.covers s.crew.token ∨ ∃ fault, result = .error (.traffic fault)) ∧
    ∀ fault, .failed fault ∈ polls →
      (s.isRunning → ∃ s', s.turn setup .joiner = some s' ∧ s'.result? = some (.error (.runtime fault))) ∧
      ∀ result, s.result? = some result →
        result = .error (.runtime fault) ∨
          result = .ok () ∧ called.covers s.crew.token ∨ ∃ fault, result = .error (.traffic fault) := by
  have fed := run.fed
  refine ⟨fed.relayed, run.streamRun.delivered, fun hended result hresult => ?_, fun fault hfailed =>
    ⟨fun hrunning => ?_, fun result hresult => ?_⟩⟩
  · rcases fed.result_cases (List.ne_nil_of_mem hended) hresult with hok | htraffic | ⟨fault, -, hf⟩
    · exact .inl hok
    · exact .inr htraffic
    · rcases fed.standing.of_ended hended with hdone | hnone
      · cases hf.symm.trans hdone
      · cases hf.symm.trans hnone
  · have hf := fed.standing.of_failed hfailed
    exact ⟨s.finish (.error (.runtime fault)), by simp [EventStream.turn, hrunning, EventStream.join, hf], rfl⟩
  · rcases fed.result_cases (List.ne_nil_of_mem hfailed) hresult with hok | htraffic | ⟨fault', rfl, hf⟩
    · exact .inr (.inl hok)
    · exact .inr (.inr htraffic)
    · cases hf.symm.trans (fed.standing.of_failed hfailed)
      exact .inl rfl

/-- A stream after the turns of some tasks, with what has happened and what the feed has shown in them; none if one
of the tasks has to wait. -/
def EventStream.perform (setup : StreamSetup σ τ) :
    List StreamTask → EventStream σ τ → Option (EventStream σ τ × List StreamMove × List FeedPoll)
  | [], s => some (s, [], [])
  | task :: tasks, s => do
    let s' ← s.turn setup task
    let (last, moves, polls) ← perform setup tasks s'
    return (last, s.moved setup s' task ++ moves, s.heard setup task ++ polls)

theorem FeedRun.perform {setup : StreamSetup σ τ} {s last : EventStream σ τ} {moves new : List StreamMove}
    {polls shown : List FeedPoll} {called : Cancellations} (run : FeedRun setup s moves polls called)
    {tasks : List StreamTask} (h : s.perform setup tasks = some (last, new, shown)) :
    FeedRun setup last (moves ++ new) (polls ++ shown) called := by
  induction tasks generalizing s moves polls new shown with
  | nil =>
    cases h
    simpa using run
  | cons task tasks ih =>
    obtain ⟨s', hturn, h⟩ := Option.bind_eq_some_iff.mp h
    obtain ⟨⟨_, _, _⟩, hrest, heq⟩ := Option.bind_eq_some_iff.mp h
    cases heq
    rw [← List.append_assoc, ← List.append_assoc]
    exact ih (run.turn task hturn) hrest

namespace ScriptedWorld

/-- A container with an address, and a feed that tells of a network and of it before it fails. Nothing can be written
at first. -/
def failing : ScriptedWorld :=
  { empty with
    containers := [{ Container.blank with
      id := "x"
      mgmtIpv4 := "10.0.0.2" }]
    filters := false
    feed := [.ok (.bare "network" "Connect" "n"), .ok (.bare "container" "Rename" "x"), .error (.refused 500 "gone")]
    sinkFails := true }

/-- A stream whose records can be written from now on. -/
def mended (s : EventStream ScriptedWorld String) : EventStream ScriptedWorld String :=
  s.around { s.crew.host with world.sinkFails := false } s.crew.now []

def networkRecord : Event := (RuntimeEvent.bare "network" "Connect" "n").toEvent ∅ (.ofNanos 0)

def renameRecord : Event :=
  (RuntimeEvent.bare "container" "Rename" "x").toEvent (Attributes.insertFilled ∅ "mgmt_ipv4" "10.0.0.2") (.ofNanos 0)

/-- The first record is received while nothing can be written, the second one later on. -/
theorem failing_run : ∃ s moves polls, FeedRun (.scripted .standard) s moves polls [] ∧
    polls = [.event (.bare "network" "Connect" "n"), .event (.bare "container" "Rename" "x"),
      .failed (.refused 500 "gone")] ∧
    sendings moves = [(.forwarder, networkRecord), (.forwarder, renameRecord)] ∧
    receipts moves = [(networkRecord, []), (renameRecord, [renameRecord])] ∧ s.isRunning := by
  let setup : StreamSetup ScriptedWorld String := .scripted .standard
  let s := EventStream.start setup (.start failing) 0 []
  let early : List StreamTask := [.main, .forwarder, .forwarder, .receiver]
  let late : List StreamTask := [.forwarder, .forwarder, .forwarder, .receiver, .forwarder]
  have hearly : (s.perform setup early).isSome := by decide +kernel
  have hlate : ∀ r ∈ s.perform setup early, ((mended r.1).perform setup late).isSome := by decide +kernel
  have hseen : ∀ r ∈ s.perform setup early, ∀ r' ∈ (mended r.1).perform setup late,
      r.2.2 ++ r'.2.2 = [.event (.bare "network" "Connect" "n"), .event (.bare "container" "Rename" "x"),
        .failed (.refused 500 "gone")] ∧
      sendings (r.2.1 ++ r'.2.1) = [(.forwarder, networkRecord), (.forwarder, renameRecord)] ∧
      receipts (r.2.1 ++ r'.2.1) = [(networkRecord, []), (renameRecord, [renameRecord])] ∧
      r'.1.isRunning := by decide +kernel
  obtain ⟨⟨mid, moves, polls⟩, hmid⟩ := Option.isSome_iff_exists.mp hearly
  obtain ⟨⟨last, more, shown⟩, hlast⟩ := Option.isSome_iff_exists.mp (hlate _ hmid)
  have run : FeedRun setup mid moves polls [] := (FeedRun.start (.start failing) 0 []).perform hmid
  exact ⟨last, _, _, (run.around _ _ []).perform hlast, hseen _ hmid _ hlast⟩

/-- Only the second one comes out. -/
theorem writtenOf_failing {moves : List StreamMove} {arrivals : List Arrival}
    (hsendings : sendings moves = [(.forwarder, networkRecord), (.forwarder, renameRecord)])
    (hreceipts : receipts moves = [(networkRecord, []), (renameRecord, [renameRecord])])
    (hsent : arrivals.map Arrival.sending <+: sendings moves)
    (hreceived : arrivals.map Arrival.receipt = receipts moves) : writtenOf .forwarder arrivals = [renameRecord] := by
  rw [hreceipts] at hreceived
  obtain ⟨a, rest, rfl, ha, hrest⟩ := List.map_eq_cons_iff.mp hreceived
  obtain ⟨b, rest, rfl, hb, hrest⟩ := List.map_eq_cons_iff.mp hrest
  obtain rfl := List.map_eq_nil_iff.mp hrest
  rw [hsendings] at hsent
  have hboth : [a, b].map Arrival.sending = [(.forwarder, networkRecord), (.forwarder, renameRecord)] :=
    hsent.eq_of_length rfl
  have hlost : a.out = [] := congrArg Prod.snd ha
  have hout : b.out = [renameRecord] := congrArg Prod.snd hb
  have hsender : b.sender = .forwarder := congrArg Prod.fst (List.cons.inj (List.cons.inj hboth).2).1
  by_cases hfirst : a.sender = .forwarder <;> simp [writtenOf, hlost, hout, hsender, hfirst]

/-- Both events have a record, that of the container with its address, of which the second one comes out, and then the
stream fails as its feed does. -/
theorem forwards_one_to_one_of_failing : ∃ s moves polls, FeedRun (.scripted .standard) s moves polls [] ∧
    Relayed s polls (forwarded moves) [.bare "network" "Connect" "n", .bare "container" "Rename" "x"] none
      (some (.failed (.refused 500 "gone"))) ∧
    (forwarded moves).map (·.attributes.valueOf "mgmt_ipv4") = ["", "10.0.0.2"] ∧
    (∃ arrivals, Delivered (.scripted .standard) moves arrivals ∧
      writtenOf .forwarder arrivals = (forwarded moves).drop 1) ∧
    ∃ s', s.turn (.scripted .standard) .joiner = some s' ∧
      s'.result? = some (.error (.runtime (.refused 500 "gone"))) := by
  obtain ⟨last, moves, polls, run, hpolls, hsendings, hreceipts, hrunning⟩ := failing_run
  obtain ⟨⟨feed, rest, ending, hrelayed⟩, ⟨arrivals, hdelivered⟩, -, hfails⟩ := run.forwards_one_to_one
  have hforwarded : forwarded moves = [networkRecord, renameRecord] := by
    rw [forwarded, hsendings]
    rfl
  have hlength : feed.length = 2 := by
    rw [hrelayed.rendered.length_eq, hforwarded]
    rfl
  obtain ⟨first, second, rfl⟩ := List.length_eq_two.mp hlength
  have hshown := hrelayed.shown
  rw [hpolls] at hshown
  have hfailed : FeedPoll.failed (.refused 500 "gone") ∈ polls := by simp [hpolls]
  refine ⟨last, moves, polls, run, ?_, hforwarded ▸ by decide +kernel, ⟨arrivals, hdelivered, ?_⟩,
    (hfails _ hfailed).1 hrunning⟩
  · cases rest <;> cases ending <;> simp at hshown
    obtain ⟨rfl, rfl, rfl⟩ := hshown
    exact hrelayed
  · rw [hforwarded, writtenOf_failing hsendings hreceipts hdelivered.sent hdelivered.received]
    rfl

/-- When a write fails, what comes out need not be what was sent, from the first record on. -/
theorem not_written_in_full : ¬∀ (s : EventStream ScriptedWorld String) (moves : List StreamMove)
    (polls : List FeedPoll) (called : Cancellations), FeedRun (.scripted .standard) s moves polls called →
      ∃ arrivals : List Arrival, arrivals.map Arrival.sending <+: sendings moves ∧
        arrivals.map Arrival.receipt = receipts moves ∧ writtenOf .forwarder arrivals <+: forwarded moves := by
  intro hclaim
  obtain ⟨s, moves, polls, run, -, hsendings, hreceipts, -⟩ := failing_run
  obtain ⟨arrivals, hsent, hreceived, hprefix⟩ := hclaim s moves polls [] run
  rw [writtenOf_failing hsendings hreceipts hsent hreceived, forwarded, hsendings] at hprefix
  have hsame : renameRecord = networkRecord := (List.cons_prefix_cons.mp hprefix).1
  exact absurd hsame (by decide +kernel)

end ScriptedWorld

end LabStream
