import Mathlib.Tactic.Tauto
import LabStream.Proofs.StreamTurns

namespace LabStream

/-- A send: who stands in line for it, the token of the handle it is made through, and its event. -/
structure Dispatch where
  producer : Producer
  token : Token
  event : Event
  deriving DecidableEq

/-- What can be done at the channel of a hub. A send is looked at until it is answered or dropped; its
receiver may go away at once, or stop taking more and still receive what is queued. -/
inductive Errand where
  | poll (d : Dispatch)
  | drop (p : Producer)
  | receive
  | cancel (token : Token)
  | shut
  | close
  deriving DecidableEq

/-- What came of it. -/
inductive Dealing where
  | answered (d : Dispatch) (answer : SendPoll)
  | dropped (p : Producer)
  | received (event : Event)
  | idle
  | cancelled (token : Token)
  | shut
  | closed
  deriving DecidableEq

namespace Dealing

def accepted? : Dealing → Option Dispatch
  | answered d .sent => some d
  | _ => none

def received? : Dealing → Option Event
  | received event => some event
  | _ => none

end Dealing

/-- The sends that were answered with success, in the order of the answers. -/
def accepted (log : List Dealing) : List Dispatch := log.filterMap Dealing.accepted?

def received (log : List Dealing) : List Event := log.filterMap Dealing.received?

theorem accepted_cons (deal : Dealing) (log : List Dealing) :
    accepted (deal :: log) = deal.accepted?.toList ++ accepted log := by
  cases h : deal.accepted? <;> simp [accepted, h]

theorem received_cons (deal : Dealing) (log : List Dealing) :
    received (deal :: log) = deal.received?.toList ++ received log := by
  cases h : deal.received? <;> simp [received, h]

namespace Channel

variable {α π : Type}

theorem receive_eq_some {ch ch' : Channel α π} {item : α} (h : ch.receive = some (item, ch')) :
    ch.queue = item :: ch'.queue ∧ ch'.isOpen = ch.isOpen := by
  unfold receive at h
  split at h
  next => cases h
  next first rest hq =>
    obtain ⟨rfl, rfl⟩ := Prod.mk.inj (Option.some.inj h)
    exact ⟨by rw [hq, queue_grant], isOpen_grant _⟩

end Channel

theorem Cancellations.covers_iff {cancelled : Cancellations} {token : Token} :
    cancelled.covers token ↔ ∃ above ∈ cancelled, above <+: token := by
  simp [covers, List.isPrefixOf_iff_prefix]

namespace Hub

variable {σ : Type} {hub : Hub σ}

def errand (hub : Hub σ) : Errand → Hub σ × Dealing
  | .poll d =>
    let (hub, answer) := hub.send d.producer d.token d.event
    (hub, .answered d answer)
  | .drop p => ({ hub with channel := hub.channel.leave p }, .dropped p)
  | .receive =>
    match hub.channel.receive with
    | none => (hub, .idle)
    | some (event, channel) => ({ hub with channel }, .received event)
  | .cancel token => (hub.cancel token, .cancelled token)
  | .shut => ({ hub with channel := { hub.channel with isOpen := false } }, .shut)
  | .close => ({ hub with channel := hub.channel.close }, .closed)

/-- Errands one after the other, with what came of each. -/
def errands (hub : Hub σ) : List Errand → Hub σ × List Dealing
  | [] => (hub, [])
  | e :: rest =>
    let first := hub.errand e
    let others := first.1.errands rest
    (others.1, first.2 :: others.2)

theorem answered_of_errand {e : Errand} {d : Dispatch} {answer : SendPoll}
    (h : (hub.errand e).2 = .answered d answer) : (hub.send d.producer d.token d.event).2 = answer := by
  cases e with
  | poll d' =>
    obtain ⟨rfl, rfl⟩ := Dealing.answered.inj h
    rfl
  | receive => cases hr : hub.channel.receive <;> simp [errand, hr] at h
  | drop | cancel | shut | close => cases h

theorem mem_cancelled_errand (e : Errand) (token : Token) :
    token ∈ (hub.errand e).1.cancelled ↔ token ∈ hub.cancelled ∨ (hub.errand e).2 = .cancelled token := by
  cases e with
  | cancel other => simp [errand, cancel, Cancellations.cancel, or_comm, eq_comm]
  | receive => cases hr : hub.channel.receive <;> simp [errand, hr]
  | poll | drop | shut | close => simp [errand, send]

theorem isOpen_errand (e : Errand) : (hub.errand e).1.channel.isOpen = false ↔
    hub.channel.isOpen = false ∨ (hub.errand e).2 = .shut ∨ (hub.errand e).2 = .closed := by
  cases e with
  | poll d => simp [errand, send, Channel.isOpen_poll]
  | drop p => simp [errand, Channel.leave, Channel.isOpen_grant]
  | receive =>
    cases hr : hub.channel.receive with
    | none => simp [errand, hr]
    | some taken => simp [errand, hr, (Channel.receive_eq_some hr).2]
  | cancel => simp [errand, cancel]
  | shut | close => simp [errand, Channel.close]

/-- What is queued and what is accepted is received or still queued, unless the receiver goes away. -/
theorem errand_account {e : Errand} (h : e ≠ .close) :
    hub.channel.queue ++ ((hub.errand e).2.accepted?.map (·.event)).toList =
      (hub.errand e).2.received?.toList ++ (hub.errand e).1.channel.queue := by
  cases e with
  | poll d =>
    have hqueue := hub.channel.queue_poll d.producer (hub.isCancelled d.token) d.event
    simp only [errand, send, Dealing.received?, Option.toList_none, List.nil_append, hqueue]
    cases (hub.channel.poll d.producer (hub.isCancelled d.token) d.event).2 <;> rfl
  | drop p => simp [errand, Dealing.accepted?, Dealing.received?, Channel.queue_leave]
  | receive =>
    cases hr : hub.channel.receive with
    | none => simp [errand, hr, Dealing.accepted?, Dealing.received?]
    | some taken => simp [errand, hr, Dealing.accepted?, Dealing.received?, (Channel.receive_eq_some hr).1]
  | cancel | shut => simp [errand, cancel, Dealing.accepted?, Dealing.received?]
  | close => exact absurd rfl h

theorem mem_cancelled_errands (hub : Hub σ) (es : List Errand) (token : Token) :
    token ∈ (hub.errands es).1.cancelled ↔ token ∈ hub.cancelled ∨ .cancelled token ∈ (hub.errands es).2 := by
  induction es generalizing hub with
  | nil => simp [errands]
  | cons e es ih => simp only [errands, ih, mem_cancelled_errand, List.mem_cons, or_assoc, eq_comm]

theorem isOpen_errands (hub : Hub σ) (es : List Errand) : (hub.errands es).1.channel.isOpen = false ↔
    hub.channel.isOpen = false ∨ .shut ∈ (hub.errands es).2 ∨ .closed ∈ (hub.errands es).2 := by
  induction es generalizing hub with
  | nil => simp [errands]
  | cons e es ih =>
    simp only [errands, ih, isOpen_errand, List.mem_cons, @eq_comm _ Dealing.shut, @eq_comm _ Dealing.closed]
    tauto

/-- Whatever is in the log came of an errand at the hub that was left before it. -/
theorem errands_split {es : List Errand} {before after : List Dealing} {deal : Dealing}
    (h : (hub.errands es).2 = before ++ deal :: after) :
    ∃ first e, (hub.errands first).2 = before ∧ ((hub.errands first).1.errand e).2 = deal := by
  induction es generalizing hub before with
  | nil => simp [errands] at h
  | cons e es ih =>
    cases before with
    | nil => exact ⟨[], e, rfl, (List.cons.inj h).1⟩
    | cons deal' before =>
      obtain ⟨hdeal, hrest⟩ := List.cons.inj h
      obtain ⟨first, e', hbefore, hlast⟩ := ih hrest
      exact ⟨e :: first, e', by simp [errands, hbefore, hdeal], hlast⟩

/-- An answer was given by a hub with the cancellations before it, open unless something before it closed it. -/
theorem answered_at {es : List Errand} {before after : List Dealing} {d : Dispatch} {answer : SendPoll}
    (h : (hub.errands es).2 = before ++ .answered d answer :: after) :
    ∃ at_ : Hub σ, (at_.send d.producer d.token d.event).2 = answer ∧
      (∀ token, token ∈ at_.cancelled ↔ token ∈ hub.cancelled ∨ .cancelled token ∈ before) ∧
      (at_.channel.isOpen = false ↔ hub.channel.isOpen = false ∨ .shut ∈ before ∨ .closed ∈ before) := by
  obtain ⟨first, e, rfl, hlast⟩ := errands_split h
  exact ⟨(hub.errands first).1, answered_of_errand hlast, mem_cancelled_errands hub first, isOpen_errands hub first⟩

theorem accepted_of_shut {es : List Errand} (h : hub.channel.isOpen = false) :
    accepted (hub.errands es).2 = [] := by
  refine List.filterMap_eq_nil_iff.mpr fun deal hdeal => ?_
  cases deal with
  | answered d answer =>
    cases answer with
    | sent =>
      obtain ⟨before, after, hsplit⟩ := List.append_of_mem hdeal
      obtain ⟨at_, hsent, -, hopen⟩ := answered_at hsplit
      have := (Channel.poll_sent hsent).2
      rw [hopen.mpr (.inl h)] at this
      cases this
    | refused | blocked => rfl
  | dropped | received | idle | cancelled | shut | closed => rfl

theorem errands_account (hub : Hub σ) (es : List Errand) : ∃ lost,
    hub.channel.queue ++ (accepted (hub.errands es).2).map (·.event) = received (hub.errands es).2 ++ lost ∧
      (.closed ∉ (hub.errands es).2 → lost = (hub.errands es).1.channel.queue) := by
  induction es generalizing hub with
  | nil => exact ⟨hub.channel.queue, by simp [errands, accepted, received], fun _ => rfl⟩
  | cons e es ih =>
    obtain ⟨lost, heq, hlost⟩ := ih (hub.errand e).1
    by_cases he : e = .close
    · subst he
      have hnone : accepted ((hub.errand .close).1.errands es).2 = [] := accepted_of_shut rfl
      -- Nothing is queued any more and nothing gets in, so nothing more is received.
      have hnothing : received ((hub.errand .close).1.errands es).2 = [] := by
        rw [hnone] at heq
        exact (List.append_eq_nil_iff.mp heq.symm).1
      refine ⟨hub.channel.queue, ?_, fun hc => absurd List.mem_cons_self hc⟩
      rw [errands, accepted_cons, received_cons, hnone, hnothing]
      simp [errand, Dealing.accepted?, Dealing.received?]
    · refine ⟨lost, ?_, fun hc => hlost fun hm => hc (List.mem_cons_of_mem _ hm)⟩
      rw [errands, accepted_cons, received_cons, List.map_append, ← Option.toList_map, ← List.append_assoc,
        errand_account he, List.append_assoc, heq, List.append_assoc]

/-- A cancellation is nothing to a send whose token is not at or below it. -/
theorem send_cancel {above token : Token} (h : ¬ above <+: token) (p : Producer) (event : Event) :
    ((hub.cancel above).send p token event).2 = (hub.send p token event).2 ∧
      ((hub.cancel above).send p token event).1.channel = (hub.send p token event).1.channel := by
  have hsame : (hub.cancel above).isCancelled token = hub.isCancelled token := by
    rw [Bool.eq_iff_iff, isCancelled, isCancelled, Cancellations.covers_iff, Cancellations.covers_iff]
    simp [cancel, Cancellations.cancel, h]
  simp only [send, hsame]
  exact ⟨rfl, rfl⟩

/-- A hub whose channel nobody has used yet and where nothing is cancelled. -/
def fresh (hub : Hub σ) (capacity : Nat) : Hub σ :=
  { hub with cancelled := [], channel := .ofCapacity capacity }

/-- What is received was accepted, in that order and each once, and all of it unless the receiver goes
away; what is only ever refused is not received. A send on a token that is cancelled, itself or above, is
never accepted any more. It is refused for just that, or since its receiver takes no more. -/
theorem errands_deliver (hub : Hub σ) (capacity : Nat) (es : List Errand) :
    let left := ((hub.fresh capacity).errands es).1
    let log := ((hub.fresh capacity).errands es).2
    received log <+: (accepted log).map (·.event) ∧
    (.closed ∉ log → (accepted log).map (·.event) = received log ++ left.channel.queue) ∧
    (∀ before d after, log = before ++ .answered d .refused :: after →
      (∀ other ∈ accepted log, other.event ≠ d.event) → d.event ∉ received log) ∧
    (∀ before d after, log = before ++ .answered d .sent :: after →
      ∀ above, .cancelled above ∈ before → ¬ above <+: d.token) ∧
    (∀ before d after, log = before ++ .answered d .refused :: after →
      (∃ above, .cancelled above ∈ before ∧ above <+: d.token) ∨ .shut ∈ before ∨ .closed ∈ before) ∧
    ∀ above (d : Dispatch), ¬ above <+: d.token →
      ((left.cancel above).send d.producer d.token d.event).2 = (left.send d.producer d.token d.event).2 := by
  intro left log
  obtain ⟨lost, haccount, hlost⟩ := (hub.fresh capacity).errands_account es
  have hqueue : (accepted log).map (·.event) = received log ++ lost := haccount
  have hfirst : received log <+: (accepted log).map (·.event) := ⟨lost, hqueue.symm⟩
  refine ⟨hfirst, fun hc => hlost hc ▸ hqueue, ?_, ?_, ?_, fun above d h => (send_cancel h _ _).1⟩
  · intro before d after _ hother hmem
    obtain ⟨other, ho, heq⟩ := List.mem_map.mp (hfirst.subset hmem)
    exact hother other ho heq
  · intro before d after hsplit above hcancelled habove
    obtain ⟨at_, hsent, hmem, -⟩ := answered_at hsplit
    have hcovered : at_.isCancelled d.token = true :=
      Cancellations.covers_iff.mpr ⟨above, (hmem above).mpr (.inr hcancelled), habove⟩
    rw [(Channel.poll_sent hsent).1] at hcovered
    cases hcovered
  · intro before d after hsplit
    obtain ⟨at_, hrefused, hmem, hopen⟩ := answered_at hsplit
    rcases Channel.poll_refused_iff.mp hrefused with hcovered | hclosed
    · obtain ⟨above, ha, habove⟩ := Cancellations.covers_iff.mp hcovered
      exact .inl ⟨above, ((hmem above).mp ha).resolve_left List.not_mem_nil, habove⟩
    · exact .inr ((hopen.mp hclosed).resolve_left (by simp [fresh, Channel.ofCapacity]))

end Hub

namespace Dispatch

def early : Dispatch := ⟨.watcher 0, [0], .make .epoch .container "start"⟩

def queued : Dispatch := ⟨.watcher 1, [0, 1], .make .epoch .container "die"⟩

def late : Dispatch := ⟨.watcher 2, [0, 2], .make .epoch .container "stop"⟩

end Dispatch

/-- A send waits at a full channel and is cancelled; only after that there is room for it. -/
def Errand.crowd : List Errand :=
  [.poll .early, .poll .queued, .cancel [0, 1], .receive, .poll .queued, .poll .late, .receive]

theorem Hub.errands_deliver_of_crowd :
    ∃ before after, ((Hub.fresh ⟨.start (), 0, 0, [], .ofCapacity 0, [0]⟩ 1).errands Errand.crowd).2 =
        before ++ .answered .queued .refused :: after ∧
      .answered .queued .blocked ∈ before ∧
      received (before ++ .answered .queued .refused :: after) = [Dispatch.early.event, Dispatch.late.event] ∧
      Dispatch.queued.event ∉ received (before ++ .answered .queued .refused :: after) ∧
      ∃ above, .cancelled above ∈ before ∧ above <+: Dispatch.queued.token := by
  obtain ⟨-, -, hrefused, -, hcause, -⟩ := errands_deliver ⟨.start (), 0, 0, [], .ofCapacity 0, [0]⟩ 1 Errand.crowd
  let before : List Dealing := [.answered .early .sent, .answered .queued .blocked, .cancelled [0, 1],
    .received Dispatch.early.event]
  let after : List Dealing := [.answered .late .sent, .received Dispatch.late.event]
  have hlog : ((Hub.fresh ⟨.start (), 0, 0, [], .ofCapacity 0, [0]⟩ 1).errands Errand.crowd).2 =
      before ++ .answered .queued .refused :: after := by decide +kernel
  have hnot := hrefused before .queued after hlog
  have habove := hcause before .queued after hlog
  rw [hlog] at hnot
  refine ⟨before, after, hlog, by decide +kernel, by decide +kernel, hnot (by decide +kernel), ?_⟩
  exact habove.resolve_right (by decide +kernel)

end LabStream
