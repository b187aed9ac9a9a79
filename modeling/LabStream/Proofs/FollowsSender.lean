import LabStream.Proofs.StreamSights

namespace LabStream

variable {σ τ : Type}

namespace Announcer

theorem outline_begun (c : Container) (rest : List Container) (now : Instant) :
    outline ⟨rest, if c.showsSnapshot now then some (c.snapshotEvent now) else none⟩ =
      ⟨rest, if c.showsSnapshot (.ofNanos 0) then some (c.snapshotEvent (.ofNanos 0)) else none⟩ := by
  have hshows : c.showsSnapshot now = c.showsSnapshot (.ofNanos 0) := rfl
  rw [outline, hshows]
  cases c.showsSnapshot (.ofNanos 0) <;> rfl

end Announcer

namespace EventStream

variable {setup : StreamSetup σ τ} {hidden : String → Bool} {s s' : EventStream σ τ}

theorem follows_announcer (sound : s.Sound setup) (h : s.turn setup .announcer = some s') :
    Follows setup hidden s s' (s.moved setup s' .announcer) (s.glimpse? setup hidden s .announcer) := by
  obtain ⟨⟨hub, announcer⟩, hstep, heq⟩ := Option.bind_eq_some_iff.mp h
  obtain rfl := Option.some.inj heq
  cases Announcer.step_turn hstep with
  | begun he hc =>
    have hseen : s.isUnseen hidden .announcer = false := by simp [isUnseen, getsInLine, he]
    refine .of_seen hseen rfl (StreamView.ext ?_ rfl rfl rfl rfl rfl rfl) ((openRecords_kept rfl).trans ?_)
    · refine (Announcer.outline_begun _ _ _).trans ?_
      simp [view, StreamView.after, Announcer.outline, Announcer.after, he, hc]
    · simp [StreamView.record, view, Announcer.outline, he]
  | sent he ho =>
    have hseen : s.isUnseen hidden .announcer = false := by
      simp [isUnseen, getsInLine, he, Hub.getsInLine_of_offer ho]
    have hlive : s.crew.isCancelled s.crew.token = false := sound.refused_iff ho
    obtain ⟨channel, rfl, hqueue, -⟩ := Hub.offer_sent ho
    refine .of_seen hseen rfl (StreamView.ext ?_ rfl rfl rfl rfl rfl rfl) ((openRecords_sent hqueue rfl).trans ?_)
    · simp [view, StreamView.after, Announcer.outline, Announcer.after, he, hlive]
    · simp [StreamView.record, view, Announcer.outline, he, hlive, Sender.source]
  | blocked he ho =>
    have hunseen : s.isUnseen hidden .announcer := by simp [isUnseen, getsInLine, he, Hub.getsInLine_of_offer ho]
    obtain ⟨channel, rfl, hqueue, -⟩ := Hub.offer_unsent ho nofun
    exact .of_unseen hunseen rfl (openRecords_kept hqueue)
  | refused he ho =>
    have hseen : s.isUnseen hidden .announcer = false := by
      simp [isUnseen, getsInLine, he, Hub.getsInLine_of_offer ho]
    have hcancelled : s.crew.isCancelled s.crew.token = true := sound.refused_iff ho
    obtain ⟨channel, rfl, hqueue, -⟩ := Hub.offer_unsent ho nofun
    refine .of_seen hseen rfl (StreamView.ext ?_ rfl rfl rfl rfl rfl rfl) ((openRecords_kept hqueue).trans ?_)
    · simp [view, StreamView.after, Announcer.outline, Announcer.after, he, hcancelled, Announcer.finished]
    · simp [StreamView.record, view, hcancelled]

section Forwarder

variable {u u' : EventStream σ τ} {rest : Cancellations}

theorem openRecords_forwarder : openRecords hidden (u.moved setup u' .forwarder) =
    openRecords hidden (u.entries u' .forwarder) := by
  rw [moved, openRecords_append]
  cases u.taken? setup <;> rfl

/-- What a forwarder makes of what it sees, unless it takes an event off the feed. -/
theorem after_forwarder {v : StreamView τ} {f : Forwarder} {sight : ForwarderSight}
    (hf : v.forwarder = some f) (hquiet : f ≠ .waiting ∨ ∀ e, sight ≠ .feed (.event e)) :
    v.after setup hidden (.forwarder sight) = { v with forwarder := some (f.after v.isCancelled sight) } := by
  simp only [StreamView.after, hf, Option.map_some]
  split
  next e hwaits =>
    obtain rfl := Option.some.inj hwaits
    simp at hquiet
  · rfl

theorem view_met (sound : (u.cancelling rest).Sound setup) (hf : u.forwarder = some .waiting) (host : Traced σ)
    (e : RuntimeEvent) : ({ u with
        crew := (Forwarder.meet setup.runtime { u.crew with host } e).1
        forwarder := some (Forwarder.meet setup.runtime { u.crew with host } e).2 }.cancelling rest).view hidden =
      ((u.cancelling rest).view hidden).after setup hidden (.forwarder (.feed (.event e))) := by
  obtain ⟨_, kept⟩ := sound.kept
  have kept : Crew.Kept { u.crew with host } _ := kept.around { u.crew.toHub with host }
  obtain ⟨host', hkeeps⟩ := Forwarder.meet_keeps setup.runtime { u.crew with host } e
  have hlabel : u.crew.options.labLabel = setup.options.labLabel := congrArg WatchOptions.labLabel sound.options
  have hcharges : Crew.charges hidden (Forwarder.meet setup.runtime { u.crew with host } e).1 =
      (u.crew.charges hidden).obey hidden setup.options.labLabel e := by
    rw [hkeeps, ← hlabel]
    exact Crew.charges_obey kept e
  have hroot : Cancellations.covers ((Forwarder.meet setup.runtime { u.crew with host } e).1.cancelled ++ rest)
      (Forwarder.meet setup.runtime { u.crew with host } e).1.token =
        (u.cancelling rest).crew.isCancelled (u.cancelling rest).crew.token := by
    rw [hkeeps]
    exact isCancelled_obey { u.crew with host } e rest
  have hwaits : ((u.cancelling rest).view hidden).forwarder = some .waiting := by
    rw [view, show (u.cancelling rest).forwarder = some .waiting from hf]
    rfl
  simp only [StreamView.after, hwaits, Option.map_some]
  refine view_ext rfl (congrArg some (Forwarder.outline_meet _ _ _)) rfl rfl rfl hroot ?_
  dsimp only
  split
  next hcancelled => exact if_pos hcancelled
  next hlive =>
    rw [show ((u.cancelling rest).view hidden).charges = u.crew.charges hidden from if_neg hlive]
    exact hcharges.symm

/-- A forwarder that does not send anything and has not taken an event does what follows from what it sees. -/
theorem follows_forwarder_idle {f f' : Forwarder} {sight : ForwarderSight} {host : Traced σ} (hf : u.forwarder = some f)
    (hsaid : f.outline.said = []) (hquiet : f.outline ≠ .waiting ∨ ∀ e, sight ≠ .feed (.event e))
    (hwaits : ∀ number e, f ≠ .dismissing number e) (hsight : f.sight setup.runtime u.crew = sight)
    (hafter : ∀ isCancelled, f.outline.after isCancelled sight = f'.outline) :
    Follows setup hidden (u.cancelling rest) ({ u with
      crew.host := host
      forwarder := some f' }.cancelling rest) (u.moved setup { u with
        crew.host := host
        forwarder := some f' } .forwarder)
      ((u.cancelling rest).glimpse? setup hidden u .forwarder) := by
  have hf' : (u.cancelling rest).forwarder = some f := hf
  have hview : ((u.cancelling rest).view hidden).forwarder = some f.outline := by
    rw [view, hf']
    rfl
  have hseen : (u.cancelling rest).isUnseen hidden .forwarder = false := by
    cases f with
    | dismissing number e => exact absurd rfl (hwaits number e)
    | sending => cases hsaid
    | waiting | asking | done => simp [isUnseen, getsInLine, hf', Forwarder.said]
  have hsight : u.sight? setup .forwarder = some (.forwarder sight) := by simp [sight?, hf, hsight]
  refine .of_seen hseen hsight ?_ ((openRecords_forwarder.trans (openRecords_kept rfl)).trans ?_)
  · rw [after_forwarder hview hquiet, hafter]
    rfl
  · simp [StreamView.record, hview, hsaid]

/-- A forwarder that sends gets in line for room, or it goes on as it follows from whether it is cancelled. -/
theorem follows_forwarder_sends {event : Event} {hub : Hub σ} {poll : SendPoll} {f' : Forwarder}
    (sound : u.Sound setup) (hf : u.forwarder = some (.sending event))
    (ho : u.crew.offer .forwarder u.crew.token event = some (hub, poll))
    (hf' : f' = match poll with
      | .blocked => .sending event
      | .refused => .done (.ok ())
      | .sent => .waiting) :
    Follows setup hidden u { u with
      crew.toHub := hub
      forwarder := some f' } (u.moved setup { u with
        crew.toHub := hub
        forwarder := some f' } .forwarder) (u.glimpse? setup hidden u .forwarder) := by
  subst hf'
  have hview : (u.view hidden).forwarder = some (.sending event.undated) := by
    rw [view, hf]
    rfl
  have hunseen : u.isUnseen hidden .forwarder = decide (poll = .blocked) := by
    simp [isUnseen, getsInLine, hf, Forwarder.said, Hub.getsInLine_of_offer ho]
  have hsight : u.sight? setup .forwarder = some (.forwarder .nothing) := by simp [sight?, hf, Forwarder.sight]
  have hroot : (u.view hidden).isCancelled = decide (poll = .refused) := sound.refused_iff ho
  cases poll with
  | blocked =>
    obtain ⟨channel, rfl, hqueue, -⟩ := Hub.offer_unsent ho nofun
    refine .of_unseen hunseen ?_ (openRecords_forwarder.trans (openRecords_kept hqueue))
    exact StreamView.ext rfl hview.symm rfl rfl rfl rfl rfl
  | refused =>
    obtain ⟨channel, rfl, hqueue, -⟩ := Hub.offer_unsent ho nofun
    refine .of_seen hunseen hsight ?_ ((openRecords_forwarder.trans (openRecords_kept hqueue)).trans ?_)
    · rw [after_forwarder hview (.inl nofun)]
      refine StreamView.ext rfl (congrArg some ?_) rfl rfl rfl rfl rfl
      rw [hroot]
      rfl
    · simp [StreamView.record, hroot]
  | sent =>
    obtain ⟨channel, rfl, hqueue, -⟩ := Hub.offer_sent ho
    refine .of_seen hunseen hsight ?_ ((openRecords_forwarder.trans (openRecords_sent hqueue rfl)).trans ?_)
    · rw [after_forwarder hview (.inl nofun)]
      refine StreamView.ext rfl (congrArg some ?_) rfl rfl rfl rfl rfl
      rw [hroot]
      rfl
    · simp [StreamView.record, hview, Forwarder.said, Sender.source, hroot]

theorem follows_forwarder (sound : (u.cancelling rest).Sound setup)
    (hrest : rest = [] ∨ u.heedsCancel .forwarder) (h : u.turn setup .forwarder = some u') :
    Follows setup hidden (u.cancelling rest) (u'.cancelling rest) (u.moved setup u' .forwarder)
      ((u.cancelling rest).glimpse? setup hidden u .forwarder) := by
  obtain ⟨f, hf, h⟩ := Option.bind_eq_some_iff.mp h
  obtain ⟨⟨crew, f'⟩, hstep, heq⟩ := Option.bind_eq_some_iff.mp h
  obtain rfl := Option.some.inj heq
  have hf' : (u.cancelling rest).forwarder = some f := hf
  cases Forwarder.step_turn hstep with
  | cancelled hc =>
    have hsight : Forwarder.waiting.sight setup.runtime u.crew = .nothing := by simp [Forwarder.sight, hc]
    exact follows_forwarder_idle hf rfl (.inr (by simp)) (by simp) hsight fun _ => rfl
  | ended hlive hobserve =>
    have hpoll : (setup.runtime.nextEvent u.crew.host.world).2 = .ended := congrArg Prod.snd hobserve
    have hsight : Forwarder.waiting.sight setup.runtime u.crew = .feed .ended := by
      simp [Forwarder.sight, hlive, hpoll]
    exact follows_forwarder_idle hf rfl (.inr (by simp)) (by simp) hsight fun _ => rfl
  | @failed _ fault hlive hobserve =>
    have hpoll : (setup.runtime.nextEvent u.crew.host.world).2 = .failed fault := congrArg Prod.snd hobserve
    have hsight : Forwarder.waiting.sight setup.runtime u.crew = .feed (.failed fault) := by
      simp [Forwarder.sight, hlive, hpoll]
    exact follows_forwarder_idle hf rfl (.inr (by simp)) (by simp) hsight fun _ => rfl
  | @met host e hlive hobserve =>
    have hseen : (u.cancelling rest).isUnseen hidden .forwarder = false := by
      simp [isUnseen, getsInLine, hf', Forwarder.said]
    have hpoll : (setup.runtime.nextEvent u.crew.host.world).2 = .event e := congrArg Prod.snd hobserve
    have hsight : u.sight? setup .forwarder = some (.forwarder (.feed (.event e))) := by
      simp [sight?, hf, Forwarder.sight, hlive, hpoll]
    have hqueue : (Forwarder.meet setup.runtime { u.crew with host } e).1.channel.queue = u.crew.channel.queue :=
      congrArg Channel.queue (Forwarder.meet_channel _ _ _)
    refine .of_seen hseen hsight (view_met sound hf host e)
      ((openRecords_forwarder.trans (openRecords_kept hqueue)).trans ?_)
    simp [StreamView.record, view, hf', Forwarder.outline, Forwarder.said]
  | @dismissed number e hd =>
    have hunseen : (u.cancelling rest).isUnseen hidden .forwarder := by simp [isUnseen, hf']
    have hqueue : (Forwarder.enrich setup.runtime u.crew e).1.channel.queue = u.crew.channel.queue :=
      congrArg Channel.queue (Forwarder.enrich_channel _ _ _)
    refine .of_unseen hunseen ?_ (openRecords_forwarder.trans (openRecords_kept hqueue))
    obtain ⟨host, hkeeps⟩ := Forwarder.enrich_keeps setup.runtime u.crew e
    rw [hkeeps]
    refine StreamView.ext rfl ?_ rfl rfl rfl rfl rfl
    rw [view, view, hf']
    exact congrArg some (Forwarder.outline_enrich _ _ _)
  | @answered e filter answerAt host found hobserve =>
    have hfound : (setup.runtime.answerList filter u.crew.host.world).2 = found := congrArg Prod.snd hobserve
    have hsight : (Forwarder.asking e filter answerAt).sight setup.runtime u.crew = .found found := by
      simp [Forwarder.sight, hfound]
    exact follows_forwarder_idle hf rfl (.inl (by simp [Forwarder.outline])) (by simp) hsight fun _ => rfl
  | sent ho | blocked ho | refused ho =>
    obtain rfl : rest = [] := hrest.resolve_right (by simp [heedsCancel, hf])
    simp only [cancelling_nil] at sound ⊢
    exact follows_forwarder_sends sound hf ho rfl

end Forwarder

section Sampler

variable {u u' : EventStream σ τ} {rest : Cancellations}

theorem after_sampler {v : StreamView τ} {sampler : Sampler τ} (hsampler : v.sampler = some sampler)
    (sight : SamplerSight τ) : v.after setup hidden (.sampler sight) =
      { v with sampler := some (sampler.after v.isCancelled sight) } := by
  simp only [StreamView.after, hsampler, Option.map_some]

theorem follows_sampler (sound : (u.cancelling rest).Sound setup) (hrest : rest = [] ∨ u.heedsCancel .sampler)
    (h : u.turn setup .sampler = some u') :
    Follows setup hidden (u.cancelling rest) (u'.cancelling rest) (u.moved setup u' .sampler)
      ((u.cancelling rest).glimpse? setup hidden u .sampler) := by
  obtain ⟨sampler, hsampler, h⟩ := Option.bind_eq_some_iff.mp h
  obtain ⟨b, hb, h⟩ := Option.bind_eq_some_iff.mp h
  obtain ⟨⟨hub, sampler'⟩, hstep, heq⟩ := Option.bind_eq_some_iff.mp h
  obtain rfl := Option.some.inj heq
  have hsampler' : (u.cancelling rest).sampler = some sampler := hsampler
  have hview : ((u.cancelling rest).view hidden).sampler = some sampler.outline := by
    rw [view, hsampler']
    rfl
  have hsight : u.sight? setup .sampler = some (.sampler (sampler.sight b u.crew.toHub)) := by
    simp [sight?, hsampler, hb]
  by_cases hidle : sampler.said = []
  · have hseen : (u.cancelling rest).isUnseen hidden .sampler = false := by
      simp [isUnseen, getsInLine, hsampler', hidle]
    obtain ⟨⟨host, rfl⟩, hafter⟩ := Sampler.step_idle hstep hidle
    refine .of_seen hseen hsight ?_ ((openRecords_kept rfl).trans ?_)
    · rw [after_sampler hview, ← hafter]
      rfl
    · simp [StreamView.record, hview, Sampler.outline_said, hidle]
  · obtain ⟨event, more, hp⟩ := Sampler.said_ne_nil hidle
    obtain rfl : rest = [] := hrest.resolve_right (by simp [heedsCancel, hsampler, hp])
    simp only [cancelling_nil] at sound hview ⊢
    have hsaid : sampler.said = [event] := by simp [Sampler.said, hp]
    obtain ⟨poll, ho, hafter⟩ := Sampler.step_said hp hstep
    have hunseen : u.isUnseen hidden .sampler = decide (poll = .blocked) := by
      simp [isUnseen, getsInLine, hsampler, hsaid, Hub.getsInLine_of_offer ho]
    have hroot : (u.view hidden).isCancelled = decide (poll = .refused) := sound.refused_iff ho
    cases poll with
    | blocked =>
      obtain ⟨channel, rfl, hqueue, -⟩ := Hub.offer_unsent ho (by simp)
      obtain rfl := hafter
      exact .of_unseen hunseen (StreamView.ext rfl rfl hview.symm rfl rfl rfl rfl) (openRecords_kept hqueue)
    | refused =>
      obtain ⟨channel, rfl, hqueue, -⟩ := Hub.offer_unsent ho (by simp)
      refine .of_seen hunseen hsight ?_ ((openRecords_kept hqueue).trans ?_)
      · rw [after_sampler hview]
        refine StreamView.ext rfl rfl (congrArg some ?_) rfl rfl rfl rfl
        rw [hroot, hafter]
        simp [Sampler.after, Sampler.outline, hp, Sampler.stop]
      · simp [StreamView.record, hroot]
    | sent =>
      obtain ⟨channel, rfl, hqueue, -⟩ := Hub.offer_sent ho
      refine .of_seen hunseen hsight ?_ ((openRecords_sent hqueue rfl).trans ?_)
      · rw [after_sampler hview]
        refine StreamView.ext rfl rfl (congrArg some ?_) rfl rfl rfl rfl
        rw [hroot, hafter]
        simp [Sampler.after, Sampler.outline, hp]
      · simp [StreamView.record, hroot, hview, Sampler.outline_said, hsaid, Sender.source]

end Sampler

end EventStream

end LabStream
