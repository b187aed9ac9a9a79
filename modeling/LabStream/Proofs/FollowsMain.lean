import LabStream.Proofs.StreamSights

namespace LabStream

variable {σ τ : Type}

namespace EventStream

variable {setup : StreamSetup σ τ} {hidden : String → Bool} {s s' : EventStream σ τ}

section Main

theorem follows_receiver (h : s.turn setup .receiver = some s') :
    Follows setup hidden s s' (s.moved setup s' .receiver) (s.glimpse? setup hidden s .receiver) := by
  obtain ⟨-, h⟩ := Option.ite_none_right_eq_some.mp h
  have hsilent : sentRecords (s.moved setup s' .receiver) = [] := by
    refine List.filterMap_eq_nil_iff.mpr fun move hmem => ?_
    obtain ⟨event, out, rfl⟩ := mem_moved_receiver hmem
    rfl
  obtain ⟨host, channel, event, rfl, -⟩ := receive_eq h
  refine .of_unseen ?_ rfl ?_
  · simp [isUnseen]
  · rw [openRecords, hsilent]
    rfl

theorem view_finish (s : EventStream σ τ) (result : Except StreamFault Unit) :
    (s.finish result).view hidden = (s.view hidden).finish result := by
  refine view_ext rfl rfl rfl rfl rfl ?_ rfl
  simp [finish, Hub.isCancelled, Cancellations.cancel, Cancellations.covers, StreamView.finish, StreamView.cancel]

theorem follows_joiner (h : s.turn setup .joiner = some s') :
    Follows setup hidden s s' (s.moved setup s' .joiner) (s.glimpse? setup hidden s .joiner) := by
  obtain ⟨-, h⟩ := Option.ite_none_right_eq_some.mp h
  have hseen : s.isUnseen hidden .joiner = false := by simp [isUnseen, getsInLine]
  refine .of_seen hseen rfl ?_ rfl
  have hforwarder : (s.view hidden).forwarder.bind Forwarder.result? = s.forwarder.bind Forwarder.result? := by
    simp only [view, Option.bind_map, Function.comp_def, Forwarder.outline_result?]
  have hsampler : (s.view hidden).sampler.bind (·.fault) = s.sampler.bind (·.fault) := by
    simp [view, Option.bind_map, Function.comp_def, Sampler.outline]
  rw [StreamView.after, StreamView.join, hforwarder, hsampler]
  unfold join at h
  split at h
  next hf =>
    cases h
    rw [hf]
    exact view_finish _ _
  next hf =>
    cases h
    rw [hf]
    rfl
  next hfailed hended =>
    have hbusy : s.forwarder.bind Forwarder.result? = none := by
      rcases hf : s.forwarder with _ | (_ | _ | _ | _ | (fault | ⟨⟨⟩⟩)) <;> try rfl
      · exact absurd hf (hfailed fault)
      · exact absurd hf hended
    rw [hbusy]
    split at h
    · cases h
    next sampler hs =>
      rw [hs]
      split at h
      · cases h
      · split at h
        next fault hfault =>
          cases h
          rw [Option.bind_some, hfault]
          exact view_finish _ _
        next hfault =>
          cases h
          rw [Option.bind_some, hfault]
          rfl

theorem view_startSampler (containers : List Container) (s : EventStream σ τ) :
    (startSampler setup containers s).view hidden =
      StreamView.startSampler setup (setup.loaded s.crew.host containers) (s.view hidden) := by
  unfold startSampler StreamView.startSampler StreamSetup.loaded
  cases setup.options.traffic with
  | false => rfl
  | true =>
    cases setup.backend with
    | none => rfl
    | some b =>
      dsimp only
      rcases Sampling.load b s.crew.host containers with ⟨host, scopes, _ | fault⟩ <;> rfl

theorem view_launch {moves : List CrewMove} (kept : s.crew.Kept moves) (containers : List Container) :
    (launch setup containers s).view hidden = (s.view hidden).launch setup hidden containers
      (s.crew.host.perform (.events setup.options.labLabel) (setup.runtime.subscribe setup.options.labLabel)).2
      (setup.loaded (s.crew.host.perform (.events setup.options.labLabel)
        (setup.runtime.subscribe setup.options.labLabel)).1 containers) := by
  have hcharges : (startWatchers s.crew containers).charges hidden =
      (containers.filter Container.isRunning).foldl (Charges.enter hidden) (s.crew.charges hidden) :=
    Crew.charges_starts kept _
  have hhub := startWatchers_hub s.crew containers
  rcases hcrew : startWatchers s.crew containers with ⟨hub, roster, watchers, options⟩
  rw [hcrew] at hhub hcharges
  obtain rfl : hub = s.crew.toHub := hhub
  have hbegun (host : Traced σ) (f : Option Forwarder) : ({ s with
      announcer := if setup.options.initialState then .ofContainers containers else .finished
      crew := ⟨{ s.crew.toHub with host }, roster, watchers, options⟩
      forwarder := f } : EventStream σ τ).view hidden = { s.view hidden with
        announcer := if setup.options.initialState then .ofContainers containers else .finished
        charges := if (s.view hidden).isCancelled then (s.view hidden).charges
          else (containers.filter Container.isRunning).foldl (Charges.enter hidden) (s.view hidden).charges
        forwarder := f.map Forwarder.outline } := by
    refine view_ext ?_ rfl rfl rfl rfl rfl ?_
    · dsimp only
      split <;> rfl
    · dsimp only
      split
      next hcancelled => exact if_pos hcancelled
      next hlive =>
        rw [show (s.view hidden).charges = s.crew.charges hidden from if_neg hlive]
        exact hcharges.symm
  unfold launch StreamView.launch
  dsimp only
  rw [hcrew]
  cases (s.crew.host.perform (.events setup.options.labLabel) (setup.runtime.subscribe setup.options.labLabel)).2 with
  | error fault => exact (view_finish _ _).trans (congrArg (StreamView.finish · _) (hbegun _ _))
  | ok => exact (view_startSampler _ _).trans (congrArg (StreamView.startSampler setup _) (hbegun _ _))

theorem follows_main (sound : s.Sound setup) (h : s.turn setup .main = some s') :
    Follows setup hidden s s' (s.moved setup s' .main) (s.glimpse? setup hidden s .main) := by
  obtain ⟨hphase, h⟩ := Option.ite_none_left_eq_some.mp h
  obtain ⟨_, kept⟩ := sound.kept
  have hseen (hother : ∀ numbers, s.phase ≠ .dismissing numbers) : s.isUnseen hidden .main = false := by
    simp only [isUnseen, getsInLine, Bool.false_or]
  have hafter {phase : StreamPhase τ} (hp : s.phase = phase) : (s.view hidden).phase = phase.outline := by
    rw [← hp]
    rfl
  unfold stepMain at h
  split at h
  next => cases h
  next answerAt hp =>
    split at h
    · cases h
    · have kept : Crew.Kept { s.crew with
          host := (s.crew.host.observe (setup.runtime.answerList setup.filter)).1 } _ :=
        kept.around { s.crew.toHub with host := (s.crew.host.observe (setup.runtime.answerList setup.filter)).1 }
      dsimp only at h
      split at h
      next fault heq =>
        cases h
        refine .of_seen (hseen (by simp [hp])) rfl ?_ rfl
        simp only [StreamView.after, hafter hp, mainSight, hp, heq]
        exact view_finish _ _
      next containers heq =>
        cases h
        refine .of_seen (hseen (by simp [hp])) rfl ?_ rfl
        simp only [StreamView.after, hafter hp, mainSight, hp, heq]
        exact view_launch kept containers
  next teardown fault hp =>
    split at h
    next hb =>
      cases h
      refine .of_seen (hseen (by simp [hp])) rfl ?_ rfl
      simp only [StreamView.after, hafter hp, mainSight, hp, hb]
      exact view_finish _ _
    next b hb =>
      split at h
      · cases h
      next heq =>
        cases h
        have hmore := Teardown.step_isNone heq
        refine .of_seen (hseen (by simp [hp])) rfl ?_ rfl
        simp only [StreamView.after, hafter hp, mainSight, hp, hb, ← hmore]
        exact StreamView.ext rfl rfl rfl rfl (hafter hp).symm rfl rfl
      next heq =>
        cases h
        have hlast := Teardown.step_isNone heq
        refine .of_seen (hseen (by simp [hp])) rfl ?_ rfl
        simp only [StreamView.after, hafter hp, mainSight, hp, hb, ← hlast]
        exact view_finish _ _
  next hp =>
    split at h
    next hc =>
      cases h
      refine .of_seen (hseen (by simp [hp])) rfl ?_ rfl
      simp only [StreamView.after, hafter hp]
      have hstill : s.crew.dismissAll.1.isCancelled s.crew.token :=
        Cancellations.covers_mono (fun _ hmem => Crew.mem_dismissAll.mpr (.inl hmem)) hc
      have hroot : (s.view hidden).isCancelled = true := hc
      refine view_ext rfl rfl rfl rfl rfl (hstill.trans hroot.symm) ?_
      dsimp only
      rw [hroot]
      exact if_pos hc
    next hc =>
      exact absurd (by simp [isRunning, hp, hc]) hphase
  next numbers hp =>
    split at h
    · cases h
      exact .of_unseen (by simp [isUnseen, hp]) (StreamView.ext rfl rfl rfl rfl (hafter hp).symm rfl rfl) rfl
    · cases h
  next deadline hp =>
    split at h
    · cases h
      refine .of_seen (hseen (by simp [hp])) rfl ?_ rfl
      simp only [StreamView.after, hafter hp]
      exact view_finish _ _
    · cases h

end Main

end EventStream

end LabStream
