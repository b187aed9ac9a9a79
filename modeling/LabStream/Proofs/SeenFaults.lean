import Mathlib.Data.List.Induction
import LabStream.Proofs.StreamView

namespace LabStream

variable {σ τ : Type}

/-- Who shows a fault: the listing, the feed and the counters, but no watcher. -/
inductive StreamSight.Shows : StreamSight τ → StreamFault → Prop where
  | unlisted {fault : RuntimeFault} {subscribed : Except RuntimeFault Unit}
    {loaded : List (CountedScope τ) × Option TrafficFault} :
    Shows (.main (.listed (.error fault) subscribed loaded)) (.runtime fault)
  | unsubscribed {containers : List Container} {fault : RuntimeFault}
    {loaded : List (CountedScope τ) × Option TrafficFault} :
    Shows (.main (.listed (.ok containers) (.error fault) loaded)) (.runtime fault)
  | unloaded {containers : List Container} {scopes : List (CountedScope τ)} {fault : TrafficFault} :
    Shows (.main (.listed (.ok containers) (.ok ()) (scopes, some fault))) (.traffic fault)
  | unfed {fault : RuntimeFault} : Shows (.forwarder (.feed (.failed fault))) (.runtime fault)
  | uncounted {answer : List (CountedScope τ) → List (CountedScope τ) × Except TrafficFault (List Event)}
    {scopes : List (CountedScope τ)} {fault : TrafficFault} : (answer scopes).2 = .error fault →
    Shows (.sampler (.counted answer)) (.traffic fault)

theorem Sampler.after_fault {isCancelled : Bool} {sight : SamplerSight τ} {s : Sampler τ} {fault : TrafficFault}
    (h : (s.after isCancelled sight).fault = some fault) : s.fault = some fault ∨
      ∃ answer scopes, sight = .counted answer ∧ (answer scopes).2 = .error fault := by
  unfold after at h
  split at h
  · cases sight with
    | counted answer =>
      dsimp only at h
      split at h
      next heq =>
        cases h
        exact .inr ⟨answer, s.scopes, rfl, congrArg Prod.snd heq⟩
      next => exact .inl h
    | nothing | closed => cases h
  · exact .inl h
  · split at h
    · cases h
    · exact .inl h
  · rcases sight with _ | _ | (_ | _) <;> exact .inl h
  · exact .inl h

namespace StreamView

variable {setup : StreamSetup σ τ} {hidden : String → Bool} {v : StreamView τ} {seen : List (StreamSight τ)}
  {sight : StreamSight τ} {result : Except StreamFault Unit} {fault : StreamFault}

/-- Whether a fault is one of the setup or has been seen. -/
def Explained (setup : StreamSetup σ τ) (seen : List (StreamSight τ)) (fault : StreamFault) : Prop :=
  setup.fault? = some fault ∨ ∃ sight ∈ seen, sight.Shows fault

theorem Explained.append (h : Explained setup seen fault) (sight : StreamSight τ) :
    Explained setup (seen ++ [sight]) fault :=
  h.imp_right fun ⟨earlier, hmem, hshows⟩ => ⟨earlier, List.mem_append_left _ hmem, hshows⟩

theorem explained_of_shows (h : sight.Shows fault) : Explained setup (seen ++ [sight]) fault :=
  .inr ⟨sight, List.mem_append_right _ (List.mem_singleton_self sight), h⟩

/-- All faults that a stream has taken note of are explained by what has been seen. -/
structure Sincere (setup : StreamSetup σ τ) (seen : List (StreamSight τ)) (v : StreamView τ) : Prop where
  ended {fault : StreamFault} : v.phase = .ended (.error fault) → Explained setup seen fault
  unloading {teardown : Teardown τ} {fault : TrafficFault} : v.phase = .unloading teardown fault →
    Explained setup seen (.traffic fault)
  forwarder {fault : RuntimeFault} : v.forwarder = some (.done (.error fault)) → Explained setup seen (.runtime fault)
  sampler {sampler : Sampler τ} {fault : TrafficFault} : v.sampler = some sampler → sampler.fault = some fault →
    Explained setup seen (.traffic fault)

namespace Sincere

theorem mono (h : v.Sincere setup seen) (sight : StreamSight τ) : v.Sincere setup (seen ++ [sight]) where
  ended hp := (h.ended hp).append sight
  unloading hp := (h.unloading hp).append sight
  forwarder hf := (h.forwarder hf).append sight
  sampler hs hfault := (h.sampler hs hfault).append sight

theorem finish (h : v.Sincere setup seen) (hresult : ∀ fault, result = .error fault → Explained setup seen fault) :
    (v.finish result).Sincere setup seen where
  ended hp := hresult _ (StreamPhase.ended.inj hp)
  unloading := nofun
  forwarder := h.forwarder
  sampler := h.sampler

theorem proceed (h : v.Sincere setup seen) {phase : StreamPhase τ} (hended : ∀ fault, phase ≠ .ended (.error fault))
    (hunloading : ∀ teardown fault, phase ≠ .unloading teardown fault) : ({ v with phase }).Sincere setup seen where
  ended hp := absurd hp (hended _)
  unloading hp := absurd hp (hunloading _ _)
  forwarder := h.forwarder
  sampler := h.sampler

/-- Neither the charges nor the announcer of a stream have faults. -/
theorem congr {v' : StreamView τ} (h : v.Sincere setup seen) (hphase : v'.phase = v.phase)
    (hforwarder : v'.forwarder = v.forwarder) (hsampler : v'.sampler = v.sampler) : v'.Sincere setup seen where
  ended hp := h.ended (hphase ▸ hp)
  unloading hp := h.unloading (hphase ▸ hp)
  forwarder hf := h.forwarder (hforwarder ▸ hf)
  sampler hs := h.sampler (hsampler ▸ hs)

theorem after_forwarder (h : v.Sincere setup seen) (sight : ForwarderSight) :
    (v.after setup hidden (.forwarder sight)).Sincere setup (seen ++ [.forwarder sight]) := by
  refine ⟨(h.mono _).ended, (h.mono _).unloading, fun {fault} hf => ?_, (h.mono _).sampler⟩
  obtain ⟨f, hv, hafter⟩ := Option.map_eq_some_iff.mp hf
  cases f with
  | waiting =>
    rcases sight with _ | (_ | _ | _ | _) | _
    · cases hafter
    · cases hafter
    · cases hafter
    · simp only [Forwarder.after, Forwarder.passing] at hafter
      split at hafter <;> cases hafter
    · cases hafter
      exact explained_of_shows .unfed
    · cases hafter
  | dismissing => cases hafter
  | asking => cases sight <;> cases hafter
  | sending =>
    simp only [Forwarder.after] at hafter
    split at hafter <;> cases hafter
  | done result =>
    cases hafter
    exact (h.forwarder hv).append _

theorem after_sampler (h : v.Sincere setup seen) (sight : SamplerSight τ) :
    (v.after setup hidden (.sampler sight)).Sincere setup (seen ++ [.sampler sight]) := by
  refine ⟨(h.mono _).ended, (h.mono _).unloading, (h.mono _).forwarder, fun {sampler fault} hs hfault => ?_⟩
  obtain ⟨before, hv, rfl⟩ := Option.map_eq_some_iff.mp hs
  rcases Sampler.after_fault hfault with hold | ⟨answer, scopes, rfl, hanswer⟩
  · exact (h.sampler hv hold).append _
  · exact explained_of_shows (.uncounted hanswer)

theorem join (h : v.Sincere setup seen) : v.join.Sincere setup seen := by
  unfold StreamView.join
  split
  next _ fault hf =>
    refine h.finish fun _ heq => ?_
    cases heq
    obtain ⟨f, hv, hresult⟩ := Option.bind_eq_some_iff.mp hf
    cases f with
    | done result =>
      cases hresult
      exact h.forwarder hv
    | waiting | dismissing | asking | sending => cases hresult
  next => exact ⟨h.ended, h.unloading, nofun, h.sampler⟩
  next fault _ hs =>
    have hseen : ({ v with samplerSeen := true }).Sincere setup seen := h.congr rfl rfl rfl
    refine hseen.finish fun _ heq => ?_
    cases heq
    obtain ⟨sampler, hv, hfault⟩ := Option.bind_eq_some_iff.mp hs
    exact h.sampler hv hfault
  next => exact h.congr rfl rfl rfl

theorem startSampler (h : v.Sincere setup seen) {loaded : List (CountedScope τ) × Option TrafficFault}
    (hloaded : ∀ scopes fault, loaded = (scopes, some fault) → Explained setup seen (.traffic fault)) :
    (StreamView.startSampler setup loaded v).Sincere setup seen := by
  have hrunning : ({ v with phase := .running }).Sincere setup seen := h.proceed (by simp) (by simp)
  unfold StreamView.startSampler
  split
  next scopes fault _ _ =>
    refine ⟨fun hp => ?_, fun hp => ?_, h.forwarder, h.sampler⟩
    · cases hp
    · cases hp
      exact hloaded _ _ rfl
  next =>
    refine ⟨hrunning.ended, hrunning.unloading, h.forwarder, fun hs hfault => ?_⟩
    cases hs
    cases hfault
  next => exact hrunning

theorem main (h : v.Sincere setup seen) (sight : MainSight τ) :
    (v.after setup hidden (.main sight)).Sincere setup (seen ++ [.main sight]) := by
  have hmono := h.mono (.main sight)
  simp only [StreamView.after]
  split
  next =>
    refine hmono.finish fun _ heq => ?_
    cases heq
    exact explained_of_shows .unlisted
  next containers subscribed loaded _ =>
    unfold StreamView.launch
    dsimp only
    split
    next =>
      refine Sincere.finish (hmono.congr rfl rfl rfl) fun _ heq => ?_
      cases heq
      exact explained_of_shows .unsubscribed
    next =>
      refine startSampler ?_ fun _ _ heq => ?_
      · refine ⟨hmono.ended, hmono.unloading, fun hf => ?_, hmono.sampler⟩
        cases hf
      · cases heq
        exact explained_of_shows .unloaded
  next fault hp =>
    refine hmono.finish fun _ heq => ?_
    cases heq
    exact hmono.unloading hp
  next => exact hmono.proceed (by simp) (by simp)
  next => exact hmono.finish (by simp)
  next => exact hmono

theorem after (h : v.Sincere setup seen) (sight : StreamSight τ) :
    (v.after setup hidden sight).Sincere setup (seen ++ [sight]) := by
  cases sight with
  | cancelled | announcer => exact (h.mono _).congr rfl rfl rfl
  | watcher key sight =>
    refine (h.mono _).congr ?_ ?_ ?_ <;> simp only [StreamView.after] <;> split <;> rfl
  | forwarder sight => exact h.after_forwarder sight
  | sampler sight => exact h.after_sampler sight
  | joiner => exact (h.mono _).join
  | main sight => exact h.main sight

end Sincere

theorem sincere_replay (setup : StreamSetup σ τ) (hidden : String → Bool) (seen : List (StreamSight τ)) :
    (replay setup hidden seen).1.Sincere setup seen := by
  induction seen using List.reverseRecOn with
  | nil =>
    have hfresh : Sincere setup [] (⟨.finished, none, none, false, .listing 0, false, fun _ => none⟩ : StreamView τ) :=
      ⟨nofun, nofun, nofun, nofun⟩
    rw [replay, List.foldl_nil, fresh]
    cases heq : setup.fault? with
    | none => exact hfresh
    | some fault =>
      refine hfresh.finish fun _ hfault => ?_
      cases hfault
      exact .inl heq
  | append_singleton seen sight ih =>
    rw [replay_append]
    exact ih.after sight

def result? (v : StreamView τ) : Option (Except StreamFault Unit) :=
  match v.phase with
  | .ended result => some result
  | _ => none

end StreamView

end LabStream
