import LabStream.ScriptedWorld
import LabStream.Proofs.StreamSights
import LabStream.Proofs.TrafficBatch

namespace LabStream

variable {σ τ : Type} {b : TrafficBackend σ τ}

/-- Nobody takes what the stream sends any more. -/
def Hub.Refuses (hub : Hub σ) : Prop := hub.isCancelled hub.token ∨ hub.channel.isOpen = false

instance (hub : Hub σ) : Decidable hub.Refuses :=
  inferInstanceAs (Decidable (hub.isCancelled hub.token ∨ hub.channel.isOpen = false))

/-- There is room for what a producer sends. -/
def Channel.Admits {α π : Type} (ch : Channel α π) (p : π) : Prop := p ∈ ch.granted ∨ ch.hasRoom

instance {α π : Type} [DecidableEq π] (ch : Channel α π) (p : π) : Decidable (ch.Admits p) :=
  inferInstanceAs (Decidable (p ∈ ch.granted ∨ ch.hasRoom))

theorem Channel.poll_of_admits {α π : Type} [DecidableEq π] {ch : Channel α π} {p : π} (item : α)
    (hopen : ch.isOpen) (hroom : ch.Admits p) : (ch.poll p false item).2 = .sent := by
  by_cases hgranted : p ∈ ch.granted
  · simp [poll, hopen, hgranted]
  · have hfree := hroom.resolve_left hgranted
    have hnobody : ch.waiting = [] := by simp_all [hasRoom]
    simp [poll, hopen, hgranted, hnobody, hfree]

theorem Hub.offer_of_admits {hub : Hub σ} {p : Producer} (event : Event) (hlive : ¬ hub.Refuses)
    (hroom : hub.channel.Admits p) : ∃ hub', hub.offer p hub.token event = some (hub', .sent) := by
  obtain ⟨hcancelled, hopen⟩ : hub.isCancelled hub.token = false ∧ hub.channel.isOpen = true := by
    simpa [Refuses] using hlive
  have hpoll : (hub.send p hub.token event).2 = .sent := by
    rw [send, hcancelled]
    exact Channel.poll_of_admits event hopen hroom
  refine ⟨(hub.send p hub.token event).1, ?_⟩
  unfold offer
  split
  next heq =>
    rw [heq] at hpoll
    cases hpoll
  next => rw [← hpoll]

namespace Sampler

/-- A sampler that hands over what it has to send, with all events that it has sent and the hubs at
which it took its steps. Between its steps the hub changes in any way. -/
inductive Handover (b : TrafficBackend σ τ) (s₀ : Sampler τ) :
    Hub σ → Sampler τ → List Event → List (Hub σ) → Prop where
  | begun (hub) : Handover b s₀ hub s₀ [] []
  | others {hub s sent hubs} (hub') : Handover b s₀ hub s sent hubs → Handover b s₀ hub' s sent hubs
  | step {hub hub' s s' sent hubs} {left : List Event} : Handover b s₀ hub s sent hubs →
    s.phase = .sending left → s.step b hub = some (hub', s') →
    Handover b s₀ hub' s' (sent ++ hub'.channel.queue.drop hub.channel.queue.length) (hubs ++ [hub])

/-- How far a batch has come: some of it is left, or all of it is sent, or it was refused at a step. -/
inductive Delivery (batch : List Event) (s : Sampler τ) (sent : List Event) (hubs : List (Hub σ)) : Prop where
  | going {left : List Event} : s.phase = .sending left → sent ++ left = batch → Delivery batch s sent hubs
  | complete : s.phase = .waiting → sent = batch → Delivery batch s sent hubs
  | broken {hub} {teardown : Teardown τ} : s.phase = .closing teardown → hub ∈ hubs → hub.Refuses →
    sent <+: batch → Delivery batch s sent hubs

variable {s₀ s : Sampler τ} {hub : Hub σ} {batch sent : List Event} {hubs : List (Hub σ)}

theorem Handover.delivery (h : Handover b s₀ hub s sent hubs) (hbatch : s₀.phase = .sending batch) :
    Delivery batch s sent hubs := by
  induction h with
  | begun hub => exact .going hbatch (List.nil_append batch)
  | others _ _ ih => exact ih
  | @step hub hub' s s' sent hubs left _ hp hs ih =>
    -- Only a delivery that is still going on can take a step.
    have hleft : sent ++ left = batch := by
      cases ih with
      | going hp' hall =>
        obtain rfl := SamplerPhase.sending.inj (hp.symm.trans hp')
        exact hall
      | complete hp' => cases hp.symm.trans hp'
      | broken hp' => cases hp.symm.trans hp'
    cases left with
    | nil =>
      obtain ⟨rfl, rfl⟩ : hub = hub' ∧ { s with phase := .waiting } = s' := by simpa [Sampler.step, hp] using hs
      exact .complete rfl (by simpa using hleft)
    | cons event rest =>
      obtain ⟨poll, ho, rfl⟩ := step_said hp hs
      obtain ⟨channel, rfl, hqueue⟩ := Hub.offer_eq_some ho
      cases poll with
      | sent => exact .going rfl (by simpa [hqueue] using hleft)
      | blocked => exact .going hp (by simpa [hqueue] using hleft)
      | refused =>
        refine .broken rfl (List.mem_append_right _ (List.mem_singleton_self hub)) (Hub.offer_refused ho) ?_
        exact ⟨event :: rest, by simpa [hqueue] using hleft⟩

theorem step_of_admits {event : Event} {rest : List Event} (hp : s.phase = .sending (event :: rest))
    (hlive : ¬ hub.Refuses) (hroom : hub.channel.Admits .sampler) :
    ∃ hub', s.step b hub = some (hub', { s with phase := .sending rest }) ∧
      hub'.channel.queue = hub.channel.queue ++ [event] := by
  obtain ⟨hub', ho⟩ := Hub.offer_of_admits event hlive hroom
  obtain ⟨channel, rfl, hqueue⟩ := Hub.offer_eq_some ho
  exact ⟨{ hub with channel }, by simp [step, hp, ho], by simpa using hqueue⟩

/-- A tick that is not fatal sends nothing if nothing with a label has grown. Else it hands over a batch
that is consistent with all that has grown, of which a part is lost only to a sender that refuses. -/
theorem batch_handed_over {hub₁ : Hub σ} {s₁ : Sampler τ} (hwaiting : s.phase = .waiting)
    (hs : s.step b hub = some (hub₁, s₁)) (hsending : s₁.phase = .sending batch) :
    List.Forall₂ (CountedScope.Sampled b) s.scopes s₁.scopes ∧
      ((∀ delta ∈ Sampling.growths s.scopes s₁.scopes, ∀ key ∈ delta, ¬ key.IsKnown) → batch = []) ∧
      ((∃ delta ∈ Sampling.growths s.scopes s₁.scopes, ∃ key ∈ delta, key.IsKnown) →
        ∃ parts : Batch, parts.events = batch ∧ parts.Consistent s.services s.interval.windowText hub.instant
          (Sampling.growths s.scopes s₁.scopes)) ∧
      ∀ {hub₂ : Hub σ} {s₂ : Sampler τ} {sent hubs}, Handover b s₁ hub₂ s₂ sent hubs →
        Delivery batch s₂ sent hubs ∧
          ∀ {event rest}, s₂.phase = .sending (event :: rest) → ¬ hub₂.Refuses → hub₂.channel.Admits .sampler →
            ∃ hub₃, s₂.step b hub₂ = some (hub₃, { s₂ with phase := .sending rest }) ∧
              hub₃.channel.queue = hub₂.channel.queue ++ [event] := by
  obtain ⟨host, hscopes⟩ : ∃ host, Sampling.tick b s.services s.interval.windowText hub.instant hub.host s.scopes =
      (host, s₁.scopes, .ok batch) := by
    cases step_turn hs with
    | sampled _ _ heq =>
      obtain rfl := SamplerPhase.sending.inj hsending
      exact ⟨_, heq⟩
    | rested hp | sent hp | blocked hp | refused hp | unloaded hp | finished hp => cases hwaiting.symm.trans hp
    | cancelled | failed => cases hsending
  obtain ⟨hall, hnone, hsome⟩ := Sampling.tick_ok _ _ _ hscopes
  exact ⟨hall, hnone, hsome, fun handover => ⟨handover.delivery hsending, step_of_admits⟩⟩

instance (phase : SamplerPhase τ) : Decidable (∃ batch, phase = .sending batch) :=
  match phase with
  | .sending batch => isTrue ⟨batch, rfl⟩
  | .waiting | .closing _ | .done => isFalse nofun

end Sampler

/-- A host that counts a protocol by its bucket, and a namespace that counts it by its port. -/
def ScriptedWorld.peering : ScriptedWorld :=
  { empty with scopes :=
      [⟨.host, [], .ofPairs [(⟨2, 0, 8, 0⟩, ⟨3, 300⟩)], .only [], none, none, none, .zero⟩,
       ⟨⟨"ns-7", "r1", some "/proc/7/ns/net"⟩, [], .ofPairs [(⟨7, 1, 6, 179⟩, ⟨2, 200⟩)], .only [], none, none, none,
        .zero⟩] }

def Hub.peering : Hub ScriptedWorld := ⟨.start .peering, 1000000000, 0, [], .ofCapacity 64, [0]⟩

def Sampler.peering : Sampler String :=
  .start (.ofSeconds 1) (.ofText "bgp 179/tcp")
    [.fresh .host "host", .fresh ⟨"ns-7", "r1", some "/proc/7/ns/net"⟩ "ns-7"] 0

/-- The batch of both, and its first event on the way. -/
theorem Sampler.batch_handed_over_of_peering : ∃ (parts : Batch) (hub₁ : Hub ScriptedWorld) (s₁ s₂ : Sampler String),
    Sampler.peering.step ScriptedWorld.backend .peering = some (hub₁, s₁) ∧ s₁.phase = .sending parts.events ∧
      parts.globals.countP (fun e => e.attributes.valueOf "protocol" = "bgp/tcp") = 1 ∧
      reported .bytes "bgp/tcp" .interface parts.interfaces = 500 ∧
      Delivery parts.events s₂ [parts.sample] [hub₁] := by
  let next := (Sampler.peering.step ScriptedWorld.backend .peering).get (by decide +kernel)
  have hs : Sampler.peering.step ScriptedWorld.backend .peering = some (next.1, next.2) :=
    (Option.some_get (by decide +kernel)).symm
  obtain ⟨batch, hsending⟩ : ∃ batch, next.2.phase = .sending batch := by decide +kernel
  obtain ⟨-, -, hbatch, hdelivery⟩ := batch_handed_over rfl hs hsending
  obtain ⟨parts, rfl, hparts⟩ :=
    hbatch ⟨.ofPairs [(⟨2, 0, 8, 0⟩, ⟨3, 300⟩)], by decide +kernel, ⟨2, 0, 8, 0⟩, by decide +kernel, by decide +kernel⟩
  have hprogress := (hdelivery (.begun next.1)).2 hsending (by decide +kernel) (by decide +kernel)
  obtain ⟨hub₂, hstep, hqueue⟩ := hprogress
  have handover := (Handover.begun next.1).step hsending hstep
  have hsent : [] ++ hub₂.channel.queue.drop next.1.channel.queue.length = [parts.sample] := by simp [hqueue]
  rw [hsent] at handover
  refine ⟨parts, next.1, next.2, _, hs, hsending, ?_, ?_, (hdelivery handover).1⟩
  · rw [hparts.once]
    decide +kernel
  · rw [hparts.shared]
    decide +kernel

end LabStream
