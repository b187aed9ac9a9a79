import LabStream.Proofs.StreamView
import LabStream.Proofs.Tidy

namespace LabStream

variable {σ τ : Type}

def Sender.source : Sender → Source
  | announcer => .announcer
  | forwarder => .forwarder
  | sampler => .sampler
  | watcher _ key => .watcher key

def Source.isHidden (hidden : String → Bool) : Source → Bool
  | watcher key => hidden key
  | announcer | forwarder | sampler => false

/-- The records that have been sent, but for their times. -/
def sentRecords (moves : List StreamMove) : List (Source × Event) :=
  moves.filterMap fun
    | .entered sender event => some (sender.source, event.undated)
    | _ => none

/-- The records of all who are not hidden. -/
def openRecords (hidden : String → Bool) (moves : List StreamMove) : List (Source × Event) :=
  (sentRecords moves).filter fun record => !record.1.isHidden hidden

theorem sentRecords_append (moves more : List StreamMove) :
    sentRecords (moves ++ more) = sentRecords moves ++ sentRecords more := List.filterMap_append

theorem openRecords_append (hidden : String → Bool) (moves more : List StreamMove) :
    openRecords hidden (moves ++ more) = openRecords hidden moves ++ openRecords hidden more := by
  rw [openRecords, sentRecords_append, List.filter_append, openRecords, openRecords]

namespace Forwarder

/-- What a forwarder sees if its turn comes. -/
def sight (runtime : ContainerRuntime σ) (crew : Crew σ) : Forwarder → ForwarderSight
  | waiting => if crew.isCancelled crew.token then .nothing else .feed (runtime.nextEvent crew.host.world).2
  | asking _ filter _ => .found (runtime.answerList filter crew.host.world).2
  | dismissing .. | sending _ | done _ => .nothing

end Forwarder

/-- The last step of a teardown is the one with nothing left to close. -/
theorem Teardown.step_isNone {b : TrafficBackend σ τ} {now : Nat} {host host' : Traced σ} {t : Teardown τ}
    {after : Option (Teardown τ)} (h : t.step b now host = some (host', after)) :
    after.isNone = t.scopes.isEmpty := by
  unfold step at h
  split at h
  next hscopes =>
    cases h
    rw [hscopes]
    rfl
  next hscopes =>
    rw [hscopes]
    split at h
    · cases h
      rfl
    · split at h
      · cases h
      · cases h
        rfl

namespace Sampler

/-- What a sampler sees if its turn comes. -/
def sight (b : TrafficBackend σ τ) (hub : Hub σ) (s : Sampler τ) : SamplerSight τ :=
  match s.phase with
  | .waiting =>
    if hub.isCancelled hub.token then .nothing
    else .counted fun scopes =>
      let (_, scopes, answer) := Sampling.tick b s.services s.interval.windowText hub.instant hub.host scopes
      (scopes, answer.map fun events => events.map Event.undated)
  | .closing t => .closed t.scopes.isEmpty
  | .sending _ | .done => .nothing

variable {b : TrafficBackend σ τ} {hub hub' : Hub σ} {s s' : Sampler τ}

theorem said_ne_nil (h : s.said ≠ []) : ∃ event rest, s.phase = .sending (event :: rest) := by
  unfold said at h
  split at h
  next event rest hp => exact ⟨event, rest, hp⟩
  next => exact absurd rfl h

/-- A sampler that does not send anything does what follows from what it sees. -/
theorem step_idle (h : s.step b hub = some (hub', s')) (hidle : s.said = []) :
    (∃ host, hub' = { hub with host }) ∧
      ∀ isCancelled, s'.outline = s.outline.after isCancelled (s.sight b hub) := by
  unfold step at h
  split at h
  next => cases h
  next hp =>
    split at h
    next hc =>
      cases h
      refine ⟨⟨hub.host, rfl⟩, fun _ => ?_⟩
      simp [after, outline, sight, hp, hc, stop]
    next hc =>
      split at h
      · cases h
      · dsimp only at h
        split at h
        next heq =>
          cases h
          refine ⟨⟨_, rfl⟩, fun _ => ?_⟩
          simp [after, outline, sight, hp, hc, stop, heq, Except.map]
        next heq =>
          cases h
          refine ⟨⟨_, rfl⟩, fun _ => ?_⟩
          simp [after, outline, sight, hp, hc, heq, Except.map]
  next hp =>
    cases h
    refine ⟨⟨hub.host, rfl⟩, fun _ => ?_⟩
    simp [after, outline, hp]
  next hp => simp [said, hp] at hidle
  next t hp =>
    split at h
    · cases h
    next heq =>
      cases h
      refine ⟨⟨_, rfl⟩, fun _ => ?_⟩
      simp [after, outline, sight, hp, ← Teardown.step_isNone heq]
    next heq =>
      cases h
      refine ⟨⟨_, rfl⟩, fun _ => ?_⟩
      simp [after, outline, sight, hp, ← Teardown.step_isNone heq]

theorem step_said {event : Event} {rest : List Event} (hp : s.phase = .sending (event :: rest))
    (h : s.step b hub = some (hub', s')) : ∃ poll, hub.offer .sampler hub.token event = some (hub', poll) ∧
      s' = match poll with
        | .blocked => s
        | .refused => s.stop none
        | .sent => { s with phase := .sending rest } := by
  unfold step at h
  rw [hp] at h
  dsimp only at h
  split at h
  · cases h
  next heq =>
    cases h
    exact ⟨_, heq, rfl⟩
  next heq =>
    cases h
    exact ⟨_, heq, rfl⟩
  next heq =>
    cases h
    exact ⟨_, heq, rfl⟩

end Sampler

/-- What comes of the loading of counters, if traffic is asked for. -/
def StreamSetup.loaded (setup : StreamSetup σ τ) (host : Traced σ) (containers : List Container) :
    List (CountedScope τ) × Option TrafficFault :=
  match setup.options.traffic, setup.backend with
  | true, some b => (Sampling.load b host containers).2
  | _, _ => ([], none)

namespace EventStream

variable (setup : StreamSetup σ τ) (hidden : String → Bool) (s : EventStream σ τ)

/-- What the stream itself sees if its turn comes. -/
def mainSight : MainSight τ :=
  match s.phase with
  | .listing _ =>
    let (host, listed) := s.crew.host.observe (setup.runtime.answerList setup.filter)
    let label := setup.options.labLabel
    let (host, subscribed) := host.perform (.events label) (setup.runtime.subscribe label)
    .listed listed subscribed (match listed with
      | .ok containers => setup.loaded host containers
      | .error _ => ([], none))
  | .unloading t _ => .closed (setup.backend.isNone || t.scopes.isEmpty)
  | _ => .nothing

/-- What a task sees if its turn comes. -/
def sight? : StreamTask → Option (StreamSight τ)
  | .announcer => some .announcer
  | .watcher number =>
    (s.crew.watcher? number).map fun w => .watcher w.key (s.crew.sight setup.runtime setup.monitor w)
  | .forwarder => s.forwarder.map fun f => .forwarder (f.sight setup.runtime s.crew)
  | .sampler => s.sampler.bind fun sampler => setup.backend.map fun b => .sampler (sampler.sight b s.crew.toHub)
  | .receiver => none
  | .joiner => some .joiner
  | .main => some (.main (s.mainSight setup))

/-- Whether a task does no more in its turn than to get in line for room in the channel. -/
def getsInLine : StreamTask → Bool
  | .announcer => s.announcer.event.any (s.crew.getsInLine .announcer s.crew.token)
  | .watcher number =>
    (s.crew.watcher? number).any fun w => w.said.any (s.crew.getsInLine (.watcher number) w.token)
  | .forwarder => s.forwarder.any fun f => f.said.any (s.crew.getsInLine .forwarder s.crew.token)
  | .sampler => s.sampler.any fun sampler => sampler.said.any (s.crew.getsInLine .sampler s.crew.token)
  | .receiver | .joiner | .main => false

/-- Whether the turn of a task cannot be told from outside: a watcher of a hidden container or one that is
cancelled takes it, or somebody has waited for such a watcher, for room or for a record to write out. -/
def isUnseen (task : StreamTask) : Bool :=
  s.getsInLine task || match task with
  | .watcher number => (s.crew.watcher? number).any fun w => hidden w.key || s.crew.isCancelled w.token
  | .forwarder => match s.forwarder with
    | some (.dismissing ..) => true
    | _ => false
  | .receiver => true
  | .main => match s.phase with
    | .dismissing _ => true
    | _ => false
  | .announcer | .sampler | .joiner => false

/-- What is seen in a turn of a task to which the stream looks like `u`. -/
def glimpse? (u : EventStream σ τ) (task : StreamTask) : Option (StreamSight τ) :=
  if s.isUnseen hidden task then none else u.sight? setup task

/-- What holds of a stream that is cancelled from outside only as a whole. -/
structure Sound (s : EventStream σ τ) : Prop where
  kept : ∃ moves, s.crew.Kept moves
  heeded : s.crew.Heeded s.crew.cancelled
  tidy : s.crew.Tidy s.crew.cancelled
  opened : s.crew.isCancelled s.crew.token = false → s.crew.channel.isOpen
  options : s.crew.options = setup.watchOptions

end EventStream

/-- What a turn makes of a stream as it can be told from outside, by what is seen in it. -/
inductive Follows (setup : StreamSetup σ τ) (hidden : String → Bool) (s s' : EventStream σ τ) (new : List StreamMove) :
    Option (StreamSight τ) → Prop where
  | unseen : s'.view hidden = s.view hidden → openRecords hidden new = [] → Follows setup hidden s s' new none
  | seen {sight : StreamSight τ} : s'.view hidden = (s.view hidden).after setup hidden sight →
    openRecords hidden new = (s.view hidden).record sight → Follows setup hidden s s' new (some sight)

namespace Follows

variable {setup : StreamSetup σ τ} {hidden : String → Bool} {s s' u : EventStream σ τ} {new : List StreamMove}
  {task : StreamTask} {sight : StreamSight τ}

theorem of_unseen (h : s.isUnseen hidden task) (hview : s'.view hidden = s.view hidden)
    (hrecords : openRecords hidden new = []) : Follows setup hidden s s' new (s.glimpse? setup hidden u task) := by
  rw [EventStream.glimpse?, if_pos h]
  exact .unseen hview hrecords

theorem of_seen (h : s.isUnseen hidden task = false) (hsight : u.sight? setup task = some sight)
    (hview : s'.view hidden = (s.view hidden).after setup hidden sight)
    (hrecords : openRecords hidden new = (s.view hidden).record sight) :
    Follows setup hidden s s' new (s.glimpse? setup hidden u task) := by
  rw [EventStream.glimpse?, h, hsight]
  exact .seen hview hrecords

end Follows

namespace EventStream

variable {setup : StreamSetup σ τ} {hidden : String → Bool} {s s' : EventStream σ τ}

theorem view_ext {v : StreamView τ} (hannouncer : s.announcer.outline = v.announcer)
    (hforwarder : s.forwarder.map Forwarder.outline = v.forwarder) (hsampler : s.sampler.map Sampler.outline = v.sampler)
    (hseen : s.samplerSeen = v.samplerSeen) (hphase : s.phase.outline = v.phase)
    (hroot : s.crew.isCancelled s.crew.token = v.isCancelled)
    (hcharges : v.charges = if v.isCancelled then fun _ => none else s.crew.charges hidden) : s.view hidden = v := by
  refine StreamView.ext hannouncer hforwarder hsampler hseen hphase hroot ?_
  rw [hcharges, ← hroot]
  rfl

theorem openRecords_entries {sender : Sender} {events : List Event}
    (h : s'.crew.channel.queue = s.crew.channel.queue ++ events) : openRecords hidden (s.entries s' sender) =
      if sender.source.isHidden hidden then [] else events.map fun event => (sender.source, event.undated) := by
  have hsent : sentRecords (events.map (.entered sender)) = events.map fun event => (sender.source, event.undated) := by
    rw [sentRecords, List.filterMap_map, ← List.filterMap_eq_map]
    rfl
  rw [entries, h, List.drop_left, openRecords, hsent, List.filter_map]
  cases hh : sender.source.isHidden hidden <;> simp [Function.comp_def, hh]

theorem openRecords_kept {sender : Sender} (h : s'.crew.channel.queue = s.crew.channel.queue) :
    openRecords hidden (s.entries s' sender) = [] := by
  rw [entries_kept h]
  rfl

theorem openRecords_sent {sender : Sender} {event : Event}
    (h : s'.crew.channel.queue = s.crew.channel.queue ++ [event]) (hshown : sender.source.isHidden hidden = false) :
    openRecords hidden (s.entries s' sender) = [(sender.source, event.undated)] := by
  simp [openRecords_entries h, hshown]

/-- Who is cancelled while nobody has closed the channel can tell it from a send. -/
theorem Sound.refused_iff (sound : s.Sound setup) {p : Producer} {event : Event} {hub : Hub σ} {poll : SendPoll}
    (h : s.crew.offer p s.crew.token event = some (hub, poll)) :
    s.crew.isCancelled s.crew.token = decide (poll = .refused) := by
  cases hroot : s.crew.isCancelled s.crew.token with
  | true =>
    have hsend := Hub.send_of_offer h
    simp only [Hub.send, hroot, Channel.poll, if_true, Prod.mk.injEq] at hsend
    simp [← hsend.2]
  | false =>
    have hiff := Hub.offer_refused_iff h (sound.opened hroot)
    rw [hroot] at hiff
    simpa using hiff
end EventStream

end LabStream
