import Mathlib.Control.Monad.Basic
import LabStream.Proofs.StreamTurns

namespace LabStream

variable {σ τ : Type} {runtime : ContainerRuntime σ} {monitor : LinkMonitor σ}

def Event.undated (e : Event) : Event := { e with timestamp := .ofNanos 0 }

theorem LinkReport.undated_event (r : LinkReport) (c : Container) (labLabel : String) (now : Instant) :
    (r.event c labLabel now).undated = r.event c labLabel (.ofNanos 0) := by
  cases r <;> rfl

def WatchPhase.undated : WatchPhase → WatchPhase
  | resolving attempts fault _ => .resolving attempts fault 0
  | sending event rest begins => .sending event.undated rest begins
  | phase => phase

/-- What a watcher sees in a turn, and when it matters. A subscription that is closed has no update. -/
inductive WatchSight where
  | nothing
  | path (answer : Except RuntimeFault String)
  | opened (done : Bool)
  | links (found : Except WatchFault (List Link)) (now : Nat)
  | update (update : Option LinkUpdate) (now : Nat)
  deriving DecidableEq

namespace Watcher

/-- A watcher but for what tells it from others of its kind: its number, its token and its open namespace, when
it wakes up and the time of what it sends. -/
def outline (w : Watcher) : Watcher :=
  { w with
    number := 0
    token := []
    phase := w.phase.undated
    links := none
    ticker := none }

/-- The event that a watcher sends in its turn. -/
def said (w : Watcher) : List Event :=
  match w.phase with
  | .sending event _ _ => [event]
  | _ => []

/-- What becomes of a watcher that nobody has dismissed, by what it sees. -/
def react (options : WatchOptions) (w : Watcher) (sight : WatchSight) : Watcher :=
  match w.phase, sight with
  | .resolving attempts fault _, .path answer =>
    match afterAttempt w.container.identity attempts fault 0 answer with
    | .ok phase => { w with phase }
    | .error _ => w.parted
  | .opening _, .opened done =>
    if done then { w with phase := .surveying } else w.parted
  | .surveying, .links found now =>
    let met := w.survey (found.toOption.getD []) now
    met.report options (met.opening options) true now (.ofNanos 0)
  | .sending _ rest begins, _ => w.report options rest begins 0 (.ofNanos 0)
  | .watching, .links (.ok links) now =>
    (w.readAll links now).1.report options (w.readAll links now).2 false now (.ofNanos 0)
  | .watching, .update none _ => w.parted
  | .watching, .update (some update) now =>
    (w.learn update now).1.report options (w.learn update now).2 false now (.ofNanos 0)
  | .leaving, _ => { w with phase := .done }
  | _, _ => w

def after (options : WatchOptions) (w : Watcher) (sight : WatchSight) : Watcher := (w.react options sight).outline

theorem outline_outline (w : Watcher) : w.outline.outline = w.outline := by
  cases hp : w.phase <;> simp [outline, WatchPhase.undated, hp, Event.undated]

/-- The time of an attempt matters only to when the next one comes. -/
theorem afterAttempt_undated (id : String) (attempts : Nat) (fault : Option RuntimeFault) (now now' : Nat)
    (answer : Except RuntimeFault String) : (afterAttempt id attempts fault now answer).map WatchPhase.undated =
      (afterAttempt id attempts fault now' answer).map WatchPhase.undated := by
  cases answer with
  | error =>
    simp only [afterAttempt]
    split <;> simp [Except.map, WatchPhase.undated]
  | ok path =>
    simp only [afterAttempt]
    split
    · split <;> simp [Except.map, WatchPhase.undated]
    · rfl

theorem outline_report {w w' : Watcher} (h : w.outline = w'.outline) (options : WatchOptions)
    (reports : List LinkReport) (begins : Bool) (now now' : Nat) (instant instant' : Instant) :
    (w.report options reports begins now instant).outline = (w'.report options reports begins now' instant').outline := by
  simp only [outline, mk.injEq] at h
  cases reports with
  | nil => cases begins <;> simp [report, outline, beginWatch, WatchPhase.undated, h]
  | cons r rest => simp [report, outline, WatchPhase.undated, r.undated_event, h]

theorem outline_container (w : Watcher) : w.outline.container = w.container := rfl

theorem outline_phase {w : Watcher} {phase : WatchPhase} (h : w.phase = phase) : w.outline.phase = phase.undated := by
  rw [← h]
  rfl

/-- What becomes of a watcher can be told from its outline. -/
theorem after_outline (options : WatchOptions) (w : Watcher) (sight : WatchSight) :
    w.outline.after options sight = (w.react options sight).outline := by
  unfold after react
  cases hp : w.phase with
  | resolving attempts fault wakeAt =>
    rw [outline_phase hp]
    cases sight with
    | path answer =>
      dsimp only [WatchPhase.undated, outline_container]
      cases afterAttempt w.container.identity attempts fault 0 answer <;> rfl
    | nothing | opened | links | update => exact w.outline_outline
  | opening path =>
    rw [outline_phase hp]
    cases sight with
    | opened done => cases done <;> rfl
    | nothing | path | links | update => exact w.outline_outline
  | surveying =>
    rw [outline_phase hp]
    cases sight with
    | links found now => exact outline_report (w.survey (found.toOption.getD []) now).outline_outline _ _ _ _ _ _ _
    | nothing | path | opened | update => exact w.outline_outline
  | sending event rest begins =>
    rw [outline_phase hp]
    cases sight <;> exact outline_report w.outline_outline _ _ _ _ _ _ _
  | watching =>
    rw [outline_phase hp]
    cases sight with
    | links found now =>
      cases found with
      | error fault => exact w.outline_outline
      | ok links => exact outline_report (w.readAll links now).1.outline_outline _ _ _ _ _ _ _
    | update update now =>
      cases update with
      | none => rfl
      | some update => exact outline_report (w.learn update now).1.outline_outline _ _ _ _ _ _ _
    | nothing | path | opened => exact w.outline_outline
  | leaving =>
    rw [outline_phase hp]
    cases sight <;> rfl
  | done =>
    rw [outline_phase hp]
    cases sight <;> exact w.outline_outline

theorem outline_isLeaving (w : Watcher) : w.outline.isLeaving = w.isLeaving := by
  cases hp : w.phase <;> simp [isLeaving, outline, WatchPhase.undated, hp]

theorem outline_said (w : Watcher) : w.outline.said = w.said.map Event.undated := by
  unfold said
  cases hp : w.phase <;> simp [outline, WatchPhase.undated, hp]

theorem mem_said {w : Watcher} {event : Event} : event ∈ w.said ↔ ∃ rest begins, w.phase = .sending event rest begins := by
  unfold said
  cases hp : w.phase with
  | sending sent rest begins => simp [eq_comm]
  | resolving | opening | surveying | watching | leaving | done => simp

theorem said_eq_nil {w : Watcher} (h : ∀ event rest begins, w.phase ≠ .sending event rest begins) : w.said = [] := by
  refine List.eq_nil_iff_forall_not_mem.mpr fun event hmem => ?_
  obtain ⟨rest, begins, hp⟩ := mem_said.mp hmem
  exact h event rest begins hp

end Watcher

namespace Hub

variable {hub hub' : Hub σ} {p : Producer} {token : Token} {event : Event} {poll : SendPoll}

/-- A send is refused on a token that is cancelled, and on no other while somebody receives. -/
theorem offer_refused_iff (h : hub.offer p token event = some (hub', poll)) (hopen : hub.channel.isOpen) :
    poll = .refused ↔ hub.isCancelled token := by
  have hsend := congrArg Prod.snd (send_of_offer h)
  change (hub.channel.poll p (hub.isCancelled token) event).2 = poll at hsend
  rw [← hsend, Channel.poll_refused_iff]
  simp [hopen]

/-- Whether a producer with an event to send would get in line for room. -/
def getsInLine (hub : Hub σ) (p : Producer) (token : Token) (event : Event) : Bool :=
  match hub.offer p token event with
  | some (_, .blocked) => true
  | _ => false

theorem getsInLine_of_offer (h : hub.offer p token event = some (hub', poll)) :
    hub.getsInLine p token event = decide (poll = .blocked) := by
  unfold getsInLine
  rw [h]
  cases poll <;> rfl

theorem getsInLine_iff : hub.getsInLine p token event ↔ ∃ after, hub.offer p token event = some (after, .blocked) := by
  constructor
  · intro h
    unfold getsInLine at h
    split at h
    next after heq => exact ⟨after, heq⟩
    next => cases h
  · rintro ⟨after, heq⟩
    rw [getsInLine_of_offer heq]
    rfl

end Hub

def LinkPoll.update? : LinkPoll → Option LinkUpdate
  | update u => some u
  | pending | closed => none

namespace Crew

/-- What a watcher sees if its turn comes. -/
def sight (runtime : ContainerRuntime σ) (monitor : LinkMonitor σ) (crew : Crew σ) (w : Watcher) : WatchSight :=
  match w.phase with
  | .resolving .. => .path (runtime.namespacePath w.container.identity crew.host.world).2
  | .opening path => .opened (monitor.openAt path crew.host.world).2.toBool
  | .surveying => .links (crew.listLinks monitor w).2 crew.now
  | .watching =>
    if w.isDue crew.toHub then .links (crew.listLinks monitor w).2 crew.now
    else match w.links with
      | some (handle, path) => .update (monitor.nextUpdate handle path crew.host.world).2.update? crew.now
      | none => .nothing
  | _ => .nothing

variable {crew crew' : Crew σ} {w w' : Watcher} {hub : Hub σ}

/-- What a turn makes of a watcher is what it makes of its outline. -/
structure Seen (runtime : ContainerRuntime σ) (monitor : LinkMonitor σ) (crew : Crew σ) (w w' : Watcher)
    (crew' : Crew σ) : Prop where
  set : crew'.watchers = (crew.setWatcher w').watchers
  continues : w.Continues w'
  outline : w'.outline = w.outline.after crew.options (crew.sight runtime monitor w)

theorem Seen.of_set {w' : Watcher} (hset : crew' = { crew with toHub := hub }.setWatcher w')
    (hcontinues : w.Continues w')
    (houtline : w'.outline = (w.react crew.options (crew.sight runtime monitor w)).outline) :
    Seen runtime monitor crew w w' crew' := by
  subst hset
  exact ⟨rfl, hcontinues, houtline.trans (w.after_outline _ _).symm⟩

theorem Seen.outline_of_stepped {w₁ : Watcher} (seen : Seen runtime monitor crew w w₁ crew')
    (hs : Stepped crew w hub w' crew') (hcont : w.Continues w') (hw : crew.watcher? w.number = some w) :
    w'.outline = w.outline.after crew.options (crew.sight runtime monitor w) := by
  have hset : crew'.watcher? w.number = some w₁ := by
    rw [← seen.continues.number] at hw ⊢
    rw [watcher?, seen.set]
    exact watcher?_setWatcher hw
  rw [hs.watcher? hcont hw] at hset
  rw [Option.some.inj hset, seen.outline]

theorem watch_seen (hp : w.phase = .watching) (h : crew.watch monitor w = some crew') :
    ∃ w', Seen runtime monitor crew w w' crew' := by
  obtain ⟨host, hkeeps⟩ := crew.listLinks_keeps monitor w
  cases hd : w.isDue crew.toHub with
  | true =>
    have hsight : crew.sight runtime monitor w = .links (crew.listLinks monitor w).2 crew.now := by
      simp [sight, hp, hd]
    rw [watch_due hd] at h
    rcases hl : crew.listLinks monitor w with ⟨after, fault | links⟩ <;>
      rw [hl] at h hkeeps hsight <;> cases h <;> subst hkeeps
    · refine ⟨_, .of_set rfl ⟨rfl, rfl, rfl, rfl⟩ ?_⟩
      simp only [hsight, Watcher.react, hp]
      rfl
    · have hsame : ((w.ticked crew.now).readAll links crew.now).1.outline = (w.readAll links crew.now).1.outline := rfl
      refine ⟨_, .of_set rfl (.report ?_ _ _ _ _ _) ?_⟩
      · exact ⟨rfl, rfl, rfl, rfl⟩
      · simp only [hsight, Watcher.react, hp]
        exact Watcher.outline_report hsame _ _ _ _ _ _ _
  | false =>
    rw [watch_idle hd] at h
    split at h
    · cases h
    next handle path hl =>
      have hsight : crew.sight runtime monitor w =
          .update (monitor.nextUpdate handle path crew.host.world).2.update? crew.now := by
        simp [sight, hp, hd, hl]
      dsimp only [Traced.observe] at h
      split at h
      · cases h
      next heq =>
        cases h
        refine ⟨_, .of_set (endWatch_eq _ w) ⟨rfl, rfl, rfl, rfl⟩ ?_⟩
        simp only [hsight, heq, LinkPoll.update?, Watcher.react, hp]
      next update heq =>
        cases h
        refine ⟨_, .of_set rfl (.report ?_ _ _ _ _ _) ?_⟩
        · exact ⟨rfl, rfl, rfl, rfl⟩
        · simp only [hsight, heq, LinkPoll.update?, Watcher.react, hp]
          exact Watcher.outline_report rfl _ _ _ _ _ _ _

/-- A watcher that has not been dismissed does what follows from what it sees. -/
theorem stepWatcher_quiet (h : crew.stepWatcher runtime monitor w = some crew') (hlive : crew.isCancelled w.token = false)
    (hquiet : ∀ event rest begins, w.phase ≠ .sending event rest begins) :
    ∃ w', Seen runtime monitor crew w w' crew' := by
  unfold stepWatcher at h
  cases hp : w.phase <;> rw [hp] at h <;> dsimp only at h
  case done => cases h
  case leaving =>
    cases h
    refine ⟨_, rfl, ⟨rfl, rfl, rfl, rfl⟩, ?_⟩
    rw [Watcher.after_outline]
    simp only [Watcher.react, hp]
  case resolving attempts fault wakeAt =>
    rw [if_neg (by simp [hlive])] at h
    split at h
    · cases h
    · have hsight : crew.sight runtime monitor w =
          .path (runtime.namespacePath w.container.identity crew.host.world).2 := by
        simp [sight, hp]
      dsimp only [Traced.perform] at h
      split at h
      next heq =>
        cases h
        refine ⟨_, .of_set rfl ⟨rfl, rfl, rfl, rfl⟩ ?_⟩
        have hlater := Watcher.afterAttempt_undated w.container.identity attempts fault crew.now 0
          (runtime.namespacePath w.container.identity crew.host.world).2
        rw [heq] at hlater
        simp only [hsight, Watcher.react, hp]
        split
        next heq' =>
          rw [heq'] at hlater
          simp [Watcher.outline, Except.ok.inj hlater]
        next heq' =>
          rw [heq'] at hlater
          cases hlater
      next heq =>
        cases h
        refine ⟨_, .of_set (endWatch_eq _ w) ⟨rfl, rfl, rfl, rfl⟩ ?_⟩
        have hlater := Watcher.afterAttempt_undated w.container.identity attempts fault crew.now 0
          (runtime.namespacePath w.container.identity crew.host.world).2
        rw [heq] at hlater
        simp only [hsight, Watcher.react, hp]
        split
        next heq' =>
          rw [heq'] at hlater
          cases hlater
        next => rfl
  case opening path =>
    rw [if_neg (by simp [hlive])] at h
    have hsight : crew.sight runtime monitor w = .opened (monitor.openAt path crew.host.world).2.toBool := by
      simp [sight, hp]
    dsimp only [Traced.perform] at h
    split at h
    next heq =>
      cases h
      refine ⟨_, .of_set (endWatch_eq _ w) ⟨rfl, rfl, rfl, rfl⟩ ?_⟩
      have hfound := (Prod.mk.inj heq).2
      simp only [hsight, hfound, Watcher.react, hp]
      rfl
    next heq =>
      cases h
      refine ⟨_, .of_set rfl ⟨rfl, rfl, rfl, rfl⟩ ?_⟩
      have hfound := (Prod.mk.inj heq).2
      simp only [hsight, hfound, Watcher.react, hp]
      rfl
  case surveying =>
    obtain ⟨host, hkeeps⟩ := crew.listLinks_keeps monitor w
    have hsight : crew.sight runtime monitor w = .links (crew.listLinks monitor w).2 crew.now := by
      simp [sight, hp]
    rcases hl : crew.listLinks monitor w with ⟨after, found⟩
    rw [hl] at h hkeeps hsight
    cases h
    subst hkeeps
    refine ⟨_, .of_set rfl (.report ?_ _ _ _ _ _) ?_⟩
    · exact ⟨rfl, rfl, rfl, rfl⟩
    · simp only [hsight, Watcher.react, hp]
      cases found <;> exact Watcher.outline_report rfl _ _ _ _ _ _ _
  case sending event rest begins => exact absurd hp (hquiet event rest begins)
  case watching =>
    rw [if_neg (by simp [hlive])] at h
    exact watch_seen hp h

/-- A watcher that sends what there is room for goes on as it follows from what it has sent. -/
theorem stepWatcher_said {event : Event} {rest : List LinkReport} {begins : Bool}
    (hp : w.phase = .sending event rest begins) (h : crew.stepWatcher runtime monitor w = some crew')
    (hlive : crew.isCancelled w.token = false) (hopen : crew.channel.isOpen)
    (hroom : crew.getsInLine (.watcher w.number) w.token event = false) :
    crew'.channel.queue = crew.channel.queue ++ [event] ∧ ∃ w', Seen runtime monitor crew w w' crew' := by
  unfold stepWatcher at h
  rw [hp] at h
  dsimp only at h
  split at h
  · cases h
  next ho =>
    rw [Hub.getsInLine_of_offer ho] at hroom
    cases hroom
  next ho =>
    have hrefused := (Hub.offer_refused_iff ho hopen).mp rfl
    exact absurd hrefused (by simp [hlive])
  next ho =>
    cases h
    obtain ⟨channel, rfl, hqueue, -⟩ := Hub.offer_sent ho
    refine ⟨hqueue, _, .of_set rfl (.report ?_ _ _ _ _ _) ?_⟩
    · exact ⟨rfl, rfl, rfl, rfl⟩
    · simp only [Watcher.react, hp]
      exact Watcher.outline_report rfl _ _ _ _ _ _ _

/-- A watcher that has not been dismissed says what it has to say and does what follows from what it sees, unless
it gets in line for room. -/
theorem stepWatcher_seen (h : crew.stepWatcher runtime monitor w = some crew')
    (hlive : crew.isCancelled w.token = false) (hopen : crew.channel.isOpen)
    (hroom : w.said.any (crew.getsInLine (.watcher w.number) w.token) = false) :
    crew'.channel.queue = crew.channel.queue ++ w.said ∧ ∃ w', Seen runtime monitor crew w w' crew' := by
  by_cases hsends : ∃ event rest begins, w.phase = .sending event rest begins
  · obtain ⟨event, rest, begins, hp⟩ := hsends
    have hsaid : w.said = [event] := by simp [Watcher.said, hp]
    rw [hsaid] at hroom ⊢
    exact stepWatcher_said hp h hlive hopen (by simpa using hroom)
  · have hquiet : ∀ event rest begins, w.phase ≠ .sending event rest begins := by simpa using hsends
    rw [Watcher.said_eq_nil hquiet, List.append_nil]
    refine ⟨?_, stepWatcher_quiet h hlive hquiet⟩
    rcases stepWatcher_queue h with ⟨event, rest, begins, hp, -⟩ | ⟨hsame, -⟩
    · exact absurd hp (hquiet event rest begins)
    · exact hsame

/-- A watcher that gets in line for room leaves everything else as it is. -/
theorem stepWatcher_inLine (h : crew.stepWatcher runtime monitor w = some crew')
    (hline : w.said.any (crew.getsInLine (.watcher w.number) w.token)) :
    ∃ channel, crew' = { crew with channel } ∧ channel.queue = crew.channel.queue := by
  obtain ⟨event, hmem, hline⟩ := List.any_eq_true.mp hline
  obtain ⟨rest, begins, hp⟩ := Watcher.mem_said.mp hmem
  obtain ⟨hub, ho⟩ := Hub.getsInLine_iff.mp hline
  simp only [stepWatcher, hp, ho, Option.some.injEq] at h
  obtain ⟨channel, rfl, hqueue, -⟩ := Hub.offer_unsent ho nofun
  exact ⟨channel, h.symm, hqueue⟩

end Crew

end LabStream
