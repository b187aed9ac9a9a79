import LabStream.Crew
import LabStream.Proofs.Lists
import LabStream.Proofs.SamplingTurns

namespace LabStream

variable {σ : Type} {runtime : ContainerRuntime σ} {monitor : LinkMonitor σ}

namespace Watcher

/-- A watcher that has let go of its namespace. -/
def parted (w : Watcher) : Watcher := { w with phase := .leaving, links := none }

/-- A watcher whose ticker has fired. -/
def ticked (w : Watcher) (now : Nat) : Watcher := { w with ticker := w.ticker.map (·.fire now) }

/-- What is told of the inventory that a watch begins with. -/
def opening (w : Watcher) (options : WatchOptions) : List LinkReport :=
  if options.initialState then w.table.snapshots.map .snapshot else []

/-- The same watcher, further on. -/
structure Continues (w w' : Watcher) : Prop where
  number : w'.number = w.number
  key : w'.key = w.key
  container : w'.container = w.container
  token : w'.token = w.token

theorem report_eq (w : Watcher) (options : WatchOptions) (reports : List LinkReport) (begins : Bool)
    (now : Nat) (instant : Instant) :
    ∃ phase ticker, w.report options reports begins now instant = { w with phase, ticker } ∧
      (phase = .watching ∨ ∃ event rest, phase = .sending event rest begins) := by
  cases reports with
  | nil => cases begins <;> exact ⟨_, _, rfl, .inl rfl⟩
  | cons r rest => exact ⟨_, _, rfl, .inr ⟨_, _, rfl⟩⟩

theorem report_phase_ne_done (w : Watcher) (options : WatchOptions) (reports : List LinkReport) (begins : Bool)
    (now : Nat) (instant : Instant) : (w.report options reports begins now instant).phase ≠ .done := by
  obtain ⟨phase, ticker, heq, hkind⟩ := w.report_eq options reports begins now instant
  rw [heq]
  rcases hkind with rfl | ⟨_, _, rfl⟩ <;> nofun

theorem afterAttempt_ok {id : String} {attempts now : Nat} {last : Option RuntimeFault}
    {answer : Except RuntimeFault String} {phase : WatchPhase}
    (h : afterAttempt id attempts last now answer = .ok phase) :
    (∃ attempts fault wakeAt, phase = .resolving attempts fault wakeAt) ∨ ∃ path, phase = .opening path := by
  have retry {fault : Option RuntimeFault} (h : (if attempts + 1 < maxAttempts then
      .ok (.resolving (attempts + 1) fault (now + retryDelay.nanos)) else .error (fault.getD (.notReady id))) =
      Except.ok phase) : ∃ attempts fault wakeAt, phase = .resolving attempts fault wakeAt := by
    split at h
    · exact ⟨_, _, _, (Except.ok.inj h).symm⟩
    · cases h
  cases answer with
  | error fault => exact .inl (retry h)
  | ok path =>
    simp only [afterAttempt] at h
    split at h
    · exact .inl (retry h)
    · exact .inr ⟨path, (Except.ok.inj h).symm⟩

theorem Continues.report {w w' : Watcher} (h : w.Continues w') (options : WatchOptions)
    (reports : List LinkReport) (begins : Bool) (now : Nat) (instant : Instant) :
    w.Continues (w'.report options reports begins now instant) := by
  obtain ⟨phase, ticker, heq, -⟩ := w'.report_eq options reports begins now instant
  rw [heq]
  exact ⟨h.number, h.key, h.container, h.token⟩

def heedsCancel (w : Watcher) : Bool :=
  match w.phase with
  | .resolving .. | .opening _ | .watching => true
  | .surveying | .sending .. | .leaving | .done => false

/-- Whether the ticker of a watcher is to fire. -/
def isDue (w : Watcher) (hub : Hub σ) : Bool :=
  match w.ticker with
  | some t => hub.reaches t.due
  | none => false

def isLeaving (w : Watcher) : Bool :=
  match w.phase with
  | .leaving => true
  | _ => false

end Watcher

namespace Hub

/-- The hub after a watcher has closed what it had open. -/
def letGo (monitor : LinkMonitor σ) (hub : Hub σ) (w : Watcher) : Hub σ :=
  match w.links with
  | some (handle, path) =>
    { hub with
      host := (hub.host.perform (.closeLinks path) fun world => (monitor.release handle path world, ())).1 }
  | none => hub

@[simp] theorem letGo_channel (hub : Hub σ) (w : Watcher) : (hub.letGo monitor w).channel = hub.channel := by
  unfold letGo
  split <;> rfl

end Hub

namespace Crew

variable {crew crew' : Crew σ} {w w' : Watcher} {hub : Hub σ}

/-- What one step of a watcher can be: what it makes of the hub and of itself. -/
inductive Turn (runtime : ContainerRuntime σ) (monitor : LinkMonitor σ) (crew : Crew σ) (w : Watcher) :
    Hub σ → Watcher → Prop where
  | cancelled : w.heedsCancel → crew.isCancelled w.token →
    Turn runtime monitor crew w (crew.toHub.letGo monitor w) w.parted
  | resolved {attempts fault wakeAt host answer phase} : w.phase = .resolving attempts fault wakeAt →
    crew.host.perform (.namespacePath w.container.identity) (runtime.namespacePath w.container.identity) =
      (host, answer) →
    Watcher.afterAttempt w.container.identity attempts fault crew.now answer = .ok phase →
    Turn runtime monitor crew w { crew.toHub with host } { w with phase }
  | unresolved {attempts fault wakeAt host answer last} : w.phase = .resolving attempts fault wakeAt →
    crew.host.perform (.namespacePath w.container.identity) (runtime.namespacePath w.container.identity) =
      (host, answer) →
    Watcher.afterAttempt w.container.identity attempts fault crew.now answer = .error last →
    Turn runtime monitor crew w (Hub.letGo monitor { crew.toHub with host } w) w.parted
  | opened {path host handle} : w.phase = .opening path →
    crew.host.perform (.openLinks path) (monitor.openAt path) = (host, .ok handle) →
    Turn runtime monitor crew w { crew.toHub with host }
      { w with phase := .surveying, links := some (handle, path) }
  | unopened {path host fault} : w.phase = .opening path →
    crew.host.perform (.openLinks path) (monitor.openAt path) = (host, .error fault) →
    Turn runtime monitor crew w (Hub.letGo monitor { crew.toHub with host } w) w.parted
  | surveyed {met : Watcher} : w.phase = .surveying →
    met = w.survey ((crew.listLinks monitor w).2.toOption.getD []) crew.now →
    Turn runtime monitor crew w (crew.listLinks monitor w).1.toHub
      (met.report crew.options (met.opening crew.options) true crew.now crew.instant)
  | sent {event rest begins channel} : w.phase = .sending event rest begins →
    channel.queue = crew.channel.queue ++ [event] →
    Turn runtime monitor crew w { crew.toHub with channel }
      (w.report crew.options rest begins crew.now crew.instant)
  | blocked {event rest begins channel} : w.phase = .sending event rest begins →
    channel.queue = crew.channel.queue → Turn runtime monitor crew w { crew.toHub with channel } w
  | refused {event rest begins channel} : w.phase = .sending event rest begins →
    channel.queue = crew.channel.queue →
    Turn runtime monitor crew w (Hub.letGo monitor { crew.toHub with channel } w) w.parted
  | unread {fault} : w.phase = .watching → w.isDue crew.toHub → (crew.listLinks monitor w).2 = .error fault →
    Turn runtime monitor crew w (crew.listLinks monitor w).1.toHub (w.ticked crew.now)
  | read {links} : w.phase = .watching → w.isDue crew.toHub → (crew.listLinks monitor w).2 = .ok links →
    Turn runtime monitor crew w (crew.listLinks monitor w).1.toHub
      (((w.ticked crew.now).readAll links crew.now).1.report crew.options
        ((w.ticked crew.now).readAll links crew.now).2 false crew.now crew.instant)
  | closed {handle path host} : w.phase = .watching → w.links = some (handle, path) →
    crew.host.observe (monitor.nextUpdate handle path) = (host, .closed) →
    Turn runtime monitor crew w (Hub.letGo monitor { crew.toHub with host } w) w.parted
  | learned {handle path host update} : w.phase = .watching → w.links = some (handle, path) →
    crew.host.observe (monitor.nextUpdate handle path) = (host, .update update) →
    Turn runtime monitor crew w { crew.toHub with host }
      ((w.learn update crew.now).1.report crew.options (w.learn update crew.now).2 false crew.now crew.instant)
  | released : w.phase = .leaving → Turn runtime monitor crew w crew.toHub { w with phase := .done }

/-- A crew after a step of a watcher: only one that leaves touches the roster. -/
structure Stepped (crew : Crew σ) (w : Watcher) (hub : Hub σ) (w' : Watcher) (crew' : Crew σ) : Prop where
  hub : crew'.toHub = hub
  options : crew'.options = crew.options
  roster : crew'.roster = if w.isLeaving then crew.roster.release w.key w.number else crew.roster
  watchers : crew'.watchers = (crew.setWatcher w').watchers ∨ w' = w ∧ crew'.watchers = crew.watchers

theorem Stepped.set (h : w.isLeaving = false) (hub : Hub σ) (w' : Watcher) :
    Stepped crew w hub w' ({ crew with toHub := hub }.setWatcher w') :=
  ⟨rfl, rfl, by simp [h, setWatcher], .inl rfl⟩

theorem endWatch_eq (crew : Crew σ) (w : Watcher) :
    crew.endWatch monitor w = { crew with toHub := crew.toHub.letGo monitor w }.setWatcher w.parted := by
  cases hl : w.links <;> simp [endWatch, Hub.letGo, Watcher.parted, hl]

theorem Stepped.endWatch (h : w.isLeaving = false) (hub : Hub σ) :
    Stepped crew w (hub.letGo monitor w) w.parted (Crew.endWatch monitor { crew with toHub := hub } w) := by
  rw [endWatch_eq]
  exact .set h _ _

theorem watch_due (hd : w.isDue crew.toHub) : crew.watch monitor w =
    match crew.listLinks monitor w with
    | (after, .error _) => some (after.setWatcher (w.ticked crew.now))
    | (after, .ok links) => some (after.proceed ((w.ticked crew.now).readAll links after.now).1
        ((w.ticked crew.now).readAll links after.now).2 false) :=
  if_pos hd

theorem watch_idle (hd : w.isDue crew.toHub = false) : crew.watch monitor w =
    match w.links with
    | none => none
    | some (handle, path) =>
      let (host, poll) := crew.host.observe (monitor.nextUpdate handle path)
      let crew := { crew with host }
      match poll with
      | .pending => none
      | .closed => some (crew.endWatch monitor w)
      | .update update => some (crew.proceed (w.learn update crew.now).1 (w.learn update crew.now).2 false) :=
  if_neg (Bool.eq_false_iff.mp hd)

theorem listLinks_keeps (monitor : LinkMonitor σ) (crew : Crew σ) (w : Watcher) :
    ∃ host, (crew.listLinks monitor w).1 = { crew with host } := by
  unfold listLinks
  split <;> exact ⟨_, rfl⟩

theorem watch_turn (runtime : ContainerRuntime σ) (hp : w.phase = .watching) (h : crew.watch monitor w = some crew') :
    ∃ hub w', Turn runtime monitor crew w hub w' ∧ crew' = { crew with toHub := hub }.setWatcher w' := by
  cases hd : w.isDue crew.toHub with
  | true =>
    rw [watch_due hd] at h
    obtain ⟨host, hkeeps⟩ := crew.listLinks_keeps monitor w
    rcases hl : crew.listLinks monitor w with ⟨after, fault | links⟩ <;>
      rw [hl] at h hkeeps <;> cases h <;> subst hkeeps
    · refine ⟨_, _, .unread hp hd (congrArg Prod.snd hl), ?_⟩
      rw [hl]
    · refine ⟨_, _, .read hp hd (congrArg Prod.snd hl), ?_⟩
      rw [hl]
      rfl
  | false =>
    rw [watch_idle hd] at h
    split at h
    · cases h
    next handle path hl =>
      dsimp only at h
      split at h
      · cases h
      next heq =>
        cases h
        exact ⟨_, _, .closed hp hl (Prod.ext rfl heq), endWatch_eq _ w⟩
      next heq =>
        cases h
        exact ⟨_, _, .learned hp hl (Prod.ext rfl heq), rfl⟩

theorem stepWatcher_turn (h : crew.stepWatcher runtime monitor w = some crew') :
    ∃ hub w', Turn runtime monitor crew w hub w' ∧ Stepped crew w hub w' crew' := by
  unfold stepWatcher at h
  cases hp : w.phase <;> rw [hp] at h <;> dsimp only at h
  case done => cases h
  case leaving =>
    cases h
    exact ⟨_, _, .released hp, rfl, rfl, by simp [setWatcher, Watcher.isLeaving, hp], .inl rfl⟩
  case resolving attempts fault wakeAt =>
    have hw : w.isLeaving = false := by simp [Watcher.isLeaving, hp]
    split at h
    next hc =>
      cases h
      exact ⟨_, _, .cancelled (by simp [Watcher.heedsCancel, hp]) hc, .endWatch hw _⟩
    next =>
      split at h
      · cases h
      next =>
        split at h
        next heq =>
          cases h
          exact ⟨_, _, .resolved hp rfl heq, .set hw _ _⟩
        next heq =>
          cases h
          exact ⟨_, _, .unresolved hp rfl heq, .endWatch hw _⟩
  case opening path =>
    have hw : w.isLeaving = false := by simp [Watcher.isLeaving, hp]
    split at h
    next hc =>
      cases h
      exact ⟨_, _, .cancelled (by simp [Watcher.heedsCancel, hp]) hc, .endWatch hw _⟩
    next =>
      split at h
      next heq =>
        cases h
        exact ⟨_, _, .unopened hp heq, .endWatch hw _⟩
      next heq =>
        cases h
        exact ⟨_, _, .opened hp heq, .set hw _ _⟩
  case surveying =>
    have hw : w.isLeaving = false := by simp [Watcher.isLeaving, hp]
    obtain ⟨host, hkeeps⟩ := crew.listLinks_keeps monitor w
    have hturn : Turn runtime monitor crew w _ _ := .surveyed hp rfl
    rcases hl : crew.listLinks monitor w with ⟨after, fault | links⟩ <;>
      rw [hl] at h hkeeps hturn <;> cases h <;> subst hkeeps
    · exact ⟨_, _, hturn, .set hw _ _⟩
    · exact ⟨_, _, hturn, .set hw _ _⟩
  case sending event rest begins =>
    have hw : w.isLeaving = false := by simp [Watcher.isLeaving, hp]
    split at h
    next => cases h
    next heq =>
      cases h
      obtain ⟨channel, rfl, hq⟩ := Hub.offer_eq_some heq
      exact ⟨_, _, .blocked hp (by simpa using hq), rfl, rfl, by simp [hw], .inr ⟨rfl, rfl⟩⟩
    next heq =>
      cases h
      obtain ⟨channel, rfl, hq⟩ := Hub.offer_eq_some heq
      exact ⟨_, _, .refused hp (by simpa using hq), .endWatch hw _⟩
    next heq =>
      cases h
      obtain ⟨channel, rfl, hq⟩ := Hub.offer_eq_some heq
      exact ⟨_, _, .sent hp (by simpa using hq), .set hw _ _⟩
  case watching =>
    have hw : w.isLeaving = false := by simp [Watcher.isLeaving, hp]
    split at h
    next hc =>
      cases h
      exact ⟨_, _, .cancelled (by simp [Watcher.heedsCancel, hp]) hc, .endWatch hw _⟩
    next =>
      obtain ⟨hub, w', hturn, rfl⟩ := watch_turn runtime hp h
      exact ⟨hub, w', hturn, .set hw hub w'⟩

theorem Turn.continues (h : Turn runtime monitor crew w hub w') : w.Continues w' := by
  cases h with
  | surveyed _ hmet =>
    subst hmet
    refine Watcher.Continues.report ?_ _ _ _ _ _
    exact ⟨rfl, rfl, rfl, rfl⟩
  | sent | read | learned =>
    refine Watcher.Continues.report ?_ _ _ _ _ _
    exact ⟨rfl, rfl, rfl, rfl⟩
  | cancelled | resolved | unresolved | opened | unopened | blocked | refused | unread | closed | released =>
    exact ⟨rfl, rfl, rfl, rfl⟩

/-- The step with which a watcher leaves is its last one. -/
theorem Turn.completes (h : Turn runtime monitor crew w hub w') :
    w.phase ≠ .done ∧ (w'.phase = .done ↔ w.isLeaving) := by
  cases h with
  | released hp => simp [Watcher.isLeaving, hp]
  | cancelled hheeds =>
    cases hp : w.phase <;> simp [Watcher.heedsCancel, hp] at hheeds <;>
      simp [Watcher.parted, Watcher.isLeaving, hp]
  | resolved hp _ hphase =>
    rcases Watcher.afterAttempt_ok hphase with ⟨_, _, _, rfl⟩ | ⟨_, rfl⟩ <;> simp [Watcher.isLeaving, hp]
  | opened hp | blocked hp => simp [Watcher.isLeaving, hp]
  | unread hp => simp [Watcher.isLeaving, Watcher.ticked, hp]
  | unresolved hp | unopened hp | refused hp | closed hp => simp [Watcher.isLeaving, Watcher.parted, hp]
  | surveyed hp | sent hp | read hp | learned hp =>
    simp [Watcher.isLeaving, hp, Watcher.report_phase_ne_done]

theorem watcher?_setWatcher (hw : crew.watcher? w'.number = some w) :
    (crew.setWatcher w').watcher? w'.number = some w' := by
  have hn : w.number = w'.number := by simpa using List.find?_some hw
  have hp : ((fun v : Watcher => decide (v.number = w'.number)) ∘
      fun v => if v.number = w'.number then w' else v) = fun v => decide (v.number = w'.number) := by
    funext v
    by_cases h : v.number = w'.number <;> simp [h]
  unfold watcher? at hw
  rw [watcher?, setWatcher, List.find?_map, hp, hw, Option.map_some, if_pos hn]

theorem Stepped.watcher? (h : Stepped crew w hub w' crew') (hc : w.Continues w')
    (hw : crew.watcher? w.number = some w) : crew'.watcher? w.number = some w' := by
  rcases h.watchers with hset | ⟨rfl, hsame⟩
  · rw [← hc.number] at hw ⊢
    rw [Crew.watcher?, hset]
    exact watcher?_setWatcher hw
  · rw [Crew.watcher?, hsame]
    exact hw

/-- A step only adds to the queue. -/
theorem Turn.queue (h : Turn runtime monitor crew w hub w') : crew.channel.queue <+: hub.channel.queue := by
  obtain ⟨host, hkeeps⟩ := crew.listLinks_keeps monitor w
  cases h with
  | sent _ hq => exact hq ▸ List.prefix_append _ _
  | blocked _ hq => exact hq ▸ List.prefix_refl _
  | refused _ hq => simp [hq]
  | surveyed | unread | read => simp [hkeeps]
  | cancelled | unresolved | unopened | closed => simp
  | resolved | opened | learned | released => exact List.prefix_refl _

end Crew

end LabStream
