import LabStream.Proofs.StreamRun

namespace LabStream

variable {σ τ : Type} {runtime : ContainerRuntime σ} {monitor : LinkMonitor σ}

/-- An event of the end of a container's life, by its name. -/
def RuntimeEvent.Stops (e : RuntimeEvent) (id : String) : Prop :=
  e.isContainer ∧ lowerText e.action ∈ ["die", "stop", "destroy", "kill"] ∧ e.fullId = id

def RuntimeEvent.Starts (e : RuntimeEvent) (id : String) : Prop :=
  e.isContainer ∧ lowerText e.action ∈ ["start", "unpause", "restart"] ∧ e.fullId = id

instance (e : RuntimeEvent) (id : String) : Decidable (e.Stops id) := inferInstanceAs (Decidable (_ ∧ _))

instance (e : RuntimeEvent) (id : String) : Decidable (e.Starts id) := inferInstanceAs (Decidable (_ ∧ _))

theorem RuntimeEvent.Stops.order {e : RuntimeEvent} {id : String} (h : e.Stops id) (labLabel : String) :
    Crew.orderOf labLabel e = some (.stop id) := by
  obtain ⟨hcontainer, haction, rfl⟩ := h
  simp only [List.mem_cons, List.not_mem_nil, or_false] at haction
  have hnot : ¬(lowerText e.action = "start" ∨ lowerText e.action = "unpause" ∨ lowerText e.action = "restart") := by
    rcases haction with h | h | h | h <;> rw [h] <;> decide
  simp only [Crew.orderOf, hcontainer, Bool.not_true, Bool.false_eq_true, if_false, if_neg hnot, if_pos haction]

/-- The container that an event tells of is known by the id that the event carries. -/
theorem RuntimeEvent.identity_of_container? {labLabel : String} {e : RuntimeEvent} {c : Container}
    (h : e.container? labLabel = some c) : c.identity = e.fullId := by
  unfold container? at h
  dsimp only at h
  split at h
  · cases h
  · obtain rfl := Option.some.inj h
    by_cases hid : e.fullId = ""
    · have hactor : e.actorId = "" := by
        unfold fullId at hid
        split at hid
        · exact hid
        next hne => exact absurd hid (by simpa using hne)
      simp [Container.identity, hid, hactor, shortId]
    · simp [Container.identity, hid]

/-- What an event can bid a crew to do: to begin or to dismiss the watcher of a container, or nothing. -/
inductive RuntimeEvent.Bids (e : RuntimeEvent) : Option Crew.Order → Prop where
  | begin {c : Container} : e.Starts c.identity → Bids e (some (.begin c))
  | stop {id : String} : e.Stops id → Bids e (some (.stop id))
  | nothing : Bids e none

theorem RuntimeEvent.bids_orderOf (e : RuntimeEvent) (labLabel : String) : e.Bids (Crew.orderOf labLabel e) := by
  unfold Crew.orderOf
  split
  · exact .nothing
  next hcontainer =>
    have hcontainer : e.isContainer := by simpa using hcontainer
    dsimp only
    split
    next haction =>
      cases hc : e.container? labLabel with
      | none => exact .nothing
      | some c => exact .begin ⟨hcontainer, by simpa using haction, (identity_of_container? hc).symm⟩
    next =>
      split
      next haction => exact .stop ⟨hcontainer, by simpa using haction, rfl⟩
      next => exact .nothing

/-- A watcher is begun on an event only for the container that the event names. -/
theorem starts_of_order {labLabel : String} {e : RuntimeEvent} {c : Container}
    (h : Crew.orderOf labLabel e = some (.begin c)) : e.Starts c.identity := by
  have hbids := e.bids_orderOf labLabel
  rw [h] at hbids
  cases hbids with
  | begin hstarts => exact hstarts

/-- A watcher is dismissed on an event only for the container that the event names. -/
theorem stops_of_order {labLabel : String} {e : RuntimeEvent} {id : String}
    (h : Crew.orderOf labLabel e = some (.stop id)) : e.Stops id := by
  have hbids := e.bids_orderOf labLabel
  rw [h] at hbids
  cases hbids with
  | stop hstops => exact hstops

theorem LinkReport.event_kind (r : LinkReport) (c : Container) (labLabel : String) (now : Instant) :
    (r.event c labLabel now).kind = .interface := by
  cases r <;> rfl

theorem LinkReport.event_actorFullId (r : LinkReport) (c : Container) (labLabel : String) (now : Instant) :
    (r.event c labLabel now).actorFullId = c.id := by
  cases r <;> rfl

namespace Watcher

/-- Whether a watcher has nothing to send but what is about an interface of its container. -/
def SendsOwn (w : Watcher) : Prop :=
  ∀ event rest begins, w.phase = .sending event rest begins →
    event.kind = .interface ∧ event.actorFullId = w.container.id

/-- A watcher that sends nothing more: it is done, or its token is cancelled. -/
def Quiet (cancelled : Cancellations) (w : Watcher) : Prop := w.phase = .done ∨ cancelled.covers w.token

theorem SendsOwn.report (w : Watcher) (options : WatchOptions) (reports : List LinkReport) (begins : Bool)
    (now : Nat) (instant : Instant) : (w.report options reports begins now instant).SendsOwn := by
  intro event rest begins' hp
  cases reports with
  | nil => cases begins <;> cases hp
  | cons r rest =>
    cases hp
    exact ⟨r.event_kind _ _ _, r.event_actorFullId _ _ _⟩

variable {w w' : Watcher} {cancelled more : Cancellations}

theorem Quiet.mono (h : w.Quiet cancelled) (hmore : cancelled ⊆ more) : w.Quiet more :=
  h.imp_right (Cancellations.covers_mono hmore)

theorem quiet_of_mem (h : w.token ∈ cancelled) : w.Quiet cancelled :=
  .inr (Cancellations.covers_of_mem h)

end Watcher

namespace Crew

variable {crew crew' : Crew σ} {hub : Hub σ} {w w' : Watcher}

theorem Turn.sendsOwn (h : Turn runtime monitor crew w hub w') (hw : w.SendsOwn) : w'.SendsOwn := by
  cases h with
  | surveyed _ hmet =>
    subst hmet
    exact .report _ _ _ _ _ _
  | sent | read | learned => exact .report _ _ _ _ _ _
  | blocked => exact hw
  | resolved _ _ hphase =>
    intro event rest begins hp
    rcases Watcher.afterAttempt_ok hphase with ⟨_, _, _, rfl⟩ | ⟨_, rfl⟩ <;> cases hp
  | unread hp =>
    intro event rest begins hsends
    rw [Watcher.ticked, hp] at hsends
    cases hsends
  | cancelled | unresolved | opened | unopened | refused | closed | released => intro event rest begins hp; cases hp

theorem Stepped.mem_follows (hs : Stepped crew w hub w' crew') (h : Turn runtime monitor crew w hub w')
    (hu : (crew.watchers.map (·.number)).Nodup) (hw : w ∈ crew.watchers) {v : Watcher} (hv : v ∈ crew'.watchers) :
    v = w' ∨ v ∈ crew.watchers ∧ v.number ≠ w.number :=
  (hs.mem_watchers h.continues hu hw).mp hv

theorem Turn.quiet {cancelled : Cancellations} (h : Turn runtime monitor crew w hub w') (hw : w.Quiet cancelled) :
    w'.Quiet cancelled := by
  rcases hw with hdone | hcovered
  · exact absurd hdone h.completes.1
  · exact .inr (h.continues.token.symm ▸ hcovered)

theorem obey_stops {e : RuntimeEvent} {id : String} (h : e.Stops id) : crew.obey e = crew.dismiss id := by
  rw [obey, h.order]

/-- The watcher that is begun on an event is that of the container that the event names. -/
theorem mem_obey {e : RuntimeEvent} {v : Watcher} (hv : v ∈ (crew.obey e).1.watchers) :
    v ∈ crew.watchers ∨ e.Starts v.key ∧ (crew.obey e).1.watchers = crew.watchers ++ [v] := by
  unfold obey at hv ⊢
  split at hv
  · exact .inl hv
  next c horder =>
    by_cases ha : crew.roster.Admits c.identity
    · simp only [start_admitted ha, List.mem_append, List.mem_singleton] at hv ⊢
      rcases hv with hv | rfl
      · exact .inl hv
      · exact .inr ⟨starts_of_order horder, rfl⟩
    · rw [start_refused ha] at hv
      exact .inl hv
  · rw [dismiss_watchers] at hv
    exact .inl hv

/-- Every watcher of a crew has the token of its number and the key of its container, sends nothing but what
is about that container, and is quiet unless the roster has it. -/
structure Heeded (cancelled : Cancellations) (crew : Crew σ) : Prop where
  token {w : Watcher} : w ∈ crew.watchers → w.token = crew.watcherToken w.number
  key {w : Watcher} : w ∈ crew.watchers → w.key = w.container.identity
  sendsOwn {w : Watcher} : w ∈ crew.watchers → w.SendsOwn
  quiet {w : Watcher} : w ∈ crew.watchers → crew.roster.entries[w.key]? ≠ some w.number → w.Quiet cancelled

namespace Heeded

variable {cancelled more : Cancellations} {moves : List CrewMove}

theorem mono (h : crew.Heeded cancelled) (hmore : cancelled ⊆ more) : crew.Heeded more where
  token := h.token
  key := h.key
  sendsOwn := h.sendsOwn
  quiet hw hout := (h.quiet hw hout).mono hmore

theorem around (h : crew.Heeded cancelled) {hub : Hub σ} (htoken : hub.token = crew.token) :
    Heeded cancelled { crew with toHub := hub } where
  token hw := by rw [h.token hw, watcherToken, watcherToken, htoken]
  key := h.key
  sendsOwn := h.sendsOwn
  quiet := h.quiet

theorem start (h : crew.Heeded cancelled) (c : Container) : (crew.start c).1.Heeded cancelled := by
  by_cases ha : crew.roster.Admits c.identity
  · rw [start_admitted ha]
    have hmem {w : Watcher} (hw : w ∈ crew.watchers ++ [.fresh crew.roster.nextNumber c.identity c
        (crew.watcherToken crew.roster.nextNumber) crew.now]) : w ∈ crew.watchers ∨
        w = .fresh crew.roster.nextNumber c.identity c (crew.watcherToken crew.roster.nextNumber) crew.now := by
      simpa using hw
    refine ⟨fun hw => ?_, fun hw => ?_, fun hw => ?_, fun {w} hw hout => ?_⟩
    · rcases hmem hw with hw | rfl
      · exact h.token hw
      · rfl
    · rcases hmem hw with hw | rfl
      · exact h.key hw
      · rfl
    · rcases hmem hw with hw | rfl
      · exact h.sendsOwn hw
      · intro event rest begins hp
        cases hp
    · rw [Roster.getElem?_enter ha] at hout
      rcases hmem hw with hw | rfl
      · refine h.quiet hw fun hentry => hout ?_
        rw [if_neg (ha.ne hentry), hentry]
      · exact absurd (if_pos rfl) hout
  · rw [start_refused ha]
    exact h

theorem stop (h : crew.Heeded cancelled) (key : String) :
    (crew.dismiss key).1.Heeded ((crew.dismiss key).1.cancelled ++ cancelled) := by
  have hwatchers := crew.dismiss_watchers key
  refine ⟨fun hw => ?_, fun hw => ?_, fun hw => ?_, fun {w} hw hout => ?_⟩ <;> rw [hwatchers] at hw
  · rw [h.token hw, watcherToken, watcherToken, dismiss_token]
  · exact h.key hw
  · exact h.sendsOwn hw
  · rw [dismiss_roster, Roster.getElem?_take] at hout
    by_cases hentry : crew.roster.entries[w.key]? = some w.number
    · have hkey : key = w.key := by
        by_contra hne
        rw [if_neg hne] at hout
        exact hout hentry
      have hmem : w.token ∈ (crew.dismiss key).1.cancelled := by
        rw [dismiss_cancelled, hkey, hentry, h.token hw]
        exact List.mem_cons_self
      exact Watcher.quiet_of_mem (List.mem_append_left _ hmem)
    · exact (h.quiet hw hentry).mono (List.subset_append_right _ _)

theorem shutdown (h : crew.Heeded cancelled) :
    crew.dismissAll.1.Heeded (crew.dismissAll.1.cancelled ++ cancelled) := by
  refine ⟨h.token, h.key, h.sendsOwn, fun {w} hw _ => ?_⟩
  by_cases hentry : crew.roster.entries[w.key]? = some w.number
  · have hmem : w.token ∈ crew.dismissAll.1.cancelled :=
      mem_dismissAll.mpr (.inr ⟨w.number, Roster.mem_drain hentry, (h.token hw).symm⟩)
    exact Watcher.quiet_of_mem (List.mem_append_left _ hmem)
  · exact (h.quiet hw hentry).mono (List.subset_append_right _ _)

theorem watcher (h : crew.Heeded cancelled) (hu : (crew.watchers.map (·.number)).Nodup)
    (hw : w ∈ crew.watchers) (ht : Turn runtime monitor crew w hub w') (hs : Stepped crew w hub w' crew') :
    crew'.Heeded cancelled := by
  have hcont := ht.continues
  have hnumber (number : Nat) : crew'.watcherToken number = crew.watcherToken number := by
    rw [watcherToken, watcherToken, hs.hub, ht.tokens.1]
  refine ⟨fun hv => ?_, fun hv => ?_, fun hv => ?_, fun {v} hv hout => ?_⟩
  · rcases hs.mem_follows ht hu hw hv with rfl | ⟨hv, -⟩
    · rw [hnumber, hcont.token, hcont.number, h.token hw]
    · rw [hnumber, h.token hv]
  · rcases hs.mem_follows ht hu hw hv with rfl | ⟨hv, -⟩
    · rw [hcont.key, hcont.container, h.key hw]
    · exact h.key hv
  · rcases hs.mem_follows ht hu hw hv with rfl | ⟨hv, -⟩
    · exact ht.sendsOwn (h.sendsOwn hw)
    · exact h.sendsOwn hv
  · rw [hs.roster] at hout
    rcases hs.mem_follows ht hu hw hv with rfl | ⟨hv, hne⟩
    · rw [hcont.key, hcont.number] at hout
      cases hl : w.isLeaving with
      | true => exact .inl (ht.completes.2.mpr hl)
      | false =>
        rw [hl, if_neg Bool.false_ne_true] at hout
        exact ht.quiet (h.quiet hw hout)
    · refine h.quiet hv fun hentry => hout ?_
      split
      · rw [Roster.getElem?_release, if_neg, hentry]
        rintro ⟨hkey, hown⟩
        rw [← hkey, hown] at hentry
        exact hne (Option.some.inj hentry).symm
      · exact hentry

/-- What a crew moves on to is heeded with all that has been cancelled on the way. -/
theorem path {moves : List CrewMove} (h : crew.Heeded cancelled) (run : CrewRun runtime monitor crew moves)
    (path : CrewPath runtime monitor crew crew') : crew'.Heeded (crew'.cancelled ++ cancelled) := by
  induction path with
  | refl => exact h.mono (List.subset_append_right _ _)
  | @move mid after _ before hstep htoken hgrows ih =>
    obtain ⟨_, run⟩ := run.path before
    have hmore : mid.cancelled ++ cancelled ⊆ after.cancelled ++ cancelled :=
      List.append_subset.mpr ⟨List.Subset.trans hgrows (List.subset_append_left _ _), List.subset_append_right _ _⟩
    cases hstep with
    | start c => exact (ih.start c).mono hmore
    | stop key => exact (ih.stop key).mono (List.append_subset.mpr ⟨List.subset_append_left _ _, hmore⟩)
    | shutdown => exact ih.shutdown.mono (List.append_subset.mpr ⟨List.subset_append_left _ _, hmore⟩)
    | watcher hw hs =>
      obtain ⟨hub, w', hturn, hstepped⟩ := stepWatcher_turn hs
      exact (ih.watcher run.kept.nodup (mem_of_watcher? hw).1 hturn hstepped).mono hmore
    | around hub => exact (ih.around htoken).mono hmore

/-- When an event of the end of a container is obeyed, all watchers of the container are quiet. -/
theorem quiet_of_stops (h : crew.Heeded cancelled) {e : RuntimeEvent} {id : String} (hstops : e.Stops id)
    (hw : w ∈ (crew.obey e).1.watchers) (hkey : w.key = id) : w.Quiet ((crew.obey e).1.cancelled ++ cancelled) := by
  rw [obey_stops hstops] at hw ⊢
  refine (h.stop id).quiet hw ?_
  rw [dismiss_roster, Roster.getElem?_take, if_pos hkey.symm]
  nofun

end Heeded

end Crew

theorem StreamRun.heeded {setup : StreamSetup σ τ} {s : EventStream σ τ} {moves : List StreamMove}
    (run : StreamRun setup s moves) : s.crew.Heeded s.crew.cancelled := by
  induction run with
  | start host origin cancelled =>
    obtain ⟨-, hwatchers⟩ := EventStream.start_crew setup host origin cancelled
    constructor <;> intro w hw <;> simp [hwatchers] at hw
  | turn _ run h ih =>
    obtain ⟨_, crewRun⟩ := run.crewRun
    have hpath := (EventStream.turned h).path
    exact (ih.path crewRun hpath).mono
      (List.append_subset.mpr ⟨List.Subset.refl _, hpath.cancelled_subset⟩)
  | @unaware s _ _ _ run _ h ih =>
    obtain ⟨_, crewRun⟩ := run.crewRun
    have hunaware : s.unaware.crew.Heeded s.crew.cancelled := ih.around rfl
    exact (hunaware.path (crewRun.move (.around _)) (EventStream.turned h).path).around rfl
  | around _ _ _ _ ih => exact (ih.mono (List.subset_append_right _ _)).around rfl

end LabStream
