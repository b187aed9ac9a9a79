import LabStream.DockerRuntime
import LabStream.Proofs.Heed
import LabStream.Proofs.WatcherRun

namespace LabStream

variable {σ : Type} {runtime : ContainerRuntime σ} {monitor : LinkMonitor σ}

namespace RuntimeEvent

variable {e : RuntimeEvent} {events : List RuntimeEvent} {id : String}

/-- Whether an event decides if a container is watched. -/
def Decides (e : RuntimeEvent) (id : String) : Prop := e.Starts id ∨ e.Stops id

instance (e : RuntimeEvent) (id : String) : Decidable (e.Decides id) := inferInstanceAs (Decidable (_ ∨ _))

/-- Whether the last of some events that decides on a container starts it. -/
def LastStarts (events : List RuntimeEvent) (id : String) : Prop :=
  ∃ before e after, events = before ++ e :: after ∧ e.Starts id ∧ ∀ later ∈ after, ¬ later.Decides id

theorem Starts.not_stops (h : e.Starts id) : ¬ e.Stops id := by
  rintro ⟨-, hstop, -⟩
  obtain ⟨-, hstart, -⟩ := h
  simp only [List.mem_cons, List.not_mem_nil, or_false] at hstart
  rcases hstart with heq | heq | heq <;> rw [heq] at hstop <;> revert hstop <;> decide

theorem lastStarts_append_starts (h : e.Starts id) : LastStarts (events ++ [e]) id :=
  ⟨events, e, [], rfl, h, nofun⟩

/-- After an event that decides, no event before it is the last one that does. -/
theorem not_lastStarts_append_stops (h : e.Stops id) : ¬ LastStarts (events ++ [e]) id := by
  rintro ⟨before, first, after, heq, hstarts, hlast⟩
  rcases append_eq_append_cons heq with ⟨mid, -, rfl⟩ | ⟨mid, -, hmid⟩
  · exact hlast e (List.mem_append_right _ (List.mem_singleton_self e)) (.inr h)
  · obtain ⟨-, hcons⟩ | ⟨_, ⟨⟩⟩ := List.singleton_eq_append_iff.mp hmid
    obtain rfl := (List.cons.inj hcons).1
    exact hstarts.not_stops h

theorem lastStarts_append_other (h : ¬ e.Decides id) : LastStarts (events ++ [e]) id ↔ LastStarts events id := by
  constructor
  · rintro ⟨before, first, after, heq, hstarts, hlast⟩
    rcases append_eq_append_cons heq with ⟨mid, rfl, rfl⟩ | ⟨mid, -, hmid⟩
    · exact ⟨before, first, mid, rfl, hstarts, fun later hlater => hlast later (List.mem_append_left _ hlater)⟩
    · obtain ⟨-, hcons⟩ | ⟨_, ⟨⟩⟩ := List.singleton_eq_append_iff.mp hmid
      obtain rfl := (List.cons.inj hcons).1
      exact absurd (.inl hstarts) h
  · rintro ⟨before, first, after, rfl, hstarts, hlast⟩
    refine ⟨before, first, after ++ [e], by simp, hstarts, fun later hlater => ?_⟩
    rcases List.mem_append.mp hlater with hmem | hmem
    · exact hlast later hmem
    · exact List.mem_singleton.mp hmem ▸ h

theorem Starts.order (h : e.Starts id) (hnamed : id ≠ "") (labLabel : String) :
    ∃ c, Crew.orderOf labLabel e = some (.begin c) ∧ c.identity = id := by
  obtain ⟨hcontainer, haction, rfl⟩ := h
  simp only [List.mem_cons, List.not_mem_nil, or_false] at haction
  have hsome : (e.container? labLabel).isSome := by
    unfold container?
    dsimp only
    rw [if_neg fun hempty => hnamed (by simpa using hempty.1), Option.isSome_some]
  obtain ⟨c, hc⟩ := Option.isSome_iff_exists.mp hsome
  refine ⟨c, ?_, RuntimeEvent.identity_of_container? hc⟩
  simp only [Crew.orderOf, hcontainer, Bool.not_true, Bool.false_eq_true, if_false, if_pos haction, hc,
    Option.map_some]

end RuntimeEvent

namespace Crew

variable {crew : Crew σ} {key other : String}

theorem mem_start (crew : Crew σ) (c : Container) :
    key ∈ (crew.start c).1.roster.entries ↔ key ∈ crew.roster.entries ∨ key ≠ "" ∧ c.identity = key := by
  by_cases ha : crew.roster.Admits c.identity
  · rw [start_admitted ha, Roster.enter_admitted ha, Std.ExtTreeMap.mem_insert,
      Std.LawfulEqCmp.compare_eq_iff_eq]
    constructor
    · rintro (rfl | hmem)
      · exact .inr ⟨ha.1, rfl⟩
      · exact .inl hmem
    · rintro (hmem | ⟨-, heq⟩)
      · exact .inr hmem
      · exact .inl heq
  · rw [start_refused ha]
    constructor
    · exact .inl
    · rintro (hmem | ⟨hne, rfl⟩)
      · exact hmem
      · exact not_not.mp fun hout => ha ⟨hne, hout⟩

theorem mem_dismiss (crew : Crew σ) (other : String) :
    key ∈ (crew.dismiss other).1.roster.entries ↔ other ≠ key ∧ key ∈ crew.roster.entries := by
  rw [dismiss_roster, Roster.take, Std.ExtTreeMap.mem_erase, ne_eq,
    Std.LawfulEqCmp.compare_eq_iff_eq]

theorem mem_startWatchers (crew : Crew σ) (containers : List Container) :
    key ∈ (EventStream.startWatchers crew containers).roster.entries ↔
      key ∈ crew.roster.entries ∨ key ≠ "" ∧ ∃ c ∈ containers, c.isRunning ∧ c.identity = key := by
  have hfold (cs : List Container) : key ∈ (cs.foldl (fun crew c => (crew.start c).1) crew).roster.entries ↔
      key ∈ crew.roster.entries ∨ key ≠ "" ∧ ∃ c ∈ cs, c.identity = key := by
    induction cs generalizing crew with
    | nil => simp
    | cons c cs ih =>
      rw [List.foldl_cons, ih, mem_start]
      simp only [List.exists_mem_cons_iff]
      tauto
  rw [EventStream.startWatchers, hfold]
  simp only [List.mem_filter, and_assoc]

theorem obey_starts (crew : Crew σ) {e : RuntimeEvent} (h : e.Starts key) (hnamed : key ≠ "") :
    ∃ c, c.identity = key ∧ crew.obey e = ((crew.start c).1, none) := by
  obtain ⟨c, horder, hidentity⟩ := h.order hnamed crew.options.labLabel
  exact ⟨c, hidentity, by rw [obey, horder]⟩

theorem mem_obey_of_starts {e : RuntimeEvent} (h : e.Starts key) (hnamed : key ≠ "") :
    key ∈ (crew.obey e).1.roster.entries := by
  obtain ⟨c, hidentity, hobey⟩ := crew.obey_starts h hnamed
  rw [hobey]
  exact (crew.mem_start c).mpr (.inr ⟨hnamed, hidentity⟩)

theorem not_mem_obey_of_stops {e : RuntimeEvent} (h : e.Stops key) : key ∉ (crew.obey e).1.roster.entries := by
  rw [obey_stops h]
  exact fun hmem => ((crew.mem_dismiss key).mp hmem).1 rfl

theorem getElem?_obey_of_other {e : RuntimeEvent} (h : ¬ e.Decides key) :
    (crew.obey e).1.roster.entries[key]? = crew.roster.entries[key]? := by
  unfold obey
  split
  · rfl
  next c horder =>
    by_cases ha : crew.roster.Admits c.identity
    · have hne : c.identity ≠ key := fun heq => h (.inl (heq ▸ starts_of_order horder))
      rw [start_admitted ha, Roster.getElem?_enter ha, if_neg hne]
    · rw [start_refused ha]
  next other horder =>
    have hne : other ≠ key := fun heq => h (.inr (heq ▸ stops_of_order horder))
    rw [dismiss_roster, Roster.getElem?_take, if_neg hne]

theorem mem_obey_of_other {e : RuntimeEvent} (h : ¬ e.Decides key) :
    key ∈ (crew.obey e).1.roster.entries ↔ key ∈ crew.roster.entries := by
  rw [Std.ExtTreeMap.mem_iff_isSome_getElem?, getElem?_obey_of_other h, Std.ExtTreeMap.mem_iff_isSome_getElem?]

/-- A container without a name is never entered. -/
theorem unnamed_obey (h : "" ∉ crew.roster.entries) (e : RuntimeEvent) : "" ∉ (crew.obey e).1.roster.entries := by
  unfold obey
  split
  · exact h
  · rw [mem_start]
    rintro (hmem | ⟨hne, -⟩)
    · exact h hmem
    · exact hne rfl
  · rw [mem_dismiss]
    exact fun hmem => h hmem.2

end Crew

/-- A crew that watches the running ones of some containers and has followed some events since. Its watchers are
at work all the while; only one that was dismissed may come to its end. -/
inductive Patrol (runtime : ContainerRuntime σ) (monitor : LinkMonitor σ) (containers : List Container) :
    Crew σ → List RuntimeEvent → Prop where
  | begin {crew : Crew σ} : crew.roster = .empty →
    Patrol runtime monitor containers (EventStream.startWatchers crew containers) []
  | event {crew : Crew σ} {events : List RuntimeEvent} (e : RuntimeEvent) :
    Patrol runtime monitor containers crew events →
    Patrol runtime monitor containers (crew.obey e).1 (events ++ [e])
  | watcher {crew crew' : Crew σ} {events : List RuntimeEvent} {w : Watcher} :
    Patrol runtime monitor containers crew events → crew.watcher? w.number = some w →
    crew.stepWatcher runtime monitor w = some crew' →
    (w.phase = .leaving → crew.roster.entries[w.key]? ≠ some w.number) →
    Patrol runtime monitor containers crew' events
  | around {crew : Crew σ} {events : List RuntimeEvent} (hub : Hub σ) :
    Patrol runtime monitor containers crew events →
    Patrol runtime monitor containers { crew with toHub := hub } events

namespace Patrol

variable {containers : List Container} {crew crew' : Crew σ} {events : List RuntimeEvent} {key : String}

theorem roster_stepWatcher {w : Watcher} (hs : crew.stepWatcher runtime monitor w = some crew')
    (hstays : w.phase = .leaving → crew.roster.entries[w.key]? ≠ some w.number) : crew'.roster = crew.roster := by
  obtain ⟨hub, w', -, hstepped⟩ := Crew.stepWatcher_turn hs
  rw [hstepped.roster]
  split
  next hleaving =>
    have hphase : w.phase = .leaving := by
      unfold Watcher.isLeaving at hleaving
      split at hleaving
      next hp => exact hp
      next => cases hleaving
    rw [Roster.release, if_neg (hstays hphase)]
  next => rfl

theorem unnamed (patrol : Patrol runtime monitor containers crew events) : "" ∉ crew.roster.entries := by
  induction patrol with
  | begin hempty =>
    rw [Crew.mem_startWatchers, hempty]
    rintro (hmem | ⟨hne, -⟩)
    · simp [Roster.empty] at hmem
    · exact hne rfl
  | event e _ ih => exact Crew.unnamed_obey ih e
  | watcher _ _ hs hstays ih => rwa [roster_stepWatcher hs hstays]
  | around _ _ ih => exact ih

theorem mem_roster_iff (patrol : Patrol runtime monitor containers crew events) (hnamed : key ≠ "") :
    key ∈ crew.roster.entries ↔ RuntimeEvent.LastStarts events key ∨
      (∀ e ∈ events, ¬ e.Decides key) ∧ ∃ c ∈ containers, c.isRunning ∧ c.identity = key := by
  induction patrol with
  | begin hempty =>
    have hno : ¬ RuntimeEvent.LastStarts [] key := by
      rintro ⟨before, e, after, heq, -⟩
      simp at heq
    rw [Crew.mem_startWatchers, hempty]
    simp [Roster.empty, hno, hnamed]
  | @event crew events e _ ih =>
    by_cases hstarts : e.Starts key
    · exact iff_of_true (Crew.mem_obey_of_starts hstarts hnamed)
        (.inl (RuntimeEvent.lastStarts_append_starts hstarts))
    · have hmem : e ∈ events ++ [e] := List.mem_append_right _ (List.mem_singleton_self e)
      by_cases hstops : e.Stops key
      · refine iff_of_false (Crew.not_mem_obey_of_stops hstops) ?_
        rintro (hlast | ⟨hnone, -⟩)
        · exact RuntimeEvent.not_lastStarts_append_stops hstops hlast
        · exact hnone e hmem (.inr hstops)
      · have hother : ¬ e.Decides key := not_or.mpr ⟨hstarts, hstops⟩
        have hnone : (∀ other ∈ events ++ [e], ¬ other.Decides key) ↔
            ∀ other ∈ events, ¬ other.Decides key := by
          constructor
          · exact fun hall other hin => hall other (List.mem_append_left _ hin)
          · intro hall other hin
            rcases List.mem_append.mp hin with hin | hin
            · exact hall other hin
            · exact List.mem_singleton.mp hin ▸ hother
        rw [Crew.mem_obey_of_other hother, ih, RuntimeEvent.lastStarts_append_other hother, hnone]
  | watcher _ _ hs hstays ih => rw [roster_stepWatcher hs hstays, ih]
  | around _ _ ih => exact ih

end Patrol

namespace DockerRecord

variable {summary message : Json} {summaries messages : List Json} {containers : List Container}

/-- The id of the container that a message of the feed speaks of. -/
def actorIdOf (message : Json) : String := textOf ((message.field? "Actor").getD .null) "ID"

/-- A container as a listing gives it: what its summary tells, with the process that was found for it. -/
def Lists (summary : Json) (c : Container) : Prop := ∃ pid, c = { containerOf summary with pid }

theorem Lists.identity {c : Container} (h : Lists summary c) : c.identity = textOf summary "Id" := by
  obtain ⟨pid, rfl⟩ := h
  by_cases hid : textOf summary "Id" = ""
  · simp [Container.identity, containerOf, hid, shortId]
  · simp [Container.identity, containerOf, hid]

theorem Lists.isRunning {c : Container} (h : Lists summary c) : c.isRunning = (containerOf summary).isRunning := by
  obtain ⟨pid, rfl⟩ := h
  rfl

/-- A message without the full id of a container has no short one either. -/
theorem fullId_eventOf (message : Json) : (eventOf message).fullId = actorIdOf message := by
  by_cases hid : actorIdOf message = ""
  · simp only [actorIdOf] at hid
    simp [RuntimeEvent.fullId, eventOf, actorIdOf, hid, shortId]
  · simp only [actorIdOf] at hid
    simp [RuntimeEvent.fullId, eventOf, actorIdOf, hid]

theorem exists_listed_iff (h : List.Forall₂ Lists summaries containers) {key : String} :
    (∃ c ∈ containers, c.isRunning ∧ c.identity = key) ↔
      ∃ summary ∈ summaries, (containerOf summary).isRunning ∧ textOf summary "Id" = key := by
  induction h with
  | nil => simp
  | cons hlists _ ih => simp only [List.exists_mem_cons_iff, ih, hlists.isRunning, hlists.identity]

end DockerRecord

namespace DockerSocket

variable (socket : DockerSocket σ) (f : ContainerFilter)

theorem withPid_lists (state : σ × List Container) (summary : Json) :
    ∃ c, DockerRecord.Lists summary c ∧
      (socket.withPid f state (DockerRecord.containerOf summary)).2 = state.2 ++ [c] := by
  unfold withPid
  split
  · split
    next pid _ => exact ⟨_, ⟨pid, rfl⟩, rfl⟩
    next => exact ⟨_, ⟨_, rfl⟩, rfl⟩
  · exact ⟨_, ⟨_, rfl⟩, rfl⟩

/-- Each container of a listing is that of the summary in its place. -/
theorem foldl_withPid_lists (summaries : List Json) (state : σ × List Container) :
    ∃ containers, List.Forall₂ DockerRecord.Lists summaries containers ∧
      ((summaries.map DockerRecord.containerOf).foldl (socket.withPid f) state).2 = state.2 ++ containers := by
  induction summaries generalizing state with
  | nil => exact ⟨[], .nil, (List.append_nil _).symm⟩
  | cons summary summaries ih =>
    obtain ⟨c, hlists, hfirst⟩ := withPid_lists socket f state summary
    obtain ⟨containers, hrest, hall⟩ := ih (socket.withPid f state (DockerRecord.containerOf summary))
    refine ⟨c :: containers, .cons hlists hrest, ?_⟩
    rw [List.map_cons, List.foldl_cons, hall, hfirst, List.append_assoc, List.singleton_append]

variable {socket f}

theorem list_lists {world world' : σ} {containers : List Container}
    (h : socket.list f world = (world', .ok containers)) :
    ∃ summaries, List.Forall₂ DockerRecord.Lists summaries containers := by
  unfold list at h
  dsimp only at h
  split at h
  · cases h
  next value _ =>
    obtain ⟨containers', hlists, heq⟩ := foldl_withPid_lists socket f value.items
      ((socket.ask (.list f) world).1, [])
    obtain ⟨-, hcontainers⟩ := Prod.mk.inj h
    refine ⟨value.items, ?_⟩
    rwa [← Except.ok.inj hcontainers, heq]

end DockerSocket

/-- The containers that are watched are those whose last start is later than their last end, and those that were
listed as running and that no event is about. A container has one key, whichever way it is come upon. -/
theorem Patrol.follows_lifecycle {crew : Crew σ} {summaries messages : List Json} {containers : List Container}
    (listed : List.Forall₂ DockerRecord.Lists summaries containers)
    (patrol : Patrol runtime monitor containers crew (messages.map DockerRecord.eventOf)) :
    (∀ key, key ∈ crew.roster.entries ↔ key ≠ "" ∧
      (RuntimeEvent.LastStarts (messages.map DockerRecord.eventOf) key ∨
        (∀ message ∈ messages, ¬ (DockerRecord.eventOf message).Decides key) ∧
          ∃ summary ∈ summaries, (DockerRecord.containerOf summary).isRunning ∧
            DockerRecord.textOf summary "Id" = key)) ∧
    List.Forall₂ (fun summary c => c.identity = DockerRecord.textOf summary "Id") summaries containers ∧
    ∀ message labLabel,
      (∀ c, Crew.orderOf labLabel (DockerRecord.eventOf message) = some (.begin c) →
        c.identity = DockerRecord.actorIdOf message) ∧
      ∀ key, Crew.orderOf labLabel (DockerRecord.eventOf message) = some (.stop key) →
        key = DockerRecord.actorIdOf message := by
  refine ⟨fun key => ?_, listed.imp fun _ _ hlists => hlists.identity,
    fun message labLabel => ⟨fun c horder => ?_, fun key horder => ?_⟩⟩
  · by_cases hkey : key = ""
    · subst hkey
      exact iff_of_false patrol.unnamed fun h => h.1 rfl
    · rw [patrol.mem_roster_iff hkey, and_iff_right hkey, List.forall_mem_map,
        DockerRecord.exists_listed_iff listed]
  · rw [← DockerRecord.fullId_eventOf]
    exact (starts_of_order horder).2.2.symm
  · rw [← DockerRecord.fullId_eventOf]
    exact (stops_of_order horder).2.2.symm

namespace ScriptedWorld

/-- Of two containers the first runs when they are listed; then the other one starts and the first one ends. -/
def summariesOfTwo : List Json :=
  [.record [("Id", .text "c"), ("State", .text "running")], .record [("Id", .text "d"), ("State", .text "exited")]]

def messagesOfTwo : List Json :=
  [.record [("Type", .text "container"), ("Action", .text "Start"), ("Actor", .record [("ID", .text "d")])],
    .record [("Type", .text "container"), ("Action", .text "die"), ("Actor", .record [("ID", .text "c")])]]

def listedOfTwo : List Container := summariesOfTwo.map DockerRecord.containerOf

def crewOfTwo : Crew ScriptedWorld :=
  (messagesOfTwo.map DockerRecord.eventOf).foldl (fun crew e => (crew.obey e).1)
    (EventStream.startWatchers (.idle .empty ⟨"lab", true, none⟩) listedOfTwo)

theorem follows_lifecycle_of_two : "d" ∈ crewOfTwo.roster.entries ∧ "c" ∉ crewOfTwo.roster.entries := by
  have listed : List.Forall₂ DockerRecord.Lists summariesOfTwo listedOfTwo :=
    .cons ⟨none, rfl⟩ (.cons ⟨none, rfl⟩ .nil)
  have patrol : Patrol (runtime "") monitor listedOfTwo crewOfTwo (messagesOfTwo.map DockerRecord.eventOf) :=
    .event _ (.event _ (.begin rfl))
  obtain ⟨hkeys, -⟩ := patrol.follows_lifecycle listed
  constructor
  · refine (hkeys "d").mpr ⟨by decide, .inl ⟨[], _, _, rfl, ?_, ?_⟩⟩
    · decide +kernel
    · decide +kernel
  · intro hmem
    rcases ((hkeys "c").mp hmem).2 with hlast | ⟨hnone, -⟩
    · have hended : RuntimeEvent.LastStarts ([_] ++ [_]) "c" := hlast
      exact RuntimeEvent.not_lastStarts_append_stops (by decide +kernel) hended
    · exact hnone _ (List.mem_cons_of_mem _ List.mem_cons_self) (by decide +kernel)

end ScriptedWorld

end LabStream
