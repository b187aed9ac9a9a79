import LabStream.Proofs.AsciiWords
import LabStream.Proofs.LifecycleHistory
import LabStream.Proofs.Reingestion

namespace LabStream

variable {σ : Type}

namespace EventKind

theorem name_ofName (name : String) : (ofName name).name = lowerText name := name_ofLower _

theorem name_ofName_eq_container_iff (name : String) :
    (ofName name).name = "container" ↔ lowerAscii name = "container" := by
  rw [name_ofName, lowerText_eq_iff (by decide)]

theorem ofName_eq_container_iff (name : String) : ofName name = .container ↔ lowerAscii name = "container" := by
  rw [← name_ofName_eq_container_iff]
  constructor
  · intro h
    rw [h]
    rfl
  · intro h
    rw [name_ofName] at h
    rw [ofName, h]
    rfl

end EventKind

namespace Event

variable {record : Event} {type : String}

/-- The type that a JSON line shows. -/
def shownType? (line : String) : Option String :=
  ((Json.parse line).toOption.bind (·.field? "type")).bind Json.text?

/-- Whether a record is printed with a type, in JSON lines and in plain lines. -/
def PrintsAs (record : Event) (type : String) : Prop :=
  shownType? (record.line .json) = some type ∧
    ∃ rest, record.line .plain = record.timestamp.fullStamp ++ " " ++ type ++ " " ++ rest

theorem shownType?_line (record : Event) : shownType? (record.line .json) = some record.kind.name := by
  have hparse : Json.parse (record.line .json) = .ok (.record (record.jsonFields record.timestamp.briefStamp)) :=
    record.parse_jsonLine _
  rw [shownType?, hparse]
  exact record.text_of_jsonFields _ ("type", record.kind.name) (List.mem_cons_of_mem _ List.mem_cons_self)

theorem printsAs_iff : record.PrintsAs type ↔ record.kind.name = type := by
  rw [PrintsAs, shownType?_line, Option.some.injEq]
  refine ⟨And.left, fun h => ⟨h, record.action ++ " " ++ record.actorColumn ++ record.attributeColumn ++ "\n", ?_⟩⟩
  subst h
  simp only [line, stampedLine, plainLine, String.append_assoc]

/-- A record that tells of the start of a container. -/
def TellsStart (record : Event) (id : String) : Prop :=
  record.PrintsAs "container" ∧ record.action ∈ ["start", "unpause", "restart"] ∧ record.actorFullId = id

/-- A record that tells of the end of a container. -/
def TellsEnd (record : Event) (id : String) : Prop :=
  record.PrintsAs "container" ∧ record.action ∈ ["die", "stop", "destroy", "kill"] ∧ record.actorFullId = id

def Tells (record : Event) (id : String) : Prop := record.TellsStart id ∨ record.TellsEnd id

end Event

namespace RuntimeEvent

variable {e : RuntimeEvent} {record : Event} {id : String}

/-- A record with the type, the action and the actor of a runtime event. -/
structure ToldIn (e : RuntimeEvent) (record : Event) : Prop where
  kind : record.kind = .ofName e.kind
  action : record.action = lowerText e.action
  actorFullId : record.actorFullId = e.fullId

theorem toldIn_toEvent (e : RuntimeEvent) (attrs : Attributes) (now : Instant) : e.ToldIn (e.toEvent attrs now) :=
  ⟨rfl, rfl, rfl⟩

theorem ToldIn.printsAs_iff (h : e.ToldIn record) : record.PrintsAs "container" ↔ e.isContainer := by
  rw [Event.printsAs_iff, h.kind, EventKind.name_ofName_eq_container_iff, isContainer, decide_eq_true_iff]

theorem ToldIn.tellsStart_iff (h : e.ToldIn record) : record.TellsStart id ↔ e.Starts id := by
  rw [Event.TellsStart, h.printsAs_iff, h.action, h.actorFullId, Starts]

theorem ToldIn.tellsEnd_iff (h : e.ToldIn record) : record.TellsEnd id ↔ e.Stops id := by
  rw [Event.TellsEnd, h.printsAs_iff, h.action, h.actorFullId, Stops]

theorem ToldIn.tells_iff (h : e.ToldIn record) : record.Tells id ↔ e.Decides id :=
  or_congr h.tellsStart_iff h.tellsEnd_iff

end RuntimeEvent

/-- What a crew does about an event, by the record of the event alone. -/
structure Crew.ActsOn (crew : Crew σ) (record : Event) (crew' : Crew σ) (awaited : Option Nat) : Prop where
  /-- A container that starts gets a watcher if it has a name and no watcher yet. -/
  begun {key : String} : record.TellsStart key → crew.roster.Admits key →
    awaited = none ∧ ∃ w, w.key = key ∧ crew'.watchers = crew.watchers ++ [w] ∧
      crew'.roster.entries[key]? = some w.number
  kept {key : String} : record.TellsStart key → ¬ crew.roster.Admits key → crew' = crew ∧ awaited = none
  /-- The watcher of a container that ends is taken out and cancelled, and its end is awaited. -/
  ended {key : String} : record.TellsEnd key → key ∉ crew'.roster.entries ∧ awaited = crew.roster.entries[key]? ∧
    ∀ number ∈ awaited, crew'.isCancelled (crew.watcherToken number)
  elsewhere {key : String} : ¬ record.Tells key → crew'.roster.entries[key]? = crew.roster.entries[key]?
  idle : (∀ key, ¬ record.Tells key) → crew' = crew ∧ awaited = none

namespace Crew

variable {crew : Crew σ} {e : RuntimeEvent} {record : Event} {key : String}

theorem obey_refused (h : e.Starts key) (ha : ¬ crew.roster.Admits key) : crew.obey e = (crew, none) := by
  unfold obey
  split
  · rfl
  next c horder =>
    have hidentity : key = c.identity := h.2.2.symm.trans (starts_of_order horder).2.2
    rw [start_refused (hidentity ▸ ha)]
  next other horder =>
    have hother : key = other := h.2.2.symm.trans (stops_of_order horder).2.2
    exact absurd (hother ▸ stops_of_order horder) h.not_stops

theorem obey_idle (h : ∀ key, ¬ e.Decides key) : crew.obey e = (crew, none) := by
  unfold obey
  split
  · rfl
  next c horder => exact absurd (.inl (starts_of_order horder)) (h c.identity)
  next key horder => exact absurd (.inr (stops_of_order horder)) (h key)

theorem isCancelled_dismiss {number : Nat} (h : crew.roster.entries[key]? = some number) :
    (crew.dismiss key).1.isCancelled (crew.watcherToken number) := by
  refine Cancellations.covers_of_mem ?_
  rw [dismiss_cancelled, h]
  exact List.mem_cons_self

/-- A crew follows an event just as the record of the event tells it. -/
theorem obey_actsOn (crew : Crew σ) (h : e.ToldIn record) :
    crew.ActsOn record (crew.obey e).1 (crew.obey e).2 where
  begun hstart ha := by
    obtain ⟨c, rfl, hobey⟩ := crew.obey_starts (h.tellsStart_iff.mp hstart) ha.1
    rw [hobey, start_admitted ha]
    refine ⟨rfl, .fresh crew.roster.nextNumber c.identity c (crew.watcherToken crew.roster.nextNumber) crew.now,
      rfl, rfl, ?_⟩
    rw [Roster.getElem?_enter ha, if_pos rfl]
    rfl
  kept hstart ha := by
    rw [obey_refused (h.tellsStart_iff.mp hstart) ha]
    exact ⟨rfl, rfl⟩
  ended {key} hend := by
    have hstops := h.tellsEnd_iff.mp hend
    refine ⟨not_mem_obey_of_stops hstops, ?_⟩
    rw [obey_stops hstops, dismiss_snd]
    exact ⟨rfl, fun number hnumber => isCancelled_dismiss hnumber⟩
  elsewhere hother := getElem?_obey_of_other (mt h.tells_iff.mpr hother)
  idle hidle := by
    rw [obey_idle fun key => mt h.tells_iff.mpr (hidle key)]
    exact ⟨rfl, rfl⟩

end Crew

namespace Forwarder

variable {runtime : ContainerRuntime σ} {crew : Crew σ} {e : RuntimeEvent}

theorem enrich_asks_iff {filter : ContainerFilter} :
    (∃ crew' answerAt, enrich runtime crew e = (crew', .asking e filter answerAt)) ↔
      e.isContainer ∧ Enrichment.filter? e.attributes e.fullId e.name = some filter := by
  rw [← Option.ite_none_right_eq_some, enrich]
  cases if e.isContainer then Enrichment.filter? e.attributes e.fullId e.name else none with
  | none => exact iff_of_false nofun nofun
  | some asked =>
    constructor
    · rintro ⟨_, _, heq⟩
      cases heq
      rfl
    · rintro ⟨⟩
      exact ⟨_, _, rfl⟩

theorem meet_other (h : ¬ e.isContainer) :
    meet runtime crew e = (crew, .sending (e.toEvent e.attributes crew.instant)) := by
  have hidle : ∀ key, ¬ e.Decides key := by
    rintro key (hstarts | hstops)
    · exact h hstarts.1
    · exact h hstops.1
  rw [meet, Crew.obey_idle hidle]
  simp only [enrich, if_neg h]

end Forwarder

/-- The two tests for an event about a container agree, whatever letters its kind is written in. So a forwarder that
takes an event does just what the record of the event tells: if it is printed with the type of a container, the watch
of the container follows it and the runtime is asked to fill its gaps; with any other type, the event is passed on as
it is, and no more. -/
theorem RuntimeEvent.container_tests_agree (e : RuntimeEvent) :
    (e.isContainer ↔ EventKind.ofName e.kind = .container) ∧
    ∀ (attrs : Attributes) (now : Instant),
      ((e.toEvent attrs now).PrintsAs "container" ↔ e.isContainer) ∧
      ∀ {σ : Type} (runtime : ContainerRuntime σ) (crew : Crew σ),
        crew.ActsOn (e.toEvent attrs now) (crew.obey e).1 (crew.obey e).2 ∧
        (∃ host, (Forwarder.meet runtime crew e).1 = { (crew.obey e).1 with host }) ∧
        (∀ filter, (∃ crew' answerAt, Forwarder.enrich runtime crew e = (crew', .asking e filter answerAt)) ↔
          (e.toEvent attrs now).PrintsAs "container" ∧
            Enrichment.filter? e.attributes e.fullId e.name = some filter) ∧
        (¬ (e.toEvent attrs now).PrintsAs "container" →
          Forwarder.meet runtime crew e = (crew, .sending (e.toEvent e.attributes crew.instant))) := by
  refine ⟨?_, fun attrs now => ?_⟩
  · rw [EventKind.ofName_eq_container_iff, isContainer, decide_eq_true_iff]
  · have htold := e.toldIn_toEvent attrs now
    rw [htold.printsAs_iff]
    exact ⟨Iff.rfl, fun runtime crew => ⟨crew.obey_actsOn htold, Forwarder.meet_keeps runtime crew e,
      fun _ => Forwarder.enrich_asks_iff, Forwarder.meet_other⟩⟩

namespace ScriptedWorld

/-- Capitals do not matter, but a dotted capital I is another letter. -/
theorem container_tests_agree_of_capitals :
    let crew := Crew.idle empty ⟨"lab", true, none⟩
    let told : RuntimeEvent := ⟨"CONTAINER", "Start", "", "c", "", ∅, none⟩
    let other : RuntimeEvent := ⟨"CONTAİNER", "Start", "", "c", "", ∅, none⟩
    (told.toEvent ∅ (.ofNanos 0)).PrintsAs "container" ∧ "c" ∈ (crew.obey told).1.roster.entries ∧
      Forwarder.meet (runtime "") crew other = (crew, .sending (other.toEvent ∅ crew.instant)) := by
  intro crew told other
  obtain ⟨-, hrecord⟩ := told.container_tests_agree
  obtain ⟨hprints, hfollows⟩ := hrecord ∅ (.ofNanos 0)
  have htype : (told.toEvent ∅ (.ofNanos 0)).PrintsAs "container" := hprints.mpr (by decide +kernel)
  have hstart : (told.toEvent ∅ (.ofNanos 0)).TellsStart "c" := ⟨htype, by decide +kernel, rfl⟩
  obtain ⟨-, w, -, -, hentry⟩ := (hfollows (runtime "") crew).1.begun hstart ⟨by decide, by decide +kernel⟩
  have hentered : "c" ∈ (crew.obey told).1.roster.entries := by
    rw [Std.ExtTreeMap.mem_iff_isSome_getElem?, hentry, Option.isSome_some]
  obtain ⟨-, hothers⟩ := other.container_tests_agree
  obtain ⟨hunprinted, hpasses⟩ := hothers ∅ (.ofNanos 0)
  have hother : ¬ (other.toEvent ∅ (.ofNanos 0)).PrintsAs "container" := mt hunprinted.mp (by decide +kernel)
  exact ⟨htype, hentered, (hpasses (runtime "") crew).2.2.2 hother⟩

end ScriptedWorld

end LabStream
