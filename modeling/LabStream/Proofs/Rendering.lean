import LabStream.Forwarder
import LabStream.Proofs.GapFilling

namespace LabStream

variable {σ : Type}

/-- An event of the stream that tells what a runtime event tells. Its attributes are the same but for gaps, and
for those only if it is about a container. -/
structure RuntimeEvent.Renders (e : RuntimeEvent) (event : Event) : Prop where
  kind : event.kind = .ofName e.kind
  action : event.action = lowerText e.action
  actorId : event.actorId = shortId (if e.actorId.isEmpty then e.fullId else e.actorId)
  actorName : event.actorName = e.name
  actorFullId : event.actorFullId = e.fullId
  timestamp {instant : Instant} : e.timestamp = some instant → event.timestamp = instant
  attributes {key : String} : event.attributes[key]? ≠ e.attributes[key]? →
    e.isContainer ∧ key ∈ Enrichment.gapNames ∧ Enrichment.isMissing e.attributes key

theorem RuntimeEvent.renders_toEvent {e : RuntimeEvent} {attrs : Attributes}
    (h : ∀ {key : String}, attrs[key]? ≠ e.attributes[key]? →
      e.isContainer ∧ key ∈ Enrichment.gapNames ∧ Enrichment.isMissing e.attributes key) (now : Instant) :
    e.Renders (e.toEvent attrs now) where
  kind := rfl
  action := rfl
  actorId := rfl
  actorName := rfl
  actorFullId := rfl
  timestamp hinstant := by rw [toEvent, hinstant]; rfl
  attributes {key} hdiffers := by
    have hattrs : (e.toEvent attrs now).attributes = attrs := foldl_insert_toList attrs
    rw [hattrs] at hdiffers
    exact h hdiffers

theorem RuntimeEvent.renders_fill {e : RuntimeEvent} (hcontainer : e.isContainer)
    (found : Except RuntimeFault (List Container)) (now : Instant) :
    e.Renders (e.toEvent (Enrichment.fill e.attributes e.fullId e.name found) now) := by
  refine renders_toEvent (fun {key} hdiffers => ?_) now
  rcases Enrichment.getElem?_fill_cases found key with hsame | ⟨hmissing, c, hoffer, -⟩
  · exact absurd hsame hdiffers
  · exact ⟨hcontainer, Enrichment.mem_gapNames_of_offer hoffer, hmissing⟩

/-- It is the event that a conversion gives, with attributes and a time of its own. -/
theorem RuntimeEvent.Renders.eq_toEvent {e : RuntimeEvent} {event : Event} (h : e.Renders event) :
    event = e.toEvent event.attributes event.timestamp := by
  have hattrs : (e.toEvent event.attributes event.timestamp).attributes = event.attributes :=
    foldl_insert_toList event.attributes
  have htimestamp : e.timestamp.getD event.timestamp = event.timestamp := by
    cases hinstant : e.timestamp with
    | none => rfl
    | some instant => exact (h.timestamp hinstant).symm
  exact (Event.mk.injEq ..).mpr
    ⟨htimestamp.symm, h.kind, h.action, h.actorId, h.actorName, h.actorFullId, hattrs.symm⟩

namespace Forwarder

/-- A forwarder that has taken an event off the feed and has not passed it on yet. -/
inductive WorksFor (e : RuntimeEvent) : Forwarder → Prop where
  | dismissing (number : Nat) : WorksFor e (.dismissing number e)
  | asking (filter : ContainerFilter) (answerAt : Nat) : e.isContainer → WorksFor e (.asking e filter answerAt)
  | sending {event : Event} : e.Renders event → WorksFor e (.sending event)

theorem worksFor_enrich (runtime : ContainerRuntime σ) (crew : Crew σ) (e : RuntimeEvent) :
    (enrich runtime crew e).2.WorksFor e := by
  unfold enrich
  split
  next => exact .sending (RuntimeEvent.renders_toEvent (fun h => absurd rfl h) _)
  next heq => exact .asking _ _ (Option.ite_none_right_eq_some.mp heq).1

theorem worksFor_meet (runtime : ContainerRuntime σ) (crew : Crew σ) (e : RuntimeEvent) :
    (meet runtime crew e).2.WorksFor e := by
  unfold meet
  split
  next => exact .dismissing _
  next => exact worksFor_enrich _ _ _

end Forwarder

end LabStream
