import LabStream.EventLine
import LabStream.Proofs.Attributes
import LabStream.Proofs.JsonReading

namespace LabStream

namespace Event

variable {e : Event} {stamp : String}

theorem jsonFields_textual (e : Event) (stamp : String) :
    (Json.record (e.jsonFields stamp)).Textual JsonShape.depthLimit := by
  have hpairs : (Json.record (e.shownAttributes.toList.map fun pair => (pair.1, .text pair.2))).Textual 1 := by
    refine .record fun field hfield => ?_
    obtain ⟨pair, -, rfl⟩ := List.mem_map.mp hfield
    exact .text pair.2
  have hdeep : (Json.record (e.shownAttributes.toList.map fun pair => (pair.1, .text pair.2))).Textual 126 :=
    hpairs.mono (by decide)
  refine .record fun field hfield => ?_
  simp only [jsonFields, List.cons_append, List.nil_append, List.mem_cons] at hfield
  rcases hfield with rfl | rfl | rfl | rfl | rfl | rfl | hfield
  case inr.inr.inr.inr.inr.inr =>
    split at hfield
    · cases hfield
    · obtain rfl := List.mem_singleton.mp hfield
      exact hdeep
  all_goals exact .text _

theorem parse_jsonLine (e : Event) (stamp : String) :
    Json.parse (e.jsonLine stamp) = .ok (.record (e.jsonFields stamp)) :=
  Json.parse_render_append (e.jsonFields_textual stamp) ['\n'] rfl

theorem jsonLine_framed (e : Event) (stamp : String) :
    ∃ body : String, e.jsonLine stamp = body ++ "\n" ∧ '\n' ∉ body.toList :=
  ⟨_, rfl, by simpa [Json.render] using (e.jsonFields_textual stamp).newline_not_mem⟩

/-- A JSON line is one line, and a JSON reader gives back every field: the time, the type, the action and
the actor's names in this order, and last the shown attributes, in the order of the code points of their
names, unless there are none. -/
theorem json_line_lossless (e : Event) :
    (∃ body : String, e.line .json = body ++ "\n" ∧ '\n' ∉ body.toList) ∧
    Json.parse (e.line .json) = .ok (.record (
      [("timestamp", .text e.timestamp.briefStamp), ("type", .text e.kind.name), ("action", .text e.action),
       ("actor_id", .text e.actorId), ("actor_name", .text e.actorName),
       ("actor_full_id", .text e.actorFullId)] ++
      if e.shownAttributes.toList = [] then []
      else [("attributes",
        .record (e.shownAttributes.toList.map fun (name, value) => (name, .text value)))])) ∧
    (e.shownAttributes.toList.Pairwise fun a b => a.1.toList < b.1.toList) ∧
    ∀ name value, (name, value) ∈ e.shownAttributes.toList ↔ value ≠ "" ∧
      if name = "id" ∧ e.actorFullId ≠ "" then value = e.actorFullId
      else if name = "name" ∧ e.actorName ≠ "" then value = e.actorName
      else e.attributes[name]? = some value := by
  refine ⟨e.jsonLine_framed _, ?_, e.shownAttributes.toList_ordered, e.mem_shownAttributes_iff⟩
  have hparse := e.parse_jsonLine e.timestamp.briefStamp
  simp only [jsonFields, List.isEmpty_iff] at hparse
  exact hparse

end Event

end LabStream
