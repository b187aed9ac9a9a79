import LabStream.Proofs.JsonLine
import LabStream.Proofs.LowerFixpoint
import LabStream.Proofs.StampReading

namespace LabStream

theorem EventKind.name_ofLower (name : String) : (ofLower name).name = name := by
  unfold ofLower
  split
  next h => exact h.symm
  next =>
    split
    next h => exact h.symm
    next =>
      split
      next h => exact h.symm
      next => rfl

/-- The name of a kind is the name of this kind alone. -/
theorem EventKind.ofName_name_ofName (name : String) : ofName (ofName name).name = ofName name := by
  simp only [ofName, name_ofLower, lowerText_lowerText]

theorem shortId_shortId (id : String) : shortId (shortId id) = shortId id := by
  simp [shortId, List.take_take]

theorem shortId_eq_empty_iff (id : String) : shortId id = "" ↔ id = "" := by
  constructor
  · intro h
    have hlist : id.toList.take 12 = [] := by simpa [shortId] using congrArg String.toList h
    rcases List.take_eq_nil_iff.mp hlist with h | h
    · cases h
    · exact String.toList_eq_nil_iff.mp h
  · rintro rfl
    rfl

/-- A short id that was made from a full id, or cut short, is not changed when it is used again. -/
theorem shortId_actor (short fullId : String) :
    shortId (if (shortId (if short.isEmpty then fullId else short)).isEmpty then fullId
      else shortId (if short.isEmpty then fullId else short)) = shortId (if short.isEmpty then fullId else short) := by
  by_cases hshort : short = ""
  · by_cases hfull : shortId fullId = ""
    · simp [hshort, hfull]
    · simp [hshort, hfull, shortId_shortId]
  · have hne : shortId short ≠ "" := mt (shortId_eq_empty_iff short).mp hshort
    simp [hshort, hne, shortId_shortId]

namespace Event

/-- An event from the texts that describe it. -/
def compose (timestamp : Instant) (kind action short name fullId : String) (pairs : List (String × String)) : Event :=
  ((make timestamp (.ofName kind) action).withActor short name fullId).withAttributes pairs

/-- The names and values of the `attributes` of an event that is read; there may be none. -/
def pairsOf? (value : Json) : Option (List (String × String)) :=
  match value.field? "attributes" with
  | none => some []
  | some attributes => attributes.fields.mapM fun (name, value) => value.text?.map (name, ·)

/-- An event composed anew from the fields of its JSON line. -/
def ofJsonLine? (line : String) : Option Event := do
  let value ← (Json.parse line).toOption
  let text := fun name => (value.field? name).bind Json.text?
  let timestamp ← Instant.ofStamp? (← text "timestamp")
  return compose timestamp (← text "type") (← text "action") (← text "actor_id") (← text "actor_name")
    (← text "actor_full_id") (← pairsOf? value)

theorem mapM_text (pairs : List (String × String)) :
    (pairs.map fun (name, value) => (name, Json.text value)).mapM
      (fun (name, value) => (Json.text? value).map (name, ·)) = some pairs := by
  induction pairs with
  | nil => rfl
  | cons pair pairs ih =>
    rw [List.map_cons, List.mapM_cons, ih]
    rfl

theorem pairsOf?_jsonFields (e : Event) (stamp : String) :
    pairsOf? (.record (e.jsonFields stamp)) = some e.shownAttributes.toList := by
  unfold jsonFields
  generalize e.shownAttributes.toList = pairs
  cases pairs with
  | nil => simp [pairsOf?, Json.field?]
  | cons pair pairs =>
    have hmap := mapM_text (pair :: pairs)
    simpa only [pairsOf?, Json.field?, List.isEmpty_cons, Bool.false_eq_true, if_false, List.reverse_append,
      List.reverse_singleton, List.singleton_append, List.find?_cons, beq_self_eq_true, Option.map_some,
      Json.fields] using hmap

theorem text_of_jsonFields (e : Event) (stamp : String) :
    ∀ field ∈ [("timestamp", stamp), ("type", e.kind.name), ("action", e.action), ("actor_id", e.actorId),
      ("actor_name", e.actorName), ("actor_full_id", e.actorFullId)],
      ((Json.record (e.jsonFields stamp)).field? field.1).bind Json.text? = some field.2 := by
  unfold jsonFields
  generalize e.shownAttributes.toList = pairs
  cases pairs <;> simp [Json.field?, Json.text?]

/-- What is read from a JSON line: the fields as they are shown. -/
theorem ofJsonLine?_line (e : Event) : ofJsonLine? (e.line .json) =
    some (compose e.timestamp.shown e.kind.name e.action e.actorId e.actorName e.actorFullId
      e.shownAttributes.toList) := by
  have hparse : Json.parse (e.line .json) = .ok (.record (e.jsonFields e.timestamp.briefStamp)) :=
    e.parse_jsonLine _
  have hpairs := e.pairsOf?_jsonFields e.timestamp.briefStamp
  have htext := e.text_of_jsonFields e.timestamp.briefStamp
  simp only [List.mem_cons, List.not_mem_nil, or_false, forall_eq_or_imp, forall_eq] at htext
  obtain ⟨htimestamp, hkind, haction, hid, hname, hfullId⟩ := htext
  simp only [ofJsonLine?, hparse, Except.toOption, bind, Option.bind_some, htimestamp, hkind, haction, hid, hname,
    hfullId, Instant.ofStamp?_briefStamp, hpairs]
  rfl

/-- What is shown of the attributes that are shown already. -/
theorem shownAttributes_of_shown {e shown : Event} (hname : shown.actorName = e.actorName)
    (hid : shown.actorFullId = e.actorFullId) (hattrs : shown.attributes = e.shownAttributes) :
    shown.shownAttributes = e.shownAttributes := by
  refine Std.ExtTreeMap.ext_getElem? fun name => ?_
  rw [getElem?_shownAttributes, hname, hid, hattrs, getElem?_shownAttributes]
  split
  next => rfl
  next =>
    split
    next => rfl
    next => simp [Option.filter_filter]

/-- A JSON line tells only of what is shown. -/
theorem line_json_congr {e shown : Event} (hstamp : shown.timestamp.briefStamp = e.timestamp.briefStamp)
    (hkind : shown.kind = e.kind) (haction : shown.action = e.action) (hid : shown.actorId = e.actorId)
    (hname : shown.actorName = e.actorName)
    (hfullId : shown.actorFullId = e.actorFullId) (hattrs : shown.attributes = e.shownAttributes) :
    shown.line .json = e.line .json := by
  have hshown := shownAttributes_of_shown hname hfullId hattrs
  simp only [line, stampedLine, jsonLine, jsonFields, hstamp, hkind, haction, hid, hname, hfullId, hshown]

section

variable (timestamp : Instant) (kind action short name fullId : String) (pairs : List (String × String))

@[simp] theorem compose_timestamp : (compose timestamp kind action short name fullId pairs).timestamp = timestamp :=
  rfl

@[simp] theorem compose_kind : (compose timestamp kind action short name fullId pairs).kind = .ofName kind := rfl

@[simp] theorem compose_action : (compose timestamp kind action short name fullId pairs).action = lowerText action :=
  rfl

@[simp] theorem compose_actorId : (compose timestamp kind action short name fullId pairs).actorId =
    shortId (if short.isEmpty then fullId else short) := rfl

@[simp] theorem compose_actorName : (compose timestamp kind action short name fullId pairs).actorName = name := rfl

@[simp] theorem compose_actorFullId : (compose timestamp kind action short name fullId pairs).actorFullId = fullId :=
  rfl

theorem compose_attributes (attrs : Attributes) :
    (compose timestamp kind action short name fullId attrs.toList).attributes = attrs :=
  foldl_insert_toList attrs

/-- An event that is composed anew from its own JSON line is written in the same line, however it was composed
at first: its kind, action, short id and shown attributes are in their final form. -/
theorem json_line_fixpoint :
    let line := (compose timestamp kind action short name fullId pairs).line .json
    (ofJsonLine? line).map (·.line .json) = some line := by
  intro line
  rw [ofJsonLine?_line, Option.map_some, Option.some.injEq]
  apply line_json_congr
  · rw [compose_timestamp, Instant.briefStamp_shown]
  · simp [EventKind.ofName_name_ofName]
  · simp [lowerText_lowerText]
  · simp only [compose_actorId]
    exact shortId_actor short fullId
  · simp
  · simp
  · simp [compose_attributes]

end

end Event

end LabStream
