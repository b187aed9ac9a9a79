import Mathlib.Data.List.Basic
import Std.Data.String.ToNat
import LabStream.Watcher
import LabStream.Proofs.Attributes
import LabStream.Proofs.LinkReplay

namespace LabStream

/-- The interface that an event tells of, as far as its attributes can be read. -/
def Event.snapshot? (e : Event) : Option Snapshot := do
  let index ← (e.attributes.valueOf "index").toNat?
  let mtu ← (e.attributes.valueOf "mtu").toNat?
  return ⟨index, e.attributes.valueOf "ifname", e.attributes.valueOf "alias", mtu, e.attributes.valueOf "mac",
    e.attributes.valueOf "state", e.attributes.valueOf "type"⟩

/-- A consumer's table after an event: what is shown, made or changed is stored, what is deleted goes,
and all else is passed over. -/
def LinkTable.follow (table : LinkTable) (e : Event) : LinkTable :=
  match e.snapshot? with
  | none => table
  | some s =>
    if e.action = "snapshot" ∨ e.action = "create" ∨ e.action = "update" then table.store s
    else if e.action = "delete" then table.erase s.index
    else table

theorem LinkTable.foldl_store_snapshots {table : LinkTable} (h : table.Keyed) :
    table.snapshots.foldl LinkTable.store ∅ = table := by
  rw [snapshots, List.foldl_map]
  refine Eq.trans ?_ (foldl_insert_toList table)
  refine List.foldl_ext _ _ _ fun t p hp => ?_
  rw [LinkTable.store, h _ _ (Std.ExtTreeMap.mem_toList_iff_getElem?_eq_some.mp hp)]

theorem linkEvent_attributes (c : Container) (labLabel action : String) (s : Snapshot) (now : Instant) :
    (linkEvent c labLabel action s now).attributes = linkAttributes c labLabel s :=
  foldl_insert_toList _

theorem linkEvent_snapshot? (c : Container) (labLabel action : String) (s : Snapshot) (now : Instant) :
    (linkEvent c labLabel action s now).snapshot? = some s := by
  have hfilled : ∀ value : String, (if value = "" then "" else value) = value := by
    intro value
    split <;> simp [*]
  simp [Event.snapshot?, linkEvent_attributes, linkAttributes, Attributes.ofPairs,
    Attributes.valueOf_insertFilled, Attributes.valueOf_insert, hfilled, Nat.toNat?_repr]

/-- What a report makes of the table of one who hears it. -/
def LinkTable.tell (table : LinkTable) : LinkReport → LinkTable
  | .snapshot s => table.store s
  | .change action s => table.record (action, s)
  | .metrics _ _ => table

theorem LinkAction.lowerText_word (action : LinkAction) : lowerText action.word = action.word := by
  cases action <;> decide +kernel

theorem linkEvent_action (c : Container) (labLabel action : String) (s : Snapshot) (now : Instant) :
    (linkEvent c labLabel action s now).action = lowerText action := rfl

/-- The event of a report tells all that the report does. -/
theorem LinkTable.follow_event (table : LinkTable) (r : LinkReport) (c : Container) (labLabel : String)
    (now : Instant) : table.follow (r.event c labLabel now) = table.tell r := by
  cases r with
  | snapshot s =>
    have ha : lowerText "snapshot" = "snapshot" := by decide +kernel
    simp [follow, tell, LinkReport.event, linkEvent_snapshot?, linkEvent_action, ha]
  | change action s =>
    simp only [follow, tell, LinkReport.event, linkEvent_snapshot?, linkEvent_action, action.lowerText_word]
    cases action <;> rfl
  | metrics s m =>
    have ha : (metricsEvent c labLabel s m now).action = "stats" := by
      rw [metricsEvent, Event.withAttributes, linkEvent_action]
      decide +kernel
    simp only [follow, tell, LinkReport.event, ha]
    split <;> rfl

end LabStream
