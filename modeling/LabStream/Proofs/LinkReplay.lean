import Mathlib.Data.List.Induction
import LabStream.LinkTable

namespace LabStream

/-- What an update leaves of its interface, nothing when the interface goes. -/
def LinkUpdate.outcome : LinkUpdate → Option Snapshot
  | upsert link => some link.snapshot
  | removed _ => none

theorem LinkUpdate.index_outcome {update : LinkUpdate} {s : Snapshot} (h : update.outcome = some s) :
    s.index = update.index := by
  cases update with
  | upsert link => exact Option.some.inj h ▸ rfl
  | removed link => cases h

namespace LinkTable

variable {table : LinkTable} {update : LinkUpdate}

/-- What an update can do to a table, with the change that is told. -/
inductive Applied (table : LinkTable) (update : LinkUpdate) :
    LinkTable × Option (LinkAction × Snapshot) → Prop where
  | unknown : update.outcome = none → table[update.index]? = none → Applied table update (table, none)
  | deleted {last} : update.outcome = none → table[update.index]? = some last →
    Applied table update (table.erase update.index, some (.delete, last))
  | same {s} : update.outcome = some s → table[update.index]? = some s → Applied table update (table, none)
  | changed {s last} : update.outcome = some s → table[update.index]? = some last → last ≠ s →
    Applied table update (table.store s, some (.update, s))
  | created {s} : update.outcome = some s → table[update.index]? = none →
    Applied table update (table.store s, some (.create, s))

theorem apply_applied (table : LinkTable) (update : LinkUpdate) : Applied table update (table.apply update) := by
  cases update with
  | removed link =>
    simp only [apply]
    split
    next h => exact .deleted rfl h
    next h => exact .unknown rfl h
  | upsert link =>
    simp only [apply]
    split
    next last h =>
      split
      next heq => exact .same rfl (heq ▸ h)
      next hne => exact .changed rfl h hne
    next h => exact .created rfl h

theorem getElem?_store (table : LinkTable) (s : Snapshot) (index : Nat) :
    (table.store s)[index]? = if s.index = index then some s else table[index]? := by
  simp [store, Std.ExtTreeMap.getElem?_insert]

theorem getElem?_drop (table : LinkTable) (gone index : Nat) :
    (table.erase gone)[index]? = if gone = index then none else table[index]? := by
  simp [Std.ExtTreeMap.getElem?_erase]

/-- An update settles its own interface and leaves all others alone. -/
theorem getElem?_apply (table : LinkTable) (update : LinkUpdate) (index : Nat) :
    (table.apply update).1[index]? = if update.index = index then update.outcome else table[index]? := by
  have h := apply_applied table update
  generalize table.apply update = applied at h ⊢
  cases h with
  | unknown ho hl | same ho hl =>
    split
    next heq => rw [← heq, ho, hl]
    next => rfl
  | deleted ho => rw [getElem?_drop, ho]
  | changed ho | created ho => rw [getElem?_store, LinkUpdate.index_outcome ho, ho]

/-- The table after a series of updates. -/
def replay (table : LinkTable) (updates : List LinkUpdate) : LinkTable :=
  updates.foldl (fun table update => (table.apply update).1) table

@[simp] theorem replay_nil (table : LinkTable) : table.replay [] = table := rfl

@[simp] theorem replay_cons (table : LinkTable) (update : LinkUpdate) (updates : List LinkUpdate) :
    table.replay (update :: updates) = (table.apply update).1.replay updates := rfl

@[simp] theorem replay_append (table : LinkTable) (updates more : List LinkUpdate) :
    table.replay (updates ++ more) = (table.replay updates).replay more := List.foldl_append

/-- The last update of an interface decides on it; without one it stays as it was. -/
theorem getElem?_replay (table : LinkTable) (updates : List LinkUpdate) (index : Nat) :
    (table.replay updates)[index]? =
      match (updates.filter (·.index = index)).getLast? with
      | some update => update.outcome
      | none => table[index]? := by
  induction updates using List.reverseRecOn with
  | nil => rfl
  | append_singleton updates update ih =>
    rw [replay_append, replay_cons, replay_nil, getElem?_apply]
    by_cases h : update.index = index <;> simp [h, ih]

/-- Updates that led to a table change nothing when they come again. -/
theorem replay_replay (table : LinkTable) (updates : List LinkUpdate) :
    (table.replay updates).replay updates = table.replay updates := by
  ext index : 1
  rw [getElem?_replay, getElem?_replay]
  split <;> rfl

/-- A snapshot is kept under its own index. -/
def Keyed (table : LinkTable) : Prop := ∀ (index : Nat) (s : Snapshot), table[index]? = some s → s.index = index

theorem Keyed.empty : Keyed ∅ := by simp [Keyed]

theorem Keyed.store (h : table.Keyed) (s : Snapshot) : (table.store s).Keyed := by
  intro index t ht
  rw [getElem?_store] at ht
  split at ht
  next heq => exact Option.some.inj ht ▸ heq
  next => exact h index t ht

theorem Keyed.apply (h : table.Keyed) (update : LinkUpdate) : (table.apply update).1.Keyed := by
  intro index s hs
  rw [getElem?_apply] at hs
  split at hs
  next heq => exact (LinkUpdate.index_outcome hs).trans heq
  next => exact h index s hs

theorem Keyed.replay (h : table.Keyed) (updates : List LinkUpdate) : (table.replay updates).Keyed := by
  induction updates generalizing table with
  | nil => exact h
  | cons update updates ih => exact ih (h.apply update)

theorem Keyed.seed (inventory : List Snapshot) : (seed inventory).Keyed := by
  suffices ∀ table : LinkTable, table.Keyed → (inventory.foldl LinkTable.store table).Keyed from this ∅ .empty
  induction inventory with
  | nil => exact fun _ h => h
  | cons s inventory ih => exact fun table h => ih (table.store s) (h.store s)

/-- The last snapshot of an interface among some. -/
def lastOf (index : Nat) (told : List Snapshot) : Option Snapshot := (told.filter (·.index = index)).getLast?

theorem lastOf_append_singleton (index : Nat) (told : List Snapshot) (s : Snapshot) :
    lastOf index (told ++ [s]) = if s.index = index then some s else lastOf index told := by
  by_cases h : s.index = index <;> simp [lastOf, h]

theorem getElem?_seed (inventory : List Snapshot) (index : Nat) :
    (seed inventory)[index]? = lastOf index inventory := by
  induction inventory using List.reverseRecOn with
  | nil => simp [seed, lastOf]
  | append_singleton inventory s ih =>
    rw [lastOf_append_singleton, ← ih]
    simp [seed, getElem?_store]

/-- What a consumer that is told of a change makes of its own table. -/
def record (table : LinkTable) : LinkAction × Snapshot → LinkTable
  | (.delete, s) => table.erase s.index
  | (.create, s) | (.update, s) => table.store s

/-- The changes that are told when a table goes through a series of updates. -/
def log (table : LinkTable) : List LinkUpdate → List (LinkAction × Snapshot)
  | [] => []
  | update :: updates => (table.apply update).2.toList ++ log (table.apply update).1 updates

theorem log_append (table : LinkTable) (updates more : List LinkUpdate) :
    table.log (updates ++ more) = table.log updates ++ (table.replay updates).log more := by
  induction updates generalizing table with
  | nil => rfl
  | cons update updates ih => simp [log, ih]

theorem record_apply (h : table.Keyed) (update : LinkUpdate) :
    (table.apply update).2.toList.foldl record table = (table.apply update).1 := by
  have ha := apply_applied table update
  generalize table.apply update = applied at ha ⊢
  cases ha with
  | unknown | same | changed | created => rfl
  | deleted _ hl => simp [record, h _ _ hl]

/-- Replaying the log gives the table itself. -/
theorem record_log (h : table.Keyed) (updates : List LinkUpdate) :
    (table.log updates).foldl record table = table.replay updates := by
  induction updates generalizing table with
  | nil => rfl
  | cons update updates ih =>
    rw [log, List.foldl_append, record_apply h, ih (h.apply update)]
    rfl

theorem store_eq_self {s : Snapshot} (h : table.store s = table) : table[s.index]? = some s := by
  rw [← h]
  simp [getElem?_store]

/-- Nothing is told just if nothing changes. -/
theorem apply_silent_iff (table : LinkTable) (update : LinkUpdate) :
    (table.apply update).2 = none ↔ (table.apply update).1 = table := by
  have ha := apply_applied table update
  generalize table.apply update = applied at ha ⊢
  cases ha with
  | unknown | same => simp
  | deleted ho hl =>
    simp only [reduceCtorEq, false_iff]
    intro h
    have hg := getElem?_drop table update.index update.index
    simp [h, hl] at hg
  | changed ho hl hne =>
    simp only [reduceCtorEq, false_iff]
    intro h
    have hs := store_eq_self h
    rw [LinkUpdate.index_outcome ho, hl] at hs
    exact hne (Option.some.inj hs)
  | created ho hl =>
    simp only [reduceCtorEq, false_iff]
    intro h
    have hs := store_eq_self h
    rw [LinkUpdate.index_outcome ho, hl] at hs
    cases hs

/-- Whatever is in the table was last seen as it is there. -/
theorem lastOf_log (inventory : List Snapshot) (updates : List LinkUpdate) {index : Nat} {s : Snapshot}
    (h : ((seed inventory).replay updates)[index]? = some s) :
    lastOf index (inventory ++ ((seed inventory).log updates).map (·.2)) = some s := by
  induction updates using List.reverseRecOn generalizing index s with
  | nil => simpa [log, ← getElem?_seed] using h
  | append_singleton updates update ih =>
    have hk := (Keyed.seed inventory).replay updates
    rw [log_append, List.map_append, ← List.append_assoc]
    rw [replay_append, replay_cons, replay_nil] at h
    simp only [log, List.append_nil]
    have ha := apply_applied ((seed inventory).replay updates) update
    generalize ((seed inventory).replay updates).apply update = applied at h ha ⊢
    cases ha with
    | unknown | same => simpa using ih h
    | deleted _ hl =>
      rw [getElem?_drop] at h
      split at h
      · cases h
      next hne =>
        have hs : _ = update.index := hk _ _ hl
        rw [Option.toList_some, List.map_singleton, lastOf_append_singleton, hs, if_neg hne]
        exact ih h
    | changed | created =>
      rw [getElem?_store] at h
      split at h
      next heq =>
        rw [Option.toList_some, List.map_singleton, lastOf_append_singleton, if_pos heq]
        exact h
      next hne =>
        rw [Option.toList_some, List.map_singleton, lastOf_append_singleton, if_neg hne]
        exact ih h

end LinkTable

/-- When a change of an interface may be told: over a table, after some snapshots have been seen. -/
def LinkAction.Warranted (table : LinkTable) (seen : List Snapshot) (s : Snapshot) : LinkAction → Prop
  | create => table[s.index]? = none
  | update => ∃ last, table[s.index]? = some last ∧ last ≠ s
  | delete => table[s.index]? = some s ∧ LinkTable.lastOf s.index seen = some s

/-- A change that is told is one of the updated interface, and warranted. -/
theorem LinkTable.warranted_apply {table : LinkTable} {seen : List Snapshot} (hk : table.Keyed)
    (hseen : ∀ (index : Nat) (s : Snapshot), table[index]? = some s → lastOf index seen = some s)
    {update : LinkUpdate} {action : LinkAction} {s : Snapshot} (h : (table.apply update).2 = some (action, s)) :
    s.index = update.index ∧ action.Warranted table seen s := by
  have ha := apply_applied table update
  generalize table.apply update = applied at h ha
  cases ha with
  | unknown | same => cases h
  | deleted _ hl =>
    cases h
    have hs : s.index = update.index := hk _ _ hl
    rw [← hs] at hl
    exact ⟨hs, hl, hseen _ _ hl⟩
  | changed ho hl hne =>
    cases h
    have hs := LinkUpdate.index_outcome ho
    rw [← hs] at hl
    exact ⟨hs, _, hl, hne⟩
  | created ho hl =>
    cases h
    have hs := LinkUpdate.index_outcome ho
    rw [← hs] at hl
    exact ⟨hs, hl⟩

end LabStream
