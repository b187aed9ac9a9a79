import Mathlib.Data.List.Induction
import LabStream.Proofs.Ledger

namespace LabStream

/-- What a deed does for one interface to the table that it is about. -/
inductive Move where
  | attach
  | refuse
  | detach
  | close
  /-- The table is used, but not for the interface. -/
  | use
  deriving DecidableEq

/-- The move of a deed for an interface and a table, none when it is not about the table. -/
def Deed.move? (table : Nat) (ifname : String) : Deed → Option Move
  | attach n other done =>
    if n = table then some (if other = ifname then (if done then .attach else .refuse) else .use) else none
  | detach n other => if n = table then some (if other = ifname then .detach else .use) else none
  | close n => if n = table then some .close else none
  | links n | read n _ => if n = table then some .use else none
  | prepare | discover | load _ | finish => none

def moves (table : Nat) (ifname : String) (deeds : List Deed) : List Move :=
  deeds.filterMap (Deed.move? table ifname)

/-- How an interface stands with a table: not attached, attached, or of no concern any more since the
table is closed. A table that was used in another way is broken. -/
inductive Stage where
  | free
  | held
  | closed
  | broken
  deriving DecidableEq

def Stage.after : Stage → Move → Stage
  | free, .attach => held
  | free, .refuse => free
  | held, .detach => free
  | free, .close => closed
  | free, .use => free
  | held, .use => held
  | _, _ => broken

def stage (table : Nat) (ifname : String) (deeds : List Deed) : Stage :=
  (moves table ifname deeds).foldl Stage.after .free

/-- Whether a move attaches or detaches, if it is one of both. -/
def Move.turn? : Move → Option Bool
  | attach => some true
  | detach => some false
  | _ => none

/-- The successful attachments of an interface to a table, each true, and its detachments, each false. -/
def holds (table : Nat) (ifname : String) (deeds : List Deed) : List Bool :=
  (moves table ifname deeds).filterMap Move.turn?

/-- Attachments and detachments take turns, from an attachment to a detachment. -/
def Paired (turns : List Bool) : Prop := ∃ k, turns = (List.replicate k [true, false]).flatten

theorem Paired.nil : Paired [] := ⟨0, rfl⟩

theorem Paired.append_turn {turns : List Bool} (h : Paired turns) : Paired (turns ++ [true, false]) := by
  obtain ⟨k, rfl⟩ := h
  exact ⟨k + 1, by simp [List.replicate_succ']⟩

def Stage.Shape (ms : List Move) : Stage → Prop
  | free => Paired (ms.filterMap Move.turn?) ∧ .close ∉ ms
  | held => (∃ turns, Paired turns ∧ ms.filterMap Move.turn? = turns ++ [true]) ∧ .close ∉ ms
  | closed => ∃ before, ms = before ++ [.close] ∧ Paired (before.filterMap Move.turn?) ∧ .close ∉ before
  | broken => True

theorem Stage.Shape.append {ms : List Move} {s : Stage} (h : s.Shape ms) (m : Move) :
    (s.after m).Shape (ms ++ [m]) := by
  have huse : [Move.use].filterMap Move.turn? = [] := rfl
  have hrefuse : [Move.refuse].filterMap Move.turn? = [] := rfl
  cases s with
  | free =>
    cases m with
    | attach => exact ⟨⟨_, h.1, by simp [Move.turn?]⟩, by simp [h.2]⟩
    | refuse => simpa [after, Shape, hrefuse] using h
    | detach => trivial
    | close => exact ⟨ms, rfl, h.1, h.2⟩
    | use => simpa [after, Shape, huse] using h
  | held =>
    cases m with
    | attach => trivial
    | refuse => trivial
    | detach =>
      obtain ⟨⟨turns, hp, heq⟩, hc⟩ := h
      refine ⟨?_, by simp [hc]⟩
      simpa [heq, Move.turn?] using hp.append_turn
    | close => trivial
    | use => simpa [after, Shape, huse] using h
  | closed => cases m <;> trivial
  | broken => cases m <;> trivial

theorem foldl_after_shape (ms : List Move) : (ms.foldl Stage.after .free).Shape ms := by
  induction ms using List.reverseRecOn with
  | nil => exact ⟨.nil, by simp⟩
  | append_singleton ms m ih =>
    rw [List.foldl_append]
    exact ih.append m

variable {table : Nat} {ifname : String} {deeds : List Deed}

theorem moves_append (before after : List Deed) :
    moves table ifname (before ++ after) = moves table ifname before ++ moves table ifname after :=
  List.filterMap_append

@[simp] theorem stage_append (deeds : List Deed) (d : Deed) : stage table ifname (deeds ++ [d]) =
    ((d.move? table ifname).toList).foldl Stage.after (stage table ifname deeds) := by
  rw [stage, moves_append, List.foldl_append]
  cases hm : d.move? table ifname <;> simp [moves, hm, stage]

theorem Deed.move?_eq_none {d : Deed} : d.move? table ifname = none ↔ d.table? ≠ some table := by
  cases d <;> simp [move?, table?]

theorem Deed.move?_eq_close {d : Deed} : d.move? table ifname = some .close ↔ d = .close table := by
  cases d <;> simp only [move?] <;> grind

theorem Deed.move?_eq_detach {d : Deed} : d.move? table ifname = some .detach ↔ d = .detach table ifname := by
  cases d <;> simp only [move?] <;> grind

theorem Deed.move?_eq_attach {d : Deed} :
    d.move? table ifname = some .attach ↔ d = .attach table ifname true := by
  cases d <;> simp only [move?] <;> grind

theorem stage_append_other {d : Deed} (h : d.table? ≠ some table) :
    stage table ifname (deeds ++ [d]) = stage table ifname deeds := by
  simp [Deed.move?_eq_none.mpr h]

theorem moves_eq_append_cons {before after : List Move} {m : Move}
    (h : moves table ifname deeds = before ++ m :: after) :
    ∃ first d last, deeds = first ++ d :: last ∧ d.move? table ifname = some m ∧
      moves table ifname first = before ∧ moves table ifname last = after := by
  obtain ⟨first, rest, rfl, hfirst, hrest⟩ := List.filterMap_eq_append_iff.mp h
  obtain ⟨mid, d, last, rfl, hmid, hd, hlast⟩ := List.filterMap_eq_cons_iff.mp hrest
  refine ⟨first ++ mid, d, last, by simp, hd, ?_, hlast⟩
  rw [moves_append, moves, moves, hfirst, List.filterMap_eq_nil_iff.mpr hmid, List.append_nil]

theorem close_mem_moves : .close ∈ moves table ifname deeds ↔ .close table ∈ deeds := by
  simp [moves, Deed.move?_eq_close]

/-- A closed table was closed once, with nothing attached, and never used again. -/
theorem closed_shape (h : stage table ifname deeds = .closed) :
    Paired (holds table ifname deeds) ∧ ∃ before after, deeds = before ++ .close table :: after ∧
      .close table ∉ before ∧ ∀ d ∈ after, d.table? ≠ some table := by
  have hs := foldl_after_shape (moves table ifname deeds)
  rw [show (moves table ifname deeds).foldl Stage.after .free = .closed from h] at hs
  obtain ⟨ms, hms, hp, hc⟩ := hs
  constructor
  · have hnone : [Move.close].filterMap Move.turn? = [] := rfl
    rw [holds, hms, List.filterMap_append, hnone, List.append_nil]
    exact hp
  obtain ⟨first, d, last, rfl, hd, hfirst, hlast⟩ := moves_eq_append_cons hms
  obtain rfl := Deed.move?_eq_close.mp hd
  refine ⟨first, last, rfl, ?_, ?_⟩
  · exact fun hm => hc (hfirst ▸ close_mem_moves.mpr hm)
  · exact fun d hd => Deed.move?_eq_none.mp (List.filterMap_eq_nil_iff.mp hlast d hd)

theorem close_not_mem {before after : List Deed} {d : Deed}
    (h : stage table ifname (before ++ d :: after) = .closed) (hd : d.table? = some table) :
    .close table ∉ before := by
  obtain ⟨-, start, rest, heq, hstart, hrest⟩ := closed_shape h
  obtain ⟨more, rfl, -⟩ | ⟨more, rfl, htail⟩ := List.append_eq_append_iff.mp heq
  · exact fun hm => hstart (List.mem_append_left more hm)
  · cases more with
    | nil => simpa using hstart
    | cons _ more =>
      obtain ⟨-, rfl⟩ := List.cons.inj htail
      exact absurd hd (hrest d (by simp))

theorem stage_append_cons (before after : List Deed) (d : Deed) :
    stage table ifname (before ++ d :: after) =
      (moves table ifname after).foldl Stage.after (stage table ifname (before ++ [d])) := by
  rw [List.append_cons, stage, moves_append, List.foldl_append]
  rfl

theorem foldl_after_broken (ms : List Move) : ms.foldl Stage.after .broken = .broken := by
  induction ms with
  | nil => rfl
  | cons m ms ih => exact ih

theorem foldl_after_ne_broken {ms : List Move} {s : Stage} (h : ms.foldl Stage.after s = .closed) :
    s ≠ .broken := by
  rintro rfl
  exact absurd ((foldl_after_broken ms).symm.trans h) (by simp)

/-- Only what is not attached can be tried or closed. -/
theorem Stage.eq_free {s : Stage} {m : Move} (h : s.after m ≠ .broken) (hd : m ≠ .detach) (hu : m ≠ .use) :
    s = .free := by
  cases s <;> cases m <;> simp_all [after]

/-- What is held in the end of which a table is closed has been let go before. -/
theorem foldl_after_held {ms : List Move} (h : ms.foldl Stage.after .held = .closed) :
    ∃ before after, ms = before ++ .detach :: after ∧ .close ∉ before := by
  induction ms with
  | nil => cases h
  | cons m ms ih =>
    cases m with
    | attach | refuse | close => exact absurd ((foldl_after_broken ms).symm.trans h) (by simp)
    | detach => exact ⟨[], ms, rfl, by simp⟩
    | use =>
      obtain ⟨before, after, rfl, hc⟩ := ih h
      exact ⟨.use :: before, after, rfl, by simp [hc]⟩

/-- What is free cannot be let go unless it gets attached before. -/
theorem foldl_after_free {before after : List Move} {s : Stage} (hs : s = .free ∨ s = .closed)
    (h : (before ++ .detach :: after).foldl Stage.after s ≠ .broken) : .attach ∈ before := by
  induction before generalizing s with
  | nil => rcases hs with rfl | rfl <;> exact absurd (foldl_after_broken after) h
  | cons m before ih =>
    rcases hs with rfl | rfl
    · cases m with
      | attach => exact List.mem_cons_self
      | refuse | use => exact List.mem_cons_of_mem _ (ih (.inl rfl) h)
      | detach => exact absurd (foldl_after_broken _) h
      | close => exact List.mem_cons_of_mem _ (ih (.inr rfl) h)
    · cases m <;> exact absurd (foldl_after_broken _) h

/-- An interface that is attached is detached later on, before the table is closed. -/
theorem detached_later {before after : List Deed}
    (h : stage table ifname (before ++ .attach table ifname true :: after) = .closed) :
    ∃ mid rest, after = mid ++ .detach table ifname :: rest ∧ .close table ∉ mid := by
  rw [stage_append_cons, stage_append, Deed.move?_eq_attach.mpr rfl] at h
  have hfree := Stage.eq_free (foldl_after_ne_broken h) (by simp) (by simp)
  simp only [Option.toList, List.foldl_cons, List.foldl_nil, hfree] at h
  obtain ⟨ms, ms', hms, hc⟩ := foldl_after_held h
  obtain ⟨mid, d, rest, rfl, hd, hmid, -⟩ := moves_eq_append_cons hms
  obtain rfl := Deed.move?_eq_detach.mp hd
  exact ⟨mid, rest, rfl, fun hm => hc (hmid ▸ close_mem_moves.mpr hm)⟩

/-- An interface that could not be attached is not detached before it is attached after all. -/
theorem attached_between {before mid rest : List Deed}
    (h : stage table ifname
      (before ++ .attach table ifname false :: (mid ++ .detach table ifname :: rest)) = .closed) :
    .attach table ifname true ∈ mid := by
  have hrefuse : (Deed.attach table ifname false).move? table ifname = some .refuse := by simp [Deed.move?]
  rw [stage_append_cons, stage_append, hrefuse, moves_append, moves, moves, List.filterMap_cons,
    Deed.move?_eq_detach.mpr rfl] at h
  have hfree := Stage.eq_free (foldl_after_ne_broken h) (by simp) (by simp)
  simp only [Option.toList, List.foldl_cons, List.foldl_nil, hfree, Stage.after] at h
  obtain ⟨d, hd, hm⟩ := List.mem_filterMap.mp (foldl_after_free (.inl rfl) (by rw [h]; simp))
  exact Deed.move?_eq_attach.mp hm ▸ hd

end LabStream
