import LabStream.Proofs.Reconcile

namespace LabStream

/-- A table with its number. Tables are numbered in the order in which they were loaded. -/
structure Numbered (τ : Type) where
  number : Nat
  table : τ

/-- What was asked of a backend, with the numbers of the tables that it was asked of. -/
inductive Deed where
  | prepare
  | discover
  | load (done : Bool)
  | links (table : Nat)
  | attach (table : Nat) (ifname : String) (done : Bool)
  | detach (table : Nat) (ifname : String)
  | read (table : Nat) (tally : Option Tally)
  | close (table : Nat)
  | finish
  deriving DecidableEq

def Deed.table? : Deed → Option Nat
  | prepare | discover | load _ | finish => none
  | links table | attach table _ _ | detach table _ | read table _ | close table => some table

/-- A deed with the world before and after it. -/
structure Entry (σ : Type) where
  deed : Deed
  before : σ
  after : σ

/-- The tables that were loaded in a world, and what was done there, the last deed last. -/
structure Ledger (σ τ : Type) where
  tables : List τ
  entries : List (Entry σ)

namespace Ledger

variable {σ τ : Type}

def empty : Ledger σ τ := ⟨[], []⟩

def add (l : Ledger σ τ) (e : Entry σ) : Ledger σ τ := { l with entries := l.entries ++ [e] }

def addTable (l : Ledger σ τ) (table : τ) : Ledger σ τ := { l with tables := l.tables ++ [table] }

def deeds (l : Ledger σ τ) : List Deed := l.entries.map (·.deed)

@[simp] theorem deeds_empty : (empty : Ledger σ τ).deeds = [] := rfl

@[simp] theorem deeds_add (l : Ledger σ τ) (e : Entry σ) : (l.add e).deeds = l.deeds ++ [e.deed] := by
  simp [deeds, add]

@[simp] theorem deeds_addTable (l : Ledger σ τ) (table : τ) : (l.addTable table).deeds = l.deeds := rfl

@[simp] theorem tables_add (l : Ledger σ τ) (e : Entry σ) : (l.add e).tables = l.tables := rfl

@[simp] theorem tables_addTable (l : Ledger σ τ) (table : τ) :
    (l.addTable table).tables = l.tables ++ [table] := rfl

end Ledger

structure LedgerWorld (σ τ : Type) where
  world : σ
  ledger : Ledger σ τ

namespace LedgerWorld

variable {σ τ : Type}

def enter (w : LedgerWorld σ τ) (deed : Deed) (after : σ) : LedgerWorld σ τ :=
  ⟨after, w.ledger.add ⟨deed, w.world, after⟩⟩

def loaded (w : LedgerWorld σ τ) (table : τ) (after : σ) : LedgerWorld σ τ :=
  ⟨after, (w.ledger.add ⟨.load true, w.world, after⟩).addTable table⟩

@[simp] theorem deeds_loaded (w : LedgerWorld σ τ) (table : τ) (after : σ) :
    (w.loaded table after).ledger.deeds = w.ledger.deeds ++ [.load true] := by simp [loaded]

end LedgerWorld

/-- The same backend, with a ledger of what it is asked for. -/
def TrafficBackend.recorded {σ τ : Type} (b : TrafficBackend σ τ) :
    TrafficBackend (LedgerWorld σ τ) (Numbered τ) where
  prepare w := (w.enter .prepare (b.prepare w.world).1, (b.prepare w.world).2)
  discover containers w :=
    (w.enter .discover (b.discover containers w.world).1, (b.discover containers w.world).2)
  load spec w :=
    match b.load spec w.world with
    | (after, .error e) => (w.enter (.load false) after, .error e)
    | (after, .ok table) => (w.loaded table after, .ok ⟨w.ledger.tables.length, table⟩)
  links t w := (w.enter (.links t.number) (b.links t.table w.world).1, (b.links t.table w.world).2)
  attach t ifname w :=
    let (after, result) := b.attach t.table ifname w.world
    (w.enter (.attach t.number ifname result.toOption.isSome) after, result)
  detach t ifname w := w.enter (.detach t.number ifname) (b.detach t.table ifname w.world)
  read t w :=
    let (after, result) := b.read t.table w.world
    (w.enter (.read t.number result.toOption) after, result)
  closeDelay t w := b.closeDelay t.table w.world
  close t w := w.enter (.close t.number) (b.close t.table w.world)
  finish w := w.enter .finish (b.finish w.world)

section

variable {σ τ : Type} {b : TrafficBackend σ τ} {spec : TrafficScope} {w : LedgerWorld σ τ} {after : σ}

theorem TrafficBackend.recorded_load_error {e : TrafficFault} (h : b.load spec w.world = (after, .error e)) :
    b.recorded.load spec w = (w.enter (.load false) after, .error e) := by
  simp only [recorded, h]

theorem TrafficBackend.recorded_attach {t : Numbered τ} {ifname : String} {result : Except TrafficFault Unit}
    (h : b.attach t.table ifname w.world = (after, result)) : b.recorded.attach t ifname w =
      (w.enter (.attach t.number ifname result.toOption.isSome) after, result) := by
  simp only [recorded, h]

theorem TrafficBackend.recorded_load_ok {table : τ} (h : b.load spec w.world = (after, .ok table)) :
    b.recorded.load spec w = (w.loaded table after, .ok ⟨w.ledger.tables.length, table⟩) := by
  simp only [recorded, h]

end

/-- What holds of a ledger and a scope at work whatever is asked of the backend for the scope. -/
structure Ledger.Kept {σ τ : Type} (b : TrafficBackend σ τ)
    (P : Ledger σ τ → CountedScope (Numbered τ) → Prop) : Prop where
  named : ∀ {l scope} (names : LinkNames), P l scope → P l { scope with names }
  listed : ∀ {l scope} (w : σ), P l scope →
    P (l.add ⟨.links scope.table.number, w, (b.links scope.table.table w).1⟩) scope
  attached : ∀ {l scope ifname w w'}, P l scope → ifname ∉ scope.attached →
    b.attach scope.table.table ifname w = (w', .ok ()) →
    P (l.add ⟨.attach scope.table.number ifname true, w, w'⟩)
      { scope with attached := scope.attached.insert ifname }
  refused : ∀ {l scope ifname w w' e}, P l scope → ifname ∉ scope.attached →
    b.attach scope.table.table ifname w = (w', .error e) →
    P (l.add ⟨.attach scope.table.number ifname false, w, w'⟩) scope
  detached : ∀ {l scope ifname} (w : σ), P l scope → ifname ∈ scope.attached →
    P (l.add ⟨.detach scope.table.number ifname, w, b.detach scope.table.table ifname w⟩)
      { scope with attached := scope.attached.erase ifname }

theorem Ledger.Kept.onHost {σ τ : Type} {b : TrafficBackend σ τ}
    {P : Ledger σ τ → CountedScope (Numbered τ) → Prop} (k : Ledger.Kept b P) :
    CountedScope.Kept b.recorded fun host scope => P host.world.ledger scope where
  named names h := k.named names h
  listed h := k.listed _ h
  attached {host scope ifname world} h hm hb := by
    obtain ⟨after, result, ha⟩ : ∃ after result,
        b.attach scope.table.table ifname host.world.world = (after, result) := ⟨_, _, rfl⟩
    simp only [TrafficBackend.recorded, ha, Prod.mk.injEq] at hb
    obtain ⟨rfl, rfl⟩ := hb
    exact k.attached h hm ha
  refused {host scope ifname world e} h hm hb := by
    obtain ⟨after, result, ha⟩ : ∃ after result,
        b.attach scope.table.table ifname host.world.world = (after, result) := ⟨_, _, rfl⟩
    simp only [TrafficBackend.recorded, ha, Prod.mk.injEq] at hb
    obtain ⟨rfl, rfl⟩ := hb
    exact k.refused h hm ha
  detached h hm := k.detached _ h hm

end LabStream
