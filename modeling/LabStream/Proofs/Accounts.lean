import Mathlib.Data.List.Nodup
import LabStream.Proofs.Lists
import LabStream.Proofs.TableStage

namespace LabStream

variable {σ τ : Type} {b : TrafficBackend σ τ}

/-- What an entry tells is what the backend does. -/
def Entry.Faithful (b : TrafficBackend σ τ) (tables : List τ) (e : Entry σ) : Prop :=
  match e.deed with
  | .prepare => e.after = (b.prepare e.before).1
  | .discover => ∃ containers, e.after = (b.discover containers e.before).1
  | .load _ => ∃ spec, e.after = (b.load spec e.before).1
  | .links n => ∃ t, tables[n]? = some t ∧ e.after = (b.links t e.before).1
  | .attach n ifname done => ∃ t, tables[n]? = some t ∧ e.after = (b.attach t ifname e.before).1 ∧
      (b.attach t ifname e.before).2.toOption.isSome = done
  | .detach n ifname => ∃ t, tables[n]? = some t ∧ e.after = b.detach t ifname e.before
  | .read n tally => ∃ t, tables[n]? = some t ∧ e.after = (b.read t e.before).1 ∧
      (b.read t e.before).2.toOption = tally
  | .close n => ∃ t, tables[n]? = some t ∧ e.after = b.close t e.before
  | .finish => e.after = b.finish e.before

theorem number_ne {before after : List (CountedScope (Numbered τ))} {scope : CountedScope (Numbered τ)}
    (h : ((before ++ scope :: after).map (·.table.number)).Nodup) :
    ∀ other ∈ before ++ after, other.table.number ≠ scope.table.number := by
  rw [List.map_append, List.map_cons, List.nodup_middle, List.nodup_cons, ← List.map_append] at h
  exact fun other ho he => h.1 (he ▸ List.mem_map_of_mem ho)

theorem Entry.Faithful.append {tables : List τ} {e : Entry σ} (h : e.Faithful b tables) (more : List τ) :
    e.Faithful b (tables ++ more) := by
  obtain ⟨deed, before, after⟩ := e
  cases deed with
  | prepare | discover | load | finish => exact h
  | links | attach | detach | read | close =>
    obtain ⟨t, ht, hrest⟩ := h
    exact ⟨t, getElem?_append_some ht, hrest⟩

theorem Ledger.stage_add_other {l : Ledger σ τ} {e : Entry σ} {n : Nat} (h : e.deed.table? ≠ some n)
    (ifname : String) : stage n ifname (l.add e).deeds = stage n ifname l.deeds := by
  rw [deeds_add]
  exact stage_append_other h

/-- The stage of an interface for a table that has certain interfaces attached. -/
def stageIn (attached : Std.ExtTreeSet String) (ifname : String) : Stage :=
  if ifname ∈ attached then .held else .free

@[simp] theorem after_stageIn_use (attached : Std.ExtTreeSet String) (ifname : String) :
    (stageIn attached ifname).after .use = stageIn attached ifname := by
  by_cases h : ifname ∈ attached <;> simp [stageIn, h, Stage.after]

/-- A ledger and the scopes whose tables are still in use: each table is known to be attached to just
what its scope says, all other tables are closed, and every entry tells the truth. -/
structure Accounts (b : TrafficBackend σ τ) (l : Ledger σ τ) (live : List (CountedScope (Numbered τ))) :
    Prop where
  distinct : (live.map (·.table.number)).Nodup
  known : ∀ scope ∈ live, l.tables[scope.table.number]? = some scope.table.table
  attached : ∀ scope ∈ live, ∀ ifname,
    stage scope.table.number ifname l.deeds = stageIn scope.attached ifname
  closed : ∀ n < l.tables.length, n ∉ live.map (·.table.number) → ∀ ifname, stage n ifname l.deeds = .closed
  unborn : ∀ n ≥ l.tables.length, ∀ ifname, stage n ifname l.deeds = .free
  loads : l.deeds.count (.load true) = l.tables.length
  unfinished : .finish ∉ l.deeds
  faithful : ∀ e ∈ l.entries, e.Faithful b l.tables

namespace Accounts

variable {l : Ledger σ τ} {live before after : List (CountedScope (Numbered τ))}
  {scope scope' : CountedScope (Numbered τ)} {e : Entry σ}

theorem empty : Accounts b (.empty : Ledger σ τ) [] where
  distinct := List.nodup_nil
  known := by simp
  attached := by simp
  closed := by simp [Ledger.empty]
  unborn _ _ _ := rfl
  loads := rfl
  unfinished := by simp
  faithful := by simp [Ledger.empty]

theorem number_lt (h : Accounts b l live) (hs : scope ∈ live) : scope.table.number < l.tables.length :=
  (List.getElem?_eq_some_iff.mp (h.known scope hs)).1

/-- A deed for one of the scopes: only its table is concerned. -/
theorem touch (h : Accounts b l (before ++ scope :: after)) (he : e.deed.table? = some scope.table.number)
    (hf : e.Faithful b l.tables) (ht : scope'.table = scope.table)
    (hs : ∀ ifname, ((e.deed.move? scope.table.number ifname).toList).foldl Stage.after
      (stageIn scope.attached ifname) = stageIn scope'.attached ifname) :
    Accounts b (l.add e) (before ++ scope' :: after) := by
  have hnumbers : (before ++ scope' :: after).map (·.table.number) =
      (before ++ scope :: after).map (·.table.number) := by simp [ht]
  obtain ⟨hknown, hknowns⟩ := forall_mem_middle.mp h.known
  obtain ⟨hattached, hattacheds⟩ := forall_mem_middle.mp h.attached
  have hother : ∀ n ifname, n ≠ scope.table.number →
      stage n ifname (l.add e).deeds = stage n ifname l.deeds := by
    intro n ifname hn
    exact Ledger.stage_add_other (by rw [he]; exact fun h => hn (Option.some.inj h).symm) ifname
  have hlt : scope.table.number < l.tables.length := (List.getElem?_eq_some_iff.mp hknown).1
  refine ⟨hnumbers ▸ h.distinct, ?_, ?_, ?_, ?_, ?_, ?_, ?_⟩
  · exact forall_mem_middle.mpr ⟨by rw [ht]; exact hknown, hknowns⟩
  · refine forall_mem_middle.mpr ⟨fun ifname => ?_, fun other ho ifname => ?_⟩
    · rw [Ledger.deeds_add, stage_append, ht, hattached, hs]
    · rw [hother _ _ (number_ne h.distinct other ho)]
      exact hattacheds other ho ifname
  · intro n hn hnot ifname
    rw [hnumbers] at hnot
    rw [hother _ _ (fun heq => hnot (by simp [heq]))]
    exact h.closed n hn hnot ifname
  · intro n hn ifname
    have hne : n ≠ scope.table.number := by have : l.tables.length ≤ n := hn; omega
    rw [hother _ _ hne]
    exact h.unborn n hn ifname
  · have hne : e.deed ≠ .load true := fun hd => by simp [hd, Deed.table?] at he
    rw [Ledger.deeds_add, List.count_append, h.loads, List.count_singleton, if_neg (by simpa using hne)]
    rfl
  · have hne : e.deed ≠ .finish := fun hd => by simp [hd, Deed.table?] at he
    simpa [hne.symm] using h.unfinished
  · exact List.forall_mem_append.mpr ⟨h.faithful, List.forall_mem_singleton.mpr hf⟩

/-- A deed without a table that loads nothing and does not come last. -/
theorem outside (h : Accounts b l live) (he : e.deed.table? = none) (hl : e.deed ≠ .load true)
    (hf : e.deed ≠ .finish) (ht : e.Faithful b l.tables) : Accounts b (l.add e) live := by
  have hother : ∀ n ifname, stage n ifname (l.add e).deeds = stage n ifname l.deeds :=
    fun n ifname => Ledger.stage_add_other (by simp [he]) ifname
  refine ⟨h.distinct, h.known, ?_, ?_, ?_, ?_, ?_, ?_⟩
  · simpa only [hother] using h.attached
  · simpa only [hother, Ledger.tables_add] using h.closed
  · simpa only [hother, Ledger.tables_add] using h.unborn
  · rw [Ledger.deeds_add, List.count_append, h.loads, List.count_singleton, if_neg (by simpa using hl)]
    rfl
  · simpa [hf.symm] using h.unfinished
  · exact List.forall_mem_append.mpr ⟨h.faithful, List.forall_mem_singleton.mpr ht⟩

/-- A table that is loaded gets the next number. -/
theorem load (h : Accounts b l live) (he : e.deed = .load true) (hf : ∀ tables, e.Faithful b tables)
    (table : τ) (spec : TrafficScope) :
    Accounts b ((l.add e).addTable table) (live ++ [.fresh spec ⟨l.tables.length, table⟩]) := by
  have hother : ∀ n ifname, stage n ifname ((l.add e).addTable table).deeds = stage n ifname l.deeds := by
    intro n ifname
    rw [Ledger.deeds_addTable]
    exact Ledger.stage_add_other (by simp [he, Deed.table?]) ifname
  refine ⟨?_, ?_, ?_, ?_, ?_, ?_, ?_, ?_⟩
  · rw [List.map_append, List.nodup_append]
    refine ⟨h.distinct, by simp, ?_⟩
    intro n hn m hm
    obtain ⟨other, ho, rfl⟩ := List.mem_map.mp hn
    have hlt := h.number_lt ho
    have hm' : m = l.tables.length := by simpa [CountedScope.fresh] using hm
    omega
  · refine List.forall_mem_append.mpr ⟨fun other ho => getElem?_append_some (h.known other ho), ?_⟩
    simp [CountedScope.fresh]
  · simp only [hother]
    refine List.forall_mem_append.mpr ⟨h.attached, List.forall_mem_singleton.mpr fun ifname => ?_⟩
    refine (h.unborn l.tables.length (Nat.le_refl _) ifname).trans ?_
    simp [stageIn, CountedScope.fresh]
  · intro n hn hnot ifname
    rw [hother]
    simp only [List.map_append, List.mem_append, not_or, CountedScope.fresh, List.map_cons, List.map_nil,
      List.mem_singleton] at hnot
    have hlen : n < l.tables.length + 1 := by simpa using hn
    exact h.closed n (by omega) hnot.1 ifname
  · intro n hn ifname
    rw [hother]
    have hlen : l.tables.length + 1 ≤ n := by simpa using hn
    exact h.unborn n (by omega) ifname
  · simp [h.loads, he]
  · simpa [he] using h.unfinished
  · refine List.forall_mem_append.mpr ⟨fun other ho => (h.faithful other ho).append [table], ?_⟩
    exact List.forall_mem_singleton.mpr (hf _)

theorem close (h : Accounts b l (scope :: live)) (hs : scope.attached = ∅)
    (he : e.deed = .close scope.table.number) (hf : e.Faithful b l.tables) : Accounts b (l.add e) live := by
  obtain ⟨hnot, hdistinct⟩ := List.nodup_cons.mp (List.map_cons ▸ h.distinct)
  have hlt := h.number_lt List.mem_cons_self
  have hother : ∀ n ifname, n ≠ scope.table.number →
      stage n ifname (l.add e).deeds = stage n ifname l.deeds := by
    intro n ifname hn
    exact Ledger.stage_add_other (by rw [he]; exact fun h => hn (Option.some.inj h).symm) ifname
  refine ⟨hdistinct, fun other ho => h.known other (List.mem_cons_of_mem _ ho), ?_, ?_, ?_, ?_, ?_, ?_⟩
  · intro other ho ifname
    rw [hother _ _ (fun heq => hnot (heq ▸ List.mem_map_of_mem ho))]
    exact h.attached other (List.mem_cons_of_mem _ ho) ifname
  · intro n hn hgone ifname
    by_cases heq : n = scope.table.number
    · subst heq
      rw [Ledger.deeds_add, stage_append, h.attached scope List.mem_cons_self, hs, he]
      simp [Deed.move?, stageIn, Stage.after]
    · rw [hother _ _ heq]
      exact h.closed n hn (by simpa [heq] using hgone) ifname
  · intro n hn ifname
    have hge : l.tables.length ≤ n := hn
    rw [hother _ _ (by omega)]
    exact h.unborn n hn ifname
  · rw [Ledger.deeds_add, List.count_append, h.loads, he]
    simp
  · simpa [he] using h.unfinished
  · exact List.forall_mem_append.mpr ⟨h.faithful, List.forall_mem_singleton.mpr hf⟩

theorem replace (h : Accounts b l (before ++ scope :: after)) (ht : scope'.table = scope.table)
    (ha : scope'.attached = scope.attached) : Accounts b l (before ++ scope' :: after) := by
  have hnumbers : (before ++ scope' :: after).map (·.table.number) =
      (before ++ scope :: after).map (·.table.number) := by simp [ht]
  obtain ⟨hknown, hknowns⟩ := forall_mem_middle.mp h.known
  obtain ⟨hattached, hattacheds⟩ := forall_mem_middle.mp h.attached
  refine ⟨hnumbers ▸ h.distinct, ?_, ?_, hnumbers ▸ h.closed, h.unborn, h.loads, h.unfinished, h.faithful⟩
  · exact forall_mem_middle.mpr ⟨by rw [ht]; exact hknown, hknowns⟩
  · exact forall_mem_middle.mpr ⟨by rw [ht, ha]; exact hattached, hattacheds⟩

/-- Nothing that reconciling asks for upsets the accounts. -/
theorem kept : Ledger.Kept b fun l scope => Accounts b l (before ++ scope :: after) where
  named _ h := h.replace rfl rfl
  listed {l scope} _ h := by
    refine h.touch rfl ⟨_, h.known scope (by simp), rfl⟩ rfl fun ifname => ?_
    simp [Deed.move?]
  attached {l scope ifname w w'} h hm hb := by
    refine h.touch rfl ⟨_, h.known scope (by simp), by simp [hb], by simp [hb, Except.toOption]⟩ rfl ?_
    intro other
    by_cases he : ifname = other
    · subst he
      simp [Deed.move?, stageIn, hm, Stage.after]
    · have hi : stageIn (scope.attached.insert ifname) other = stageIn scope.attached other := by
        simp [stageIn, he]
      simp [Deed.move?, he, hi]
  refused {l scope ifname w w' e} h hm hb := by
    refine h.touch rfl ⟨_, h.known scope (by simp), by simp [hb], by simp [hb, Except.toOption]⟩ rfl ?_
    intro other
    by_cases he : ifname = other
    · subst he
      simp [Deed.move?, stageIn, hm, Stage.after]
    · simp [Deed.move?, he]
  detached {l scope ifname} _ h hm := by
    refine h.touch rfl ⟨_, h.known scope (by simp), rfl⟩ rfl ?_
    intro other
    by_cases he : ifname = other
    · subst he
      simp [Deed.move?, stageIn, hm, Stage.after]
    · have hi : stageIn (scope.attached.erase ifname) other = stageIn scope.attached other := by
        simp [stageIn, he]
      simp [Deed.move?, he, hi]

theorem reconcile (host : Traced (LedgerWorld σ τ))
    (h : Accounts b host.world.ledger (before ++ scope :: after)) :
    Accounts b (scope.reconcile b.recorded host).1.world.ledger
      (before ++ (scope.reconcile b.recorded host).2.1 :: after) :=
  kept.onHost.reconcile h

theorem detachAll (host : Traced (LedgerWorld σ τ))
    (h : Accounts b host.world.ledger (before ++ scope :: after)) :
    Accounts b (scope.detachAll b.recorded host).1.world.ledger
      (before ++ (scope.detachAll b.recorded host).2 :: after) :=
  kept.onHost.detachAll h

theorem readTally {host : Traced (LedgerWorld σ τ)}
    (h : Accounts b host.world.ledger (before ++ scope :: after)) :
    Accounts b (scope.readTally b.recorded host).1.world.ledger (before ++ scope :: after) := by
  refine h.touch rfl ⟨_, h.known scope (by simp), rfl, rfl⟩ rfl fun ifname => ?_
  simp [Deed.move?]

end Accounts

end LabStream
