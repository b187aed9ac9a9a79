import Mathlib.Tactic.SplitIfs
import LabStream.TcBackend
import LabStream.Proofs.Accounts

namespace LabStream

namespace TcHost

variable {σ : Type} (host : TcHost σ)

@[simp] theorem actions_directory (path : String) (s : TcWorld σ) :
    (host.directory path s).1.actions = s.actions := rfl

@[simp] theorem actions_pinAt (path : String) (s : TcWorld σ) : (host.pinAt path s).1.actions = s.actions := rfl

@[simp] theorem actions_loadProgramFor (object : ClassifierObject) (table : TcTable) (hook : Hook)
    (s : TcWorld σ) :
    (host.loadProgramFor object table hook s).1.actions = s.actions := by
  unfold loadProgramFor
  dsimp only
  split
  · rfl
  · split_ifs
    · rfl
    · split
      · rfl
      · exact host.actions_pinAt _ s

@[simp] theorem actions_loadMap (object : ClassifierObject) (table : TcTable) (s : TcWorld σ) :
    (host.loadMap object table s).1.actions = s.actions := by
  have hp := host.actions_pinAt table.mapPin s
  unfold loadMap
  split
  · rfl
  · split
    next heq => rwa [heq] at hp
    next heq => rwa [heq] at hp

@[simp] theorem actions_loadObject (object : ClassifierObject) (table : TcTable) (s : TcWorld σ) :
    (host.loadObject object table s).1.actions = s.actions := by
  have hi := host.actions_loadProgramFor object table .ingress s
  unfold loadObject
  split
  next heq => rwa [heq] at hi
  next s' heq =>
    rw [heq] at hi
    have he := host.actions_loadProgramFor object table .egress s'
    split
    next heq => rw [heq] at he; exact he.trans hi
    next heq => rw [heq] at he; exact (host.actions_loadMap object table _).trans (he.trans hi)

@[simp] theorem actions_load (places : TcPlaces) (scope : TrafficScope) (s : TcWorld σ) :
    (host.load places scope s).1.actions = s.actions := by
  have hd := host.actions_directory (places.scopeDirectory scope) s
  unfold load
  dsimp only
  split
  next heq => rwa [heq] at hd
  next s' heq =>
    rw [heq] at hd
    split
    next => exact hd
    next object _ =>
      have hl := host.actions_loadObject object ⟨scope, places.scopeDirectory scope⟩
        (host.removeFiles (TcTable.mk scope (places.scopeDirectory scope)).pins s')
      split
      next heq => rw [heq] at hl; exact hl.trans hd
      next heq => rw [heq] at hl; exact hl.trans hd

theorem actions_mountPins (s : TcWorld σ) :
    (host.mountPins s).1.actions = s.actions ∨
      (host.mountPins s).1.actions = s.actions ++ [.mount pinMount] := by
  have hd := host.actions_directory pinMount s
  unfold mountPins
  split
  next heq => rw [heq] at hd; exact .inl hd
  next heq =>
    rw [heq] at hd
    split
    next => exact .inl hd
    next => exact .inl hd
    next => exact .inr (by rw [← hd])

theorem actions_prepare (places : TcPlaces) (s : TcWorld σ) :
    (host.prepare places s).1.actions = s.actions ∨
      (host.prepare places s).1.actions = s.actions ++ [.mount pinMount] := by
  have hm := host.actions_mountPins s
  unfold prepare
  split_ifs
  · exact .inl rfl
  · split
    next heq => rwa [heq] at hm
    next heq => rwa [heq] at hm

@[simp] theorem actions_close (table : TcTable) (s : TcWorld σ) :
    (host.close table s).actions = s.actions := rfl

theorem actions_command (table : TcTable) (c : TcCommand) (s : TcWorld σ) :
    (host.command table c s).1.actions =
      s.actions ++ [.command table.scope.netns c (host.command table c s).2] := rfl

theorem actions_replaceFilter (table : TcTable) (ifname : String) (hook : Hook) (s : TcWorld σ) :
    ∃ outcome, (host.replaceFilter table ifname hook s).1.actions = s.actions ++
        [.command table.scope.netns (.replaceFilter ifname hook (table.programPin hook)) outcome] ∧
      (host.replaceFilter table ifname hook s).2.toOption.isSome = outcome.fault?.isNone := by
  refine ⟨(host.command table (.replaceFilter ifname hook (table.programPin hook)) s).2, rfl, ?_⟩
  simp only [replaceFilter]
  split
  next heq => rw [heq]; rfl
  next heq => rw [heq]; rfl

/-- The commands of an attachment: the one for egress comes only if the one for ingress was successful,
and decides then. -/
theorem actions_attach (table : TcTable) (ifname : String) {s : TcWorld σ}
    (enterable : host.enter table.scope.netns s.world = .ok ()) :
    ∃ first second,
      (second.fault? ≠ none ∧ (host.attach table ifname s).2.toOption.isSome = false ∧
        (host.attach table ifname s).1.actions = s.actions ++
          [.command table.scope.netns (.addQdisc ifname) first,
            .command table.scope.netns (.replaceFilter ifname .ingress (table.programPin .ingress)) second]) ∨
      (second.fault? = none ∧ ∃ third,
        (host.attach table ifname s).2.toOption.isSome = third.fault?.isNone ∧
        (host.attach table ifname s).1.actions = s.actions ++
          [.command table.scope.netns (.addQdisc ifname) first,
            .command table.scope.netns (.replaceFilter ifname .ingress (table.programPin .ingress)) second,
            .command table.scope.netns (.replaceFilter ifname .egress (table.programPin .egress)) third]) := by
  have hq := host.actions_command table (.addQdisc ifname) s
  simp only [attach, enterable]
  obtain ⟨second, hi, hs⟩ := host.actions_replaceFilter table ifname .ingress
    (host.command table (.addQdisc ifname) s).1
  refine ⟨(host.command table (.addQdisc ifname) s).2, second, ?_⟩
  split
  next s' fault heq =>
    rw [heq] at hi hs
    refine .inl ⟨fun hf => ?_, rfl, ?_⟩
    · simp [hf, Except.toOption] at hs
    · rw [hi, hq, List.append_assoc]
      rfl
  next s' heq =>
    rw [heq] at hi hs
    obtain ⟨third, he, ht⟩ := host.actions_replaceFilter table ifname .egress s'
    refine .inr ⟨by simpa [Except.toOption] using hs.symm, third, ht, ?_⟩
    rw [he, hi, hq, List.append_assoc, List.append_assoc]
    rfl

theorem actions_detach (table : TcTable) (ifname : String) {s : TcWorld σ}
    (enterable : host.enter table.scope.netns s.world = .ok ()) :
    ∃ first second, (host.detach table ifname s).actions = s.actions ++
      [.command table.scope.netns (.deleteFilter ifname .ingress) first,
        .command table.scope.netns (.deleteFilter ifname .egress) second] := by
  simp only [detach, enterable, actions_command, List.append_assoc, List.singleton_append]
  exact ⟨_, _, rfl⟩

end TcHost

/-- What is noted of a sampler over traffic control: the commands that it runs, each for a table, and the
closing of tables. -/
inductive TcNote where
  | ran (table : Option Nat) (netns : Option String) (command : TcCommand) (outcome : TcOutcome)
  | closed (table : Nat)
  deriving DecidableEq

def TcNote.ofAction? (table : Option Nat) : TcAction → Option TcNote
  | .command netns command outcome => some (.ran table netns command outcome)
  | .mount _ => none

def Deed.closing : Deed → List TcNote
  | close table => [.closed table]
  | _ => []

/-- The notes of an entry, from the actions that the world has kept in mind. -/
def Entry.notes {σ : Type} (e : Entry (TcWorld σ)) : List TcNote :=
  (e.after.actions.drop e.before.actions.length).filterMap (TcNote.ofAction? e.deed.table?) ++ e.deed.closing

def Ledger.notes {σ : Type} (l : Ledger (TcWorld σ) TcTable) : List TcNote := l.entries.flatMap Entry.notes

/-- The notes that a deed can have when all namespaces can be entered. -/
inductive Noted (netns : Nat → Option String) : Deed → List TcNote → Prop where
  | quiet {d} : (∀ n ifname m, d.move? n ifname = some m → m = .use) → Noted netns d []
  | refused {n ifname first pin second} : TcOutcome.fault? second ≠ none →
    Noted netns (.attach n ifname false)
      [.ran n (netns n) (.addQdisc ifname) first, .ran n (netns n) (.replaceFilter ifname .ingress pin) second]
  | half {n ifname first pin second pin' third} : TcOutcome.fault? second = none →
    TcOutcome.fault? third ≠ none → Noted netns (.attach n ifname false)
      [.ran n (netns n) (.addQdisc ifname) first, .ran n (netns n) (.replaceFilter ifname .ingress pin) second,
        .ran n (netns n) (.replaceFilter ifname .egress pin') third]
  | whole {n ifname first pin second pin' third} : TcOutcome.fault? second = none →
    TcOutcome.fault? third = none → Noted netns (.attach n ifname true)
      [.ran n (netns n) (.addQdisc ifname) first, .ran n (netns n) (.replaceFilter ifname .ingress pin) second,
        .ran n (netns n) (.replaceFilter ifname .egress pin') third]
  | detached {n ifname first second} : Noted netns (.detach n ifname)
      [.ran n (netns n) (.deleteFilter ifname .ingress) first,
        .ran n (netns n) (.deleteFilter ifname .egress) second]
  | closed {n} : Noted netns (.close n) [.closed n]

def netnsOf (tables : List TcTable) (n : Nat) : Option String := tables[n]?.bind (·.scope.netns)

theorem Entry.notes_of_actions {σ : Type} {e : Entry (TcWorld σ)} {new : List TcAction}
    (h : e.after.actions = e.before.actions ++ new) :
    e.notes = new.filterMap (TcNote.ofAction? e.deed.table?) ++ e.deed.closing := by
  simp [notes, h]

theorem Deed.closing_of_use {d : Deed} (h : ∀ n ifname m, d.move? n ifname = some m → m = .use) :
    d.closing = [] := by
  cases d with
  | close n => exact absurd (h n "" .close (by simp [move?])) (by simp)
  | _ => rfl

/-- An entry that leaves all attachments alone and runs no command. -/
theorem Noted.of_mounts {σ : Type} {netns : Nat → Option String} {e : Entry (TcWorld σ)} (mounts : List String)
    (hu : ∀ n ifname m, e.deed.move? n ifname = some m → m = .use)
    (ha : e.after.actions = e.before.actions ++ mounts.map .mount) : Noted netns e.deed e.notes := by
  have hnone : (mounts.map TcAction.mount).filterMap (TcNote.ofAction? e.deed.table?) = [] := by
    simp [List.filterMap_eq_nil_iff, TcNote.ofAction?]
  rw [Entry.notes_of_actions ha, Deed.closing_of_use hu, hnone]
  exact .quiet hu

theorem Entry.Faithful.noted {σ : Type} {host : TcHost σ} {places : TcPlaces} {tables : List TcTable}
    {e : Entry (TcWorld σ)} (h : e.Faithful (host.backend places) tables)
    (enterable : ∀ n ∈ e.deed.table?, host.enter (netnsOf tables n) e.before.world = .ok ()) :
    Noted (netnsOf tables) e.deed e.notes := by
  obtain ⟨deed, before, after⟩ := e
  cases deed with
  | prepare =>
    have ha : after = (host.prepare places before).1 := h
    rcases host.actions_prepare places before with hp | hp
    · exact .of_mounts [] (by simp [Deed.move?]) (by simp [ha, hp])
    · exact .of_mounts [TcHost.pinMount] (by simp [Deed.move?]) (by simp [ha, hp])
  | discover =>
    obtain ⟨containers, (ha : after = before)⟩ := h
    exact .of_mounts [] (by simp [Deed.move?]) (by simp [ha])
  | load =>
    obtain ⟨spec, (ha : after = (host.load places spec before).1)⟩ := h
    exact .of_mounts [] (by simp [Deed.move?]) (by simp [ha])
  | finish =>
    have ha : after = (host.backend places).finish before := h
    exact .of_mounts [] (by simp [Deed.move?]) (by simp [ha, TcHost.backend])
  | links n =>
    obtain ⟨t, -, (ha : after = before)⟩ := h
    exact .of_mounts [] (by simp [Deed.move?]) (by simp [ha])
  | read n tally =>
    obtain ⟨t, -, (ha : after = before), -⟩ := h
    exact .of_mounts [] (by simp [Deed.move?]) (by simp [ha])
  | attach n ifname done =>
    obtain ⟨t, ht, (ha : after = (host.attach t ifname before).1),
      (hd : (host.attach t ifname before).2.toOption.isSome = done)⟩ := h
    have hn : netnsOf tables n = t.scope.netns := by simp [netnsOf, ht]
    obtain ⟨first, second, ⟨hs, hf, hl⟩ | ⟨hs, third, ho, hl⟩⟩ := host.actions_attach t ifname
      (hn ▸ enterable n rfl)
    · rw [Entry.notes_of_actions ((congrArg TcWorld.actions ha).trans hl), ← hn, ← hd, hf]
      exact .refused hs
    · rw [Entry.notes_of_actions ((congrArg TcWorld.actions ha).trans hl), ← hn, ← hd, ho]
      cases hf : third.fault? with
      | none => exact .whole hs hf
      | some _ => exact .half hs (by simp [hf])
  | detach n ifname =>
    obtain ⟨t, ht, ha⟩ := h
    have hn : netnsOf tables n = t.scope.netns := by simp [netnsOf, ht]
    obtain ⟨first, second, hl⟩ := host.actions_detach t ifname (hn ▸ enterable n rfl)
    rw [Entry.notes_of_actions ((congrArg TcWorld.actions ha).trans hl), ← hn]
    exact .detached
  | close n =>
    obtain ⟨t, -, (ha : after = host.close t before)⟩ := h
    have hs : after.actions = before.actions ++ [] := by simp [ha]
    rw [Entry.notes_of_actions hs]
    exact .closed

end LabStream
