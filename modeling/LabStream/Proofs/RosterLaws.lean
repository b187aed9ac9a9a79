import LabStream.Proofs.RosterRun
import LabStream.Proofs.WatcherRun

namespace LabStream

variable {σ : Type} {runtime : ContainerRuntime σ} {monitor : LinkMonitor σ} {crew crew' : Crew σ}
  {moves : List CrewMove} {move : CrewMove} {key : String} {n : Nat}

theorem CrewRun.settle (run : CrewRun runtime monitor crew moves) (number fuel : Nat) : ∃ steps,
    CrewRun runtime monitor ((Watcher.clockwork runtime monitor number).settle fuel crew)
      (moves ++ List.replicate steps (.watcher number)) := by
  induction fuel generalizing crew moves with
  | zero => exact ⟨0, by simpa [Clockwork.settle] using run⟩
  | succ fuel ih =>
    simp only [Clockwork.settle]
    split
    next hs =>
      obtain ⟨w, hw, hstep⟩ := Option.bind_eq_some_iff.mp hs
      obtain ⟨-, rfl⟩ := Crew.mem_of_watcher? hw
      obtain ⟨steps, h⟩ := ih (run.move (.watcher hw hstep))
      exact ⟨steps + 1, by simpa [List.replicate_succ] using h⟩
    next => exact ⟨0, by simpa using run⟩

/-- An entry goes with a stop, with a shutdown or with the last step of its own watcher. -/
theorem CrewStep.of_entry_gone (hstep : CrewStep runtime monitor crew move crew')
    (hk : crew.roster.entries[key]? = some n) (hgone : crew'.roster.entries[key]? ≠ some n) :
    move = .stop key (some n) ∨ (∃ numbers, move = .shutdown numbers ∧ n ∈ numbers) ∨
      move = .watcher n ∧ ∃ w, crew'.watcher? n = some w ∧ w.key = key ∧ w.phase = .done := by
  cases hstep with
  | start c =>
    exfalso
    by_cases ha : crew.roster.Admits c.identity
    · rw [Crew.start_admitted ha, Roster.getElem?_enter ha, if_neg (ha.ne hk)] at hgone
      exact hgone hk
    · rw [Crew.start_refused ha] at hgone
      exact hgone hk
  | stop other =>
    rw [Crew.dismiss_roster, Roster.getElem?_take] at hgone
    split at hgone
    next heq => exact .inl (by rw [Crew.dismiss_snd, heq, hk])
    next => exact absurd hk hgone
  | shutdown => exact .inr (.inl ⟨_, rfl, Roster.mem_drain hk⟩)
  | @watcher w _ hw hs =>
    obtain ⟨hub, w', hturn, hstepped⟩ := Crew.stepWatcher_turn hs
    rw [hstepped.roster] at hgone
    split at hgone
    next hl =>
      rw [Roster.getElem?_release] at hgone
      split at hgone
      next hown =>
        obtain ⟨rfl, hown⟩ := hown
        obtain rfl := Option.some.inj (hown.symm.trans hk)
        have hcont := hturn.continues
        exact .inr (.inr ⟨rfl, w', hstepped.watcher? hcont hw, hcont.key, hturn.completes.2.mpr hl⟩)
      next => exact absurd hk hgone
    next => exact absurd hk hgone
  | around => exact absurd hk hgone

theorem Crew.Kept.not_entered_of_done (h : crew.Kept moves) {w : Watcher} (hw : w ∈ crew.watchers)
    (hdone : w.phase = .done) : crew.roster.entries[key]? ≠ some w.number := by
  intro hk
  obtain ⟨-, v, hv, hn, -, hlive⟩ := h.entered hk
  obtain rfl := List.inj_on_of_nodup_map h.nodup hv hw hn
  exact hlive hdone

/-- Whoever starts, stops and shuts down, in whatever order: no container without a name is entered, no
number is given out twice, no entry goes but by a stop, a shutdown or the end of its own watcher, none stays
when its watcher is done, and no watcher at work is forgotten. -/
theorem CrewRun.roster_kept (run : CrewRun runtime monitor crew moves) :
    (∀ (key : String) (n : Nat), crew.roster.entries[key]? = some n → key ≠ "") ∧
    (moves.flatMap CrewMove.given).Nodup ∧
    crew.watchers.map (·.number) = moves.flatMap CrewMove.given ∧
    (∀ w ∈ crew.watchers, w.phase = .done → ∀ key : String, crew.roster.entries[key]? ≠ some w.number) ∧
    (∀ w ∈ crew.watchers, w.phase ≠ .done → crew.roster.entries[w.key]? ≠ some w.number →
      w.number ∈ moves.flatMap CrewMove.taken) ∧
    (∀ move crew', CrewStep runtime monitor crew move crew' → ∀ (key : String) (n : Nat),
      crew.roster.entries[key]? = some n → crew'.roster.entries[key]? ≠ some n →
        move = .stop key (some n) ∨ (∃ numbers, move = .shutdown numbers ∧ n ∈ numbers) ∨
          move = .watcher n ∧ ∃ w, crew'.watcher? n = some w ∧ w.key = key ∧ w.phase = .done) ∧
    (∀ c, (crew.start c).2 = true ↔ c.identity ≠ "" ∧ c.identity ∉ crew.roster.entries) ∧
    ∀ key, (crew.dismiss key).2.isSome ↔ key ∈ crew.roster.entries := by
  have h := run.kept
  refine ⟨fun _ _ hk => (h.entered hk).1, h.given ▸ List.nodup_range, h.numbers.trans h.given.symm, ?_, ?_,
    fun _ _ hstep _ _ => hstep.of_entry_gone, fun _ => Crew.start_iff, ?_⟩
  · exact fun w hw hdone key => h.not_entered_of_done hw hdone
  · intro w hw hlive hnot
    exact ((h.accounted hw).resolve_left hlive).resolve_left hnot
  · intro key
    rw [Crew.dismiss_snd, Std.ExtTreeMap.mem_iff_isSome_getElem?]

/-- A container that was stopped and started again, before its first watcher could do anything. -/
def Crew.restarted : Crew ScriptedWorld :=
  ((((idle .empty ⟨"lab", false, none⟩).start (.running "c")).1.dismiss "c").1.start (.running "c")).1

theorem CrewRun.restarted (runtime : ContainerRuntime ScriptedWorld) (monitor : LinkMonitor ScriptedWorld) :
    ∃ moves, CrewRun runtime monitor .restarted moves :=
  ⟨_, (((CrewRun.fresh rfl rfl).move (.start _)).move (.stop "c")).move (.start _)⟩

theorem roster_kept_after_restart : ∃ crew moves,
    CrewRun (ScriptedWorld.runtime "") ScriptedWorld.monitor crew moves ∧
      crew.roster.entries["c"]? = some 1 ∧ ∀ key : String, crew.roster.entries[key]? ≠ some 0 := by
  obtain ⟨_, restarted⟩ := CrewRun.restarted (ScriptedWorld.runtime "") ScriptedWorld.monitor
  obtain ⟨_, run⟩ := restarted.settle 0 9
  have ended : ∃ w ∈ ((Watcher.clockwork (ScriptedWorld.runtime "") ScriptedWorld.monitor 0).settle 9
      Crew.restarted).watchers, w.number = 0 ∧ w.phase = .done := by decide +kernel
  obtain ⟨w, hw, hn, hdone⟩ := ended
  exact ⟨_, _, run, by decide +kernel, fun key => hn ▸ run.roster_kept.2.2.2.1 w hw hdone key⟩

end LabStream
