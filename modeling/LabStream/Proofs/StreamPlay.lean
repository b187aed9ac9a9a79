import LabStream.Proofs.StreamRun
import LabStream.Proofs.WatcherRun

namespace LabStream

variable {σ τ : Type}

theorem Crew.watcher?_of_mem {crew : Crew σ} {w : Watcher} (hu : (crew.watchers.map (·.number)).Nodup)
    (hw : w ∈ crew.watchers) : crew.watcher? w.number = some w := by
  obtain ⟨v, hv⟩ : ∃ v, crew.watcher? w.number = some v :=
    Option.isSome_iff_exists.mp (List.find?_isSome.mpr ⟨w, hw, by simp⟩)
  obtain ⟨hmem, hnumber⟩ := Crew.mem_of_watcher? hv
  rw [hv, List.inj_on_of_nodup_map hu hmem hw hnumber]

namespace EventStream

variable (setup : StreamSetup σ τ) (s : EventStream σ τ)

/-- The tasks of a stream in the order in which they are looked at. -/
def tasks : List StreamTask :=
  .announcer :: s.crew.watchers.map (.watcher ·.number) ++ [.forwarder, .sampler, .main, .receiver, .joiner]

/-- The first turn that can be taken, with what happens in it. -/
def nextTurn : Option (EventStream σ τ × List StreamMove) :=
  s.tasks.findSome? fun task => (s.turn setup task).map fun s' => (s', s.moved setup s' task)

/-- A stream after some of its own steps, with what has happened in them. -/
def play : Nat → EventStream σ τ → EventStream σ τ × List StreamMove
  | 0, s => (s, [])
  | fuel + 1, s =>
    match s.nextTurn setup with
    | some (s', new) => ((play fuel s').1, new ++ (play fuel s').2)
    | none => (s, [])

variable {setup s}

/-- The stream itself takes a turn as one of its three tasks. -/
theorem stepMain_eq : s.stepMain setup =
    (s.turn setup .main).or ((s.turn setup .receiver).or (s.turn setup .joiner)) := by
  cases hrunning : s.isRunning with
  | false => simp [turn, hrunning]
  | true =>
    have hphase := phase_of_isRunning hrunning
    cases hc : s.crew.isCancelled s.crew.token <;> simp [turn, hrunning, hc, stepMain, hphase]

theorem stepWatchers_eq (hu : (s.crew.watchers.map (·.number)).Nodup) :
    s.stepWatchers setup = (s.crew.watchers.map fun w => .watcher w.number).findSome? (s.turn setup) := by
  have hturn (w : Watcher) (hw : w ∈ s.crew.watchers) : s.turn setup (.watcher w.number) =
      (s.crew.stepWatcher setup.runtime setup.monitor w).map fun crew => { s with crew } := by
    rw [turn, s.crew.watcher?_of_mem hu hw, Option.bind_eq_bind, Option.bind_some]
    cases s.crew.stepWatcher setup.runtime setup.monitor w <;> rfl
  have hsteps : s.stepWatchers setup = (s.crew.step setup.runtime setup.monitor).map fun crew => { s with crew } := by
    unfold stepWatchers
    cases s.crew.step setup.runtime setup.monitor <;> rfl
  rw [hsteps, Crew.step, List.map_findSome?, List.findSome?_map]
  generalize s.crew.watchers = watchers at hturn
  induction watchers with
  | nil => rfl
  | cons w watchers ih =>
    rw [List.findSome?_cons, List.findSome?_cons, Function.comp_apply, Function.comp_apply,
      hturn w List.mem_cons_self, ih fun v hv => hturn v (List.mem_cons_of_mem w hv)]

/-- A stream steps with the first task that can take a turn. -/
theorem step_eq (hu : (s.crew.watchers.map (·.number)).Nodup) :
    s.step setup = s.tasks.findSome? (s.turn setup) := by
  have hannouncer : s.stepAnnouncer = s.turn setup .announcer := rfl
  have hforwarder : s.stepForwarder setup = s.turn setup .forwarder := rfl
  have hsampler : s.stepSampler setup = s.turn setup .sampler := rfl
  have hfirst (task : StreamTask) (rest : List StreamTask) :
      (task :: rest).findSome? (s.turn setup) = (s.turn setup task).or (rest.findSome? (s.turn setup)) := by
    rw [List.findSome?_cons]
    cases s.turn setup task <;> rfl
  rw [step, hannouncer, stepWatchers_eq hu, hforwarder, hsampler, stepMain_eq, tasks, List.cons_append, hfirst,
    List.findSome?_append]
  simp only [hfirst, List.findSome?_nil, Option.or_none]

theorem step_nextTurn (hu : (s.crew.watchers.map (·.number)).Nodup) :
    s.step setup = (s.nextTurn setup).map (·.1) := by
  rw [step_eq hu, nextTurn, List.map_findSome?]
  congr 1
  funext task
  simp [Function.comp_def]

end EventStream

namespace StreamRun

variable {setup : StreamSetup σ τ} {s s' : EventStream σ τ} {moves new : List StreamMove}

theorem numbers_nodup (run : StreamRun setup s moves) : (s.crew.watchers.map (·.number)).Nodup := by
  obtain ⟨_, crewRun⟩ := run.crewRun
  exact crewRun.kept.nodup

theorem nextTurn (run : StreamRun setup s moves) (h : s.nextTurn setup = some (s', new)) :
    StreamRun setup s' (moves ++ new) := by
  obtain ⟨task, -, hturn⟩ := List.exists_of_findSome?_eq_some h
  obtain ⟨next, hnext, heq⟩ := Option.map_eq_some_iff.mp hturn
  cases heq
  exact run.turn task hnext

/-- What a stream does by itself is one of its runs. -/
theorem play (run : StreamRun setup s moves) (fuel : Nat) :
    StreamRun setup (s.play setup fuel).1 (moves ++ (s.play setup fuel).2) := by
  induction fuel generalizing s moves with
  | zero => simpa [EventStream.play] using run
  | succ fuel ih =>
    unfold EventStream.play
    split
    next s' new h =>
      rw [← List.append_assoc]
      exact ih (run.nextTurn h)
    next => simpa using run

theorem settle_eq (run : StreamRun setup s moves) (fuel : Nat) :
    (EventStream.clockwork setup).settle fuel s = (s.play setup fuel).1 := by
  induction fuel generalizing s moves with
  | zero => rfl
  | succ fuel ih =>
    have hstep : (EventStream.clockwork setup).step s = (s.nextTurn setup).map (·.1) :=
      EventStream.step_nextTurn run.numbers_nodup
    rw [Clockwork.settle, EventStream.play, hstep]
    cases h : s.nextTurn setup with
    | none => rfl
    | some next => exact ih (run.nextTurn h)

end StreamRun

def StreamSetup.scripted (options : StreamOptions) : StreamSetup ScriptedWorld String :=
  ⟨options, ScriptedWorld.runtime "docker", ScriptedWorld.monitor, none, .empty, ScriptedWorld.write⟩

/-- A message that says no more than what happens to whom. -/
def RuntimeEvent.bare (kind action id : String) : RuntimeEvent := ⟨kind, action, "", id, "", ∅, none⟩

end LabStream
