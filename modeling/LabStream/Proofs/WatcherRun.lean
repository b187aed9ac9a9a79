import LabStream.Proofs.WatcherTurns
import LabStream.Rehearsal

namespace LabStream

variable {σ : Type} {runtime : ContainerRuntime σ} {monitor : LinkMonitor σ}

/-- A watcher at work in a crew from some moment on, with all events that it has sent since. Between its
steps others change the crew as they may, but for the watcher itself and the options. -/
inductive WatcherRun (runtime : ContainerRuntime σ) (monitor : LinkMonitor σ)
    (others : Watcher → Hub σ → Hub σ → Prop) (crew₀ : Crew σ) (w₀ : Watcher) :
    Crew σ → Watcher → List Event → Prop where
  | start : crew₀.watcher? w₀.number = some w₀ → WatcherRun runtime monitor others crew₀ w₀ crew₀ w₀ []
  | others {crew crew' w sent} : WatcherRun runtime monitor others crew₀ w₀ crew w sent →
    crew'.watcher? w.number = some w → crew'.options = crew.options → others w crew.toHub crew'.toHub →
    WatcherRun runtime monitor others crew₀ w₀ crew' w sent
  | step {crew crew' w w' sent} : WatcherRun runtime monitor others crew₀ w₀ crew w sent →
    crew.stepWatcher runtime monitor w = some crew' → crew'.watcher? w.number = some w' →
    WatcherRun runtime monitor others crew₀ w₀ crew' w'
      (sent ++ crew'.channel.queue.drop crew.channel.queue.length)

namespace WatcherRun

variable {others : Watcher → Hub σ → Hub σ → Prop} {crew₀ crew crew' : Crew σ} {w₀ w w' : Watcher}
  {sent : List Event}

theorem present (run : WatcherRun runtime monitor others crew₀ w₀ crew w sent) :
    crew.watcher? w.number = some w := by
  cases run with
  | start h => exact h
  | others _ h => exact h
  | step _ _ h =>
    have hn := List.find?_some h
    rw [decide_eq_true_eq] at hn
    rwa [hn]

theorem options (run : WatcherRun runtime monitor others crew₀ w₀ crew w sent) :
    crew.options = crew₀.options := by
  induction run with
  | start => rfl
  | others _ _ h _ ih => exact h.trans ih
  | step _ hs _ ih =>
    obtain ⟨_, _, _, hstepped⟩ := Crew.stepWatcher_turn hs
    exact hstepped.options.trans ih

/-- What a step of a run is. -/
theorem turn (run : WatcherRun runtime monitor others crew₀ w₀ crew w sent)
    (hs : crew.stepWatcher runtime monitor w = some crew') (hw : crew'.watcher? w.number = some w') :
    Crew.Turn runtime monitor crew w crew'.toHub w' := by
  obtain ⟨hub, next, hturn, hstepped⟩ := Crew.stepWatcher_turn hs
  have hnext := hstepped.watcher? hturn.continues run.present
  rw [hw] at hnext
  rw [hstepped.hub, Option.some.inj hnext]
  exact hturn

end WatcherRun

namespace Watcher

/-- The clock of one watcher of a crew, while all others stand still. -/
def clockwork (runtime : ContainerRuntime σ) (monitor : LinkMonitor σ) (number : Nat) : Clockwork (Crew σ) where
  step crew := (crew.watcher? number).bind (crew.stepWatcher runtime monitor)
  now crew := crew.now
  setNow crew now := { crew with now }
  wakeTimes crew := ((crew.watcher? number).bind Crew.wakeTime).toList

theorem settle_queue (runtime : ContainerRuntime σ) (monitor : LinkMonitor σ) (number fuel : Nat) (crew : Crew σ) :
    crew.channel.queue <+: ((clockwork runtime monitor number).settle fuel crew).channel.queue := by
  induction fuel generalizing crew with
  | zero => exact List.prefix_refl _
  | succ fuel ih =>
    simp only [Clockwork.settle]
    split
    next hs =>
      obtain ⟨w, _, hs⟩ := Option.bind_eq_some_iff.mp hs
      obtain ⟨hub, _, hturn, hstepped⟩ := Crew.stepWatcher_turn hs
      have hq := hturn.queue
      rw [← hstepped.hub] at hq
      exact hq.trans (ih _)
    next => exact List.prefix_refl _

end Watcher

namespace WatcherRun

variable {others : Watcher → Hub σ → Hub σ → Prop} {crew₀ crew : Crew σ} {w₀ w : Watcher} {sent : List Event}

/-- Settling, a watcher sends all that comes into the queue. -/
theorem settle (run : WatcherRun runtime monitor others crew₀ w₀ crew w sent) (number : Nat)
    (hn : w.number = number) (fuel : Nat) :
    let after := (Watcher.clockwork runtime monitor number).settle fuel crew
    ∃ w', w'.number = number ∧ after.watcher? number = some w' ∧
      WatcherRun runtime monitor others crew₀ w₀ after w'
        (sent ++ after.channel.queue.drop crew.channel.queue.length) := by
  subst hn
  induction fuel generalizing crew w sent with
  | zero => exact ⟨w, rfl, run.present, by simpa [Clockwork.settle] using run⟩
  | succ fuel ih =>
    simp only [Clockwork.settle]
    split
    next next hs =>
      obtain ⟨v, hv, hs⟩ := Option.bind_eq_some_iff.mp hs
      obtain rfl : w = v := Option.some.inj (run.present.symm.trans hv)
      obtain ⟨hub, w', hturn, hstepped⟩ := Crew.stepWatcher_turn hs
      have hcont := hturn.continues
      have hw' := hstepped.watcher? hcont run.present
      obtain ⟨new, hnew⟩ := hstepped.hub ▸ hturn.queue
      obtain ⟨more, hmore⟩ := Watcher.settle_queue runtime monitor w.number fuel next
      obtain ⟨last, hn, hlast, hrest⟩ := ih (run.step hs hw')
      rw [hcont.number] at hn hlast hrest
      exact ⟨last, hn, hlast, by simpa [← hmore, ← hnew] using hrest⟩
    next => exact ⟨w, rfl, run.present, by simpa using run⟩

theorem step_settle (run : WatcherRun runtime monitor others crew₀ w₀ crew w sent) (number : Nat)
    (hn : w.number = number) (hs : ((Watcher.clockwork runtime monitor number).step crew).isSome) :
    crew.stepWatcher runtime monitor w = some ((Watcher.clockwork runtime monitor number).settle 1 crew) := by
  subst hn
  obtain ⟨next, hnext⟩ := Option.isSome_iff_exists.mp hs
  simp only [Clockwork.settle, hnext]
  simpa [Watcher.clockwork, run.present] using hnext

end WatcherRun

instance (phase : WatchPhase) : Decidable (phase = .surveying) :=
  match phase with
  | .surveying => isTrue rfl
  | .resolving .. | .opening _ | .sending .. | .watching | .leaving | .done => isFalse nofun

instance (phase : WatchPhase) : Decidable (phase = .watching) :=
  match phase with
  | .watching => isTrue rfl
  | .resolving .. | .opening _ | .surveying | .sending .. | .leaving | .done => isFalse nofun

instance (phase : WatchPhase) : Decidable (phase = .done) :=
  match phase with
  | .done => isTrue rfl
  | .resolving .. | .opening _ | .surveying | .sending .. | .watching | .leaving => isFalse nofun

def Container.running (id : String) : Container := { blank with id, state := .running, pid := some 1 }

/-- A crew that has not started anybody yet. -/
def Crew.idle (world : σ) (options : WatchOptions) : Crew σ :=
  let hub : Hub σ := ⟨.start world, 0, 0, [], .ofCapacity 64, Rehearsal.root⟩
  { hub with roster := .empty, watchers := [], options }

def Crew.ofContainer (world : σ) (id : String) (options : WatchOptions) : Crew σ :=
  ((idle world options).start (.running id)).1

/-- A crew later on, when something around it has changed. -/
def Crew.amid (crew : Crew σ) (now : Nat) (change : σ → σ) : Crew σ :=
  { crew with now, host.world := change crew.host.world }

theorem WatcherRun.amid {others : Watcher → Hub σ → Hub σ → Prop} {crew₀ crew : Crew σ} {w₀ w : Watcher}
    {sent : List Event} (run : WatcherRun runtime monitor others crew₀ w₀ crew w sent) (now : Nat)
    (change : σ → σ) (h : others w crew.toHub (crew.amid now change).toHub) :
    WatcherRun runtime monitor others crew₀ w₀ (crew.amid now change) w sent :=
  run.others run.present rfl h

end LabStream
