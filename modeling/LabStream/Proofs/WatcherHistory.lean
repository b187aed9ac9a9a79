import LabStream.Proofs.WatcherRun

namespace LabStream

variable {σ : Type} {runtime : ContainerRuntime σ} {monitor : LinkMonitor σ}

/-- What a watcher takes in or says in a step, with the time of what it takes in. -/
inductive WatchMove where
  | surveyed (inventory : List Link) (now : Nat)
  | learned (update : LinkUpdate) (now : Nat)
  | took (links : List Link) (now : Nat)
  | sent (event : Event)
  deriving DecidableEq

def WatchMove.sent? : WatchMove → Option Event
  | sent event => some event
  | surveyed .. | learned .. | took .. => none

namespace Watcher

/-- A watcher that has not seen its inventory yet. -/
def isNew (w : Watcher) : Bool :=
  match w.phase with
  | .resolving .. | .opening _ | .surveying => true
  | .sending .. | .watching | .leaving | .done => false

/-- A watcher whose books stay as they are, and which has nothing more to say. -/
structure Idles (w w' : Watcher) : Prop where
  container : w'.container = w.container
  table : w'.table = w.table
  readings : w'.readings = w.readings
  isNew : w'.isNew → w.isNew
  silent : w'.phase = w.phase ∨ ∀ event rest begins, w'.phase ≠ .sending event rest begins

theorem Idles.refl (w : Watcher) : w.Idles w := ⟨rfl, rfl, rfl, id, .inl rfl⟩

theorem Idles.parted (w : Watcher) : w.Idles w.parted := ⟨rfl, rfl, rfl, nofun, .inr nofun⟩

end Watcher

namespace Crew

variable {crew : Crew σ} {w w' : Watcher} {hub : Hub σ} {new : List WatchMove}

/-- What one step of a watcher can be, with its moves. A tick and an update that are there at one time may
come in any order. -/
inductive Moved (runtime : ContainerRuntime σ) (monitor : LinkMonitor σ) (crew : Crew σ) (w : Watcher) :
    Hub σ → Watcher → List WatchMove → Prop where
  | surveyed {inventory} : w.phase = .surveying →
    inventory = (crew.listLinks monitor w).2.toOption.getD [] →
    Moved runtime monitor crew w (crew.listLinks monitor w).1.toHub
      ((w.survey inventory crew.now).report crew.options ((w.survey inventory crew.now).opening crew.options) true
        crew.now crew.instant) [.surveyed inventory crew.now]
  | learned {handle path host update} : w.phase = .watching → w.links = some (handle, path) →
    crew.host.observe (monitor.nextUpdate handle path) = (host, .update update) →
    Moved runtime monitor crew w { crew.toHub with host }
      ((w.learn update crew.now).1.report crew.options (w.learn update crew.now).2 false crew.now crew.instant)
      [.learned update crew.now]
  | took {links} : w.phase = .watching → w.isDue crew.toHub → (crew.listLinks monitor w).2 = .ok links →
    Moved runtime monitor crew w (crew.listLinks monitor w).1.toHub
      (((w.ticked crew.now).readAll links crew.now).1.report crew.options
        ((w.ticked crew.now).readAll links crew.now).2 false crew.now crew.instant) [.took links crew.now]
  | sent {event rest begins channel} : w.phase = .sending event rest begins →
    channel.queue = crew.channel.queue ++ [event] →
    Moved runtime monitor crew w { crew.toHub with channel }
      (w.report crew.options rest begins crew.now crew.instant) [.sent event]
  | idle {after : Hub σ} {w' : Watcher} : Turn runtime monitor crew w after w' →
    after.channel.queue = crew.channel.queue → w.Idles w' → Moved runtime monitor crew w after w' []

/-- Every turn is made of such moves, and they tell what it sends. -/
theorem Turn.moved (h : Turn runtime monitor crew w hub w') : ∃ new, Moved runtime monitor crew w hub w' new ∧
    hub.channel.queue = crew.channel.queue ++ new.filterMap WatchMove.sent? := by
  obtain ⟨host, hkeeps⟩ := crew.listLinks_keeps monitor w
  have hturn := h
  cases h with
  | surveyed hp hmet =>
    subst hmet
    exact ⟨_, .surveyed hp rfl, by simp [hkeeps, WatchMove.sent?]⟩
  | learned hp hl hpoll => exact ⟨_, .learned hp hl hpoll, by simp [WatchMove.sent?]⟩
  | read hp hd hlist => exact ⟨_, .took hp hd hlist, by simp [hkeeps, WatchMove.sent?]⟩
  | sent hp hq => exact ⟨_, .sent hp hq, by simp [hq, WatchMove.sent?]⟩
  | cancelled | unresolved | unopened | closed =>
    exact ⟨[], .idle hturn (by simp) (.parted w), by simp⟩
  | refused _ hq => exact ⟨[], .idle hturn (by simp [hq]) (.parted w), by simp [hq]⟩
  | blocked _ hq => exact ⟨[], .idle hturn hq (.refl w), by simp [hq]⟩
  | unread => exact ⟨[], .idle hturn (by simp [hkeeps]) ⟨rfl, rfl, rfl, id, .inl rfl⟩, by simp [hkeeps]⟩
  | resolved hp _ hphase =>
    refine ⟨[], .idle hturn rfl ⟨rfl, rfl, rfl, fun _ => by simp [Watcher.isNew, hp], .inr ?_⟩, by simp⟩
    rcases Watcher.afterAttempt_ok hphase with ⟨_, _, _, rfl⟩ | ⟨_, rfl⟩ <;> nofun
  | opened hp =>
    exact ⟨[], .idle hturn rfl ⟨rfl, rfl, rfl, fun _ => by simp [Watcher.isNew, hp], .inr nofun⟩, by simp⟩
  | released => exact ⟨[], .idle hturn rfl ⟨rfl, rfl, rfl, nofun, .inr nofun⟩, by simp⟩

theorem Moved.length_le_one (h : Moved runtime monitor crew w hub w' new) : new.length ≤ 1 := by
  cases h <;> simp

theorem Moved.sends {event : Event} (h : Moved runtime monitor crew w hub w' new) (hsent : .sent event ∈ new) :
    ∃ rest begins, w.phase = .sending event rest begins := by
  cases h with
  | sent hp =>
    obtain rfl : event = _ := by simpa using hsent
    exact ⟨_, _, hp⟩
  | surveyed | learned | took | idle => simp at hsent

end Crew

/-- A watcher at work from some moment on, with its moves since. Between its steps the crew changes as it
may, but for the options. -/
inductive WatcherHistory (runtime : ContainerRuntime σ) (monitor : LinkMonitor σ) (crew₀ : Crew σ)
    (w₀ : Watcher) : Crew σ → Watcher → List WatchMove → Prop where
  | start : WatcherHistory runtime monitor crew₀ w₀ crew₀ w₀ []
  | others {crew crew' w moves} : WatcherHistory runtime monitor crew₀ w₀ crew w moves →
    crew'.options = crew.options → WatcherHistory runtime monitor crew₀ w₀ crew' w moves
  | step {crew crew' w w' moves new} : WatcherHistory runtime monitor crew₀ w₀ crew w moves →
    Crew.Moved runtime monitor crew w crew'.toHub w' new → crew'.options = crew.options →
    WatcherHistory runtime monitor crew₀ w₀ crew' w' (moves ++ new)

namespace WatcherHistory

variable {crew₀ crew crew' : Crew σ} {w₀ w w' : Watcher} {moves more before after : List WatchMove}

theorem trans (h : WatcherHistory runtime monitor crew₀ w₀ crew w moves)
    (h' : WatcherHistory runtime monitor crew w crew' w' more) :
    WatcherHistory runtime monitor crew₀ w₀ crew' w' (moves ++ more) := by
  induction h' with
  | start => simpa using h
  | others _ ho ih => exact ih.others ho
  | step _ hm ho ih => simpa using ih.step hm ho

theorem options (h : WatcherHistory runtime monitor crew₀ w₀ crew w moves) : crew.options = crew₀.options := by
  induction h with
  | start => rfl
  | others _ ho ih | step _ _ ho ih => exact ho.trans ih

/-- An event was sent when the watcher had come to it. -/
theorem sent_at {event : Event} (h : WatcherHistory runtime monitor crew₀ w₀ crew w moves)
    (hs : moves = before ++ .sent event :: after) : ∃ crew' w' rest begins,
    WatcherHistory runtime monitor crew₀ w₀ crew' w' before ∧ w'.phase = .sending event rest begins := by
  induction h generalizing after with
  | start => simp at hs
  | others _ _ ih => exact ih hs
  | @step crew _ w _ _ new h hm _ ih =>
    rcases append_eq_append_cons hs with ⟨mid, hmoves, -⟩ | ⟨mid, rfl, hnew⟩
    · exact ih hmoves
    · obtain rfl : mid = [] := by
        have hlen := hm.length_le_one
        rw [hnew, List.length_append, List.length_cons] at hlen
        exact List.eq_nil_of_length_eq_zero (by omega)
      have hsent : .sent event ∈ new := by simp [hnew]
      obtain ⟨rest, begins, hp⟩ := hm.sends hsent
      exact ⟨crew, w, rest, begins, by simpa using h, hp⟩

end WatcherHistory

/-- What a watcher does in a run is a history of moves that tells what it has sent. -/
theorem WatcherRun.history {others : Watcher → Hub σ → Hub σ → Prop} {crew₀ crew : Crew σ} {w₀ w : Watcher}
    {sent : List Event} (run : WatcherRun runtime monitor others crew₀ w₀ crew w sent) :
    ∃ moves, WatcherHistory runtime monitor crew₀ w₀ crew w moves ∧ moves.filterMap WatchMove.sent? = sent := by
  induction run with
  | start => exact ⟨[], .start, rfl⟩
  | others _ _ ho _ ih =>
    obtain ⟨moves, h, hsent⟩ := ih
    exact ⟨moves, h.others ho, hsent⟩
  | step run hs hw ih =>
    obtain ⟨moves, h, hsent⟩ := ih
    obtain ⟨new, hm, hqueue⟩ := (run.turn hs hw).moved
    obtain ⟨_, _, _, hstepped⟩ := Crew.stepWatcher_turn hs
    exact ⟨moves ++ new, h.step hm hstepped.options, by simp [hsent, hqueue]⟩

/-- A history goes on while the watcher settles. -/
theorem WatcherHistory.settle {crew₀ crew : Crew σ} {w₀ w : Watcher} {moves : List WatchMove} {number : Nat}
    (h : WatcherHistory runtime monitor crew₀ w₀ crew w moves) (hw : crew.watcher? number = some w) (fuel : Nat) :
    let after := (Watcher.clockwork runtime monitor number).settle fuel crew
    ∃ w' more, after.watcher? number = some w' ∧
      WatcherHistory runtime monitor crew₀ w₀ after w' (moves ++ more) := by
  have hn : w.number = number := by simpa using List.find?_some hw
  have run : WatcherRun runtime monitor (fun _ _ _ => True) crew w crew w [] := .start (hn ▸ hw)
  obtain ⟨w', -, hw', settled⟩ := run.settle number hn fuel
  obtain ⟨more, hmore, -⟩ := settled.history
  exact ⟨w', more, hw', h.trans hmore⟩

end LabStream
