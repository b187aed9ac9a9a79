import LabStream.Proofs.ObservedRun
import LabStream.Proofs.SeenFaults

namespace LabStream

variable {σ τ : Type}

theorem EventStream.view_result? (s : EventStream σ τ) (hidden : String → Bool) :
    (s.view hidden).result? = s.result? := by
  unfold StreamView.result? EventStream.result? EventStream.view
  cases s.phase <;> rfl

/-- Whatever the namespaces of some containers do: two runs in which all others see the same in their turns, in the
same order but for turns that have nothing to do with each other, the records of everybody else are the same but for
their times, and so is the result. An error is one of the setup, or it has been seen by somebody else than a watcher. -/
theorem ObservedRun.isolated {setup : StreamSetup σ τ} {hidden : String → Bool} {s₁ s₂ : EventStream σ τ}
    {moves₁ moves₂ : List StreamMove} {seen₁ seen₂ : List (StreamSight τ)}
    (run₁ : ObservedRun setup hidden s₁ moves₁ seen₁) (run₂ : ObservedRun setup hidden s₂ moves₂ seen₂)
    (hsame : Reordered setup.options.labLabel seen₁ seen₂) :
    (∀ key sight, .watcher key sight ∈ seen₁ ++ seen₂ → hidden key = false) ∧
    (∀ source, source.isHidden hidden = false → recordsOf source moves₁ = recordsOf source moves₂) ∧
    s₁.result? = s₂.result? ∧
    ∀ fault, s₁.result? = some (.error fault) → setup.fault? = some fault ∨ ∃ sight ∈ seen₁, sight.Shows fault := by
  have halike : StreamView.Alike (StreamView.replay setup hidden seen₁) (StreamView.replay setup hidden seen₂) :=
    StreamView.Alike.reordered hsame ⟨rfl, fun _ => rfl⟩
  rw [run₁.replay, run₂.replay] at halike
  obtain ⟨hview, hrecords⟩ := halike
  refine ⟨fun key sight hmem => ?_, fun source hopen => ?_, ?_, fun fault hresult => ?_⟩
  · rcases List.mem_append.mp hmem with hmem | hmem
    · exact run₁.shown hmem
    · exact run₂.shown hmem
  · rw [recordsOf_open hopen, recordsOf_open hopen]
    exact hrecords source
  · rw [← s₁.view_result? hidden, ← s₂.view_result? hidden]
    exact congrArg StreamView.result? hview
  · have hsincere := StreamView.sincere_replay setup hidden seen₁
    rw [run₁.replay] at hsincere
    rw [← s₁.view_result? hidden, StreamView.result?] at hresult
    split at hresult
    next hp =>
      obtain rfl := Option.some.inj hresult
      exact hsincere.ended hp
    next => cases hresult

/-- Turns of watchers one after the other, with what happens and what is seen in them. -/
def EventStream.watch (setup : StreamSetup σ τ) (hidden : String → Bool) :
    List Nat → EventStream σ τ → Option (EventStream σ τ × List StreamMove × List (String × WatchSight))
  | [], s => some (s, [], [])
  | number :: numbers, s => do
    let w ← s.crew.watcher? number
    let s' ← s.turn setup (.watcher number)
    let (last, moves, sights) ← watch setup hidden numbers s'
    let own := if s.isUnseen hidden (.watcher number) then []
      else [(w.key, s.crew.sight setup.runtime setup.monitor w)]
    return (last, s.moved setup s' (.watcher number) ++ moves, own ++ sights)

theorem ObservedRun.watch {setup : StreamSetup σ τ} {hidden : String → Bool} {s last : EventStream σ τ}
    {moves new : List StreamMove} {seen : List (StreamSight τ)} {numbers : List Nat} {sights : List (String × WatchSight)}
    (run : ObservedRun setup hidden s moves seen) (h : s.watch setup hidden numbers = some (last, new, sights)) :
    ObservedRun setup hidden last (moves ++ new) (seen ++ sights.map fun sight => .watcher sight.1 sight.2) := by
  induction numbers generalizing s moves new seen sights with
  | nil =>
    cases h
    simpa using run
  | cons number numbers ih =>
    obtain ⟨w, hw, h⟩ := Option.bind_eq_some_iff.mp h
    obtain ⟨s', hturn, h⟩ := Option.bind_eq_some_iff.mp h
    obtain ⟨⟨last', more, later⟩, hrest, h⟩ := Option.bind_eq_some_iff.mp h
    cases h
    have hglimpse : (s.glimpse? setup hidden s (.watcher number)).toList =
        (if s.isUnseen hidden (.watcher number) then []
          else [(w.key, s.crew.sight setup.runtime setup.monitor w)]).map fun sight => .watcher sight.1 sight.2 := by
      rw [EventStream.glimpse?]
      split
      · rfl
      · simp [EventStream.sight?, hw]
    rw [List.map_append, ← hglimpse, ← List.append_assoc, ← List.append_assoc]
    exact ih (run.turn (.watcher number) hturn) hrest

/-- An announcer that has nothing to send begins with the next container. -/
theorem ObservedRun.announce {setup : StreamSetup σ τ} {hidden : String → Bool} {s s' : EventStream σ τ}
    {moves : List StreamMove} {seen : List (StreamSight τ)} (run : ObservedRun setup hidden s moves seen)
    (h : s.turn setup .announcer = some s') (hevent : s.announcer.event = none) :
    ObservedRun setup hidden s' moves (seen ++ [.announcer]) := by
  have hglimpse : s.glimpse? setup hidden s .announcer = some .announcer := by
    simp [EventStream.glimpse?, EventStream.isUnseen, EventStream.getsInLine, EventStream.sight?, hevent]
  have hmoved : s.moved setup s' .announcer = [] := by
    obtain ⟨⟨hub, announcer⟩, hstep, heq⟩ := Option.bind_eq_some_iff.mp h
    obtain rfl := Option.some.inj heq
    cases Announcer.step_turn hstep with
    | begun => exact EventStream.entries_kept rfl
    | sent he | blocked he | refused he =>
      rw [hevent] at he
      cases he
  have hrun := run.turn .announcer h
  rwa [hglimpse, hmoved, List.append_nil] at hrun

namespace ScriptedWorld

/-- Two containers with two interfaces each, of which the second is going to stop. -/
def pair : ScriptedWorld :=
  { empty with
    containers := [.running "x", .running "y"]
    filters := false
    feed := [.ok (.bare "container" "die" "y")]
    namespaces := ["/ns/x", "/ns/y"].map fun path =>
      { ScriptedNamespace.blank path with links := [veth 2 "eth0", veth 3 "eth1"] } }

/-- A stream with little room in its channel. -/
def narrow : StreamSetup ScriptedWorld String :=
  .scripted { StreamOptions.standard with
    initialState := true
    capacity := 3 }

/-- What a stream does in a world of its own accord. -/
def played (world : ScriptedWorld) (fuel : Nat) : EventStream ScriptedWorld String × List StreamMove :=
  (EventStream.start narrow (.start world) 0 []).play narrow fuel

/-- The records of one container leave no room for those of another one that stops. -/
theorem records_not_isolated : ¬∀ (world : ScriptedWorld) (change : ScriptedNamespace → ScriptedNamespace) (fuel : Nat),
    ((world.played fuel).1.nextTurn narrow).isNone →
    (((world.setNamespace "/ns/x" change).played fuel).1.nextTurn narrow).isNone →
    recordsOf (.watcher "y") (world.played fuel).2 =
      recordsOf (.watcher "y") ((world.setNamespace "/ns/x" change).played fuel).2 := by
  intro hclaim
  have hsame := hclaim pair (fun ns => { ns with listFails := true }) 60 (by decide +kernel) (by decide +kernel)
  exact absurd hsame (by decide +kernel)

/-- A stream that has begun to watch both containers, in a world with other namespaces. -/
def watching (change : ScriptedNamespace → ScriptedNamespace) : EventStream ScriptedWorld String :=
  let s := EventStream.start narrow (.start pair) 0 []
  ((s.turn narrow .main).getD s).around (.start (pair.setNamespace "/ns/x" change)) 0 []

theorem watching_run (hidden : String → Bool) : ∃ seen, ∀ change,
    ObservedRun narrow hidden (watching change) [] seen := by
  let s := EventStream.start narrow (.start pair) 0 []
  have hmain : s.turn narrow .main = some ((s.turn narrow .main).getD s) := by
    have hsome : (s.turn narrow .main).isSome := by decide +kernel
    obtain ⟨next, hnext⟩ := Option.isSome_iff_exists.mp hsome
    rw [hnext]
    rfl
  have run : ObservedRun narrow hidden s [] [] := .start (.start pair) 0
  exact ⟨_, fun change => (run.turn .main hmain).around (.start (pair.setNamespace "/ns/x" change)) 0⟩

/-- One container cannot be opened in the first run, in which the announcer begins before all watchers, and is
watched in the second one, in which it begins after them. The other container is told of in both. -/
theorem isolated_from_unopened : ∃ s₁ moves₁ seen₁ s₂ moves₂ seen₂,
    ObservedRun narrow (· == "x") s₁ moves₁ seen₁ ∧ ObservedRun narrow (· == "x") s₂ moves₂ seen₂ ∧
    Reordered narrow.options.labLabel seen₁ seen₂ ∧
    recordsOf (.watcher "x") moves₁ = [] ∧ recordsOf (.watcher "x") moves₂ ≠ [] ∧
    recordsOf (.watcher "y") moves₁ ≠ [] ∧ recordsOf (.watcher "y") moves₁ = recordsOf (.watcher "y") moves₂ ∧
    s₁.result? = s₂.result? := by
  let unopened := watching fun ns => { ns with openFails := true }
  let failing := (unopened.turn narrow .announcer).bind
    (EventStream.watch narrow (· == "x") [0, 0, 0, 1, 1, 1, 1, 1])
  let working := (watching id).watch narrow (· == "x") [0, 0, 0, 0, 1, 1, 1, 1, 1]
  have hidle : unopened.announcer.event.isNone := by decide +kernel
  have hsame : failing.map (·.2.2) = working.map (·.2.2) := by decide +kernel
  have hfirst : failing.map (fun r => (recordsOf (.watcher "x") r.2.1).length) = some 0 := by decide +kernel
  have hother : failing.map (fun r => (recordsOf (.watcher "y") r.2.1).length) = some 2 := by decide +kernel
  have hsecond : working.map (fun r => (recordsOf (.watcher "x") r.2.1).length) = some 1 := by decide +kernel
  have hlast : working.map (fun r => (r.1.turn narrow .announcer).isSome && r.1.announcer.event.isNone) = some true := by
    decide +kernel
  obtain ⟨⟨s₁, moves₁, sights₁⟩, h₁, hfirst⟩ := Option.map_eq_some_iff.mp hfirst
  obtain ⟨⟨s₂, moves₂, sights₂⟩, h₂, hsecond⟩ := Option.map_eq_some_iff.mp hsecond
  rw [h₁, h₂] at hsame
  rw [h₁] at hother
  rw [h₂] at hlast
  obtain rfl : sights₁ = sights₂ := Option.some.inj hsame
  obtain ⟨hturn, hevent⟩ := Bool.and_eq_true_iff.mp (Option.some.inj hlast)
  obtain ⟨begun, hbegin, h₁⟩ := Option.bind_eq_some_iff.mp h₁
  obtain ⟨last, hend⟩ := Option.isSome_iff_exists.mp hturn
  obtain ⟨seen, run⟩ := watching_run (· == "x")
  have run₁ := ((run _).announce hbegin (Option.isNone_iff_eq_none.mp hidle)).watch h₁
  have run₂ := ((run _).watch h₂).announce hend (Option.isNone_iff_eq_none.mp hevent)
  have hreordered : Reordered narrow.options.labLabel
      (seen ++ [.announcer] ++ sights₁.map fun sight => .watcher sight.1 sight.2)
      (seen ++ (sights₁.map fun sight => .watcher sight.1 sight.2) ++ [.announcer]) := by
    rw [List.append_assoc, List.append_assoc]
    refine (Reordered.cons_append fun other hmem => ?_).append_left seen
    obtain ⟨sight, -, rfl⟩ := List.mem_map.mp hmem
    exact ⟨rfl, rfl, by simp [StreamSight.source?], by simp [StreamSight.ordered?], by simp [StreamSight.source?]⟩
  obtain ⟨-, hrecords, hresult, -⟩ := run₁.isolated run₂ hreordered
  have hother : (recordsOf (.watcher "y") moves₁).length = 2 := Option.some.inj hother
  refine ⟨s₁, _, _, last, _, _, run₁, run₂, hreordered, ?_, ?_, ?_, hrecords _ (by decide), hresult⟩
  · exact List.length_eq_zero_iff.mp hfirst
  · exact List.ne_nil_of_length_pos (Nat.lt_of_lt_of_eq Nat.one_pos hsecond.symm)
  · exact List.ne_nil_of_length_pos (Nat.lt_of_lt_of_eq Nat.two_pos hother.symm)

end ScriptedWorld

end LabStream
