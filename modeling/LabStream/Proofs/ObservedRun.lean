import LabStream.Proofs.FollowsMain
import LabStream.Proofs.FollowsSender
import LabStream.Proofs.FollowsWatcher
import LabStream.Proofs.Reordering

namespace LabStream

variable {σ τ : Type}

/-- A stream at work, with all that has happened and all that has been seen by those who are not hidden. From
outside it is cancelled only as a whole. -/
inductive ObservedRun (setup : StreamSetup σ τ) (hidden : String → Bool) :
    EventStream σ τ → List StreamMove → List (StreamSight τ) → Prop where
  | start (host : Traced σ) (origin : Int) : ObservedRun setup hidden (.start setup host origin []) [] []
  | turn {s s' : EventStream σ τ} {moves : List StreamMove} {seen : List (StreamSight τ)} (task : StreamTask) :
    ObservedRun setup hidden s moves seen → s.turn setup task = some s' →
    ObservedRun setup hidden s' (moves ++ s.moved setup s' task) (seen ++ (s.glimpse? setup hidden s task).toList)
  | unaware {s s' : EventStream σ τ} {moves : List StreamMove} {seen : List (StreamSight τ)} (task : StreamTask) :
    ObservedRun setup hidden s moves seen → s.heedsCancel task → s.unaware.turn setup task = some s' →
    ObservedRun setup hidden (s'.cancelling s.crew.cancelled) (moves ++ s.unaware.moved setup s' task)
      (seen ++ (s.glimpse? setup hidden s.unaware task).toList)
  | around {s : EventStream σ τ} {moves : List StreamMove} {seen : List (StreamSight τ)} (host : Traced σ) (now : Nat) :
    ObservedRun setup hidden s moves seen → ObservedRun setup hidden (s.around host now []) moves seen
  | cancel {s : EventStream σ τ} {moves : List StreamMove} {seen : List (StreamSight τ)} :
    ObservedRun setup hidden s moves seen → ObservedRun setup hidden s.cancel moves (seen ++ [.cancelled])

namespace EventStream

/-- A stream begins with no token cancelled but its own, and that only if there is something against it. -/
theorem start_cases (setup : StreamSetup σ τ) (host : Traced σ) (origin : Int) :
    (start setup host origin []).crew.options = setup.watchOptions ∧
      ((start setup host origin []).crew.cancelled = [] ∨
        (start setup host origin []).crew.cancelled = [(start setup host origin []).crew.token]) := by
  unfold start
  dsimp only
  split
  · exact ⟨rfl, .inr rfl⟩
  · exact ⟨rfl, .inl rfl⟩

end EventStream

namespace ObservedRun

variable {setup : StreamSetup σ τ} {hidden : String → Bool} {s s' : EventStream σ τ} {moves : List StreamMove}
  {seen : List (StreamSight τ)}

theorem streamRun (run : ObservedRun setup hidden s moves seen) : StreamRun setup s moves := by
  induction run with
  | start host origin => exact .start host origin []
  | turn task _ h ih => exact ih.turn task h
  | unaware task _ hheeds h ih => exact ih.unaware task hheeds h
  | around host now _ ih => exact ih.around host now []
  | @cancel s _ _ _ ih => exact ih.around s.crew.host s.crew.now [[]]

theorem tidy (run : ObservedRun setup hidden s moves seen) : s.crew.Tidy s.crew.cancelled := by
  induction run with
  | start host origin =>
    intro token hmem
    rcases (EventStream.start_cases setup host origin).2 with hnone | hown
    · simp [hnone] at hmem
    · rw [hown, List.mem_singleton] at hmem
      exact .inl (hmem ▸ List.prefix_refl _)
  | turn _ run h ih =>
    obtain ⟨_, crewRun⟩ := run.streamRun.crewRun
    exact ((EventStream.turned h).tidy crewRun.kept ih (List.Subset.refl _)).subset (List.subset_append_left _ _)
  | @unaware s _ _ _ _ run _ h ih =>
    obtain ⟨_, crewRun⟩ := run.streamRun.crewRun
    have hunaware : s.unaware.crew.Tidy s.crew.cancelled := ih
    exact (EventStream.turned h).tidy (crewRun.kept.around s.unaware.crew.toHub) hunaware (List.nil_subset _)
  | around _ _ _ ih => exact ih.around (fun _ hmem => .inl hmem) rfl
  | cancel _ ih =>
    refine ih.around (fun token hmem => ?_) rfl
    rcases List.mem_cons.mp hmem with rfl | hmem
    · exact .inr List.nil_prefix
    · exact .inl hmem

theorem options (run : ObservedRun setup hidden s moves seen) : s.crew.options = setup.watchOptions := by
  induction run with
  | start host origin => exact (EventStream.start_cases setup host origin).1
  | turn _ _ h ih | unaware _ _ _ h ih => exact (EventStream.turned h).path.options.trans ih
  | around _ _ _ ih | cancel _ ih => exact ih

theorem sound (run : ObservedRun setup hidden s moves seen) : s.Sound setup := by
  obtain ⟨_, crewRun⟩ := run.streamRun.crewRun
  exact ⟨⟨_, crewRun.kept⟩, run.streamRun.heeded, run.tidy, run.streamRun.opened, run.options⟩

end ObservedRun

/-- The records of one source, in the order in which they are sent, but for their times. -/
def recordsOf (source : Source) (moves : List StreamMove) : List Event :=
  ownRecords source (sentRecords moves)

theorem recordsOf_open {hidden : String → Bool} {source : Source} (h : source.isHidden hidden = false)
    (moves : List StreamMove) : recordsOf source moves = ownRecords source (openRecords hidden moves) := by
  rw [recordsOf, ownRecords, ownRecords, openRecords, List.filterMap_filter]
  refine List.filterMap_congr fun record _ => ?_
  split
  next heq => simp [heq, h]
  next => simp

namespace EventStream

variable {setup : StreamSetup σ τ} {hidden : String → Bool} {s s' : EventStream σ τ}

theorem view_start (setup : StreamSetup σ τ) (hidden : String → Bool) (host : Traced σ) (origin : Int) :
    (start setup host origin []).view hidden = .fresh setup := by
  have hfresh (host : Traced σ) : (fresh setup host origin []).view hidden =
      ⟨.finished, none, none, false, .listing 0, false, fun _ => none⟩ := by
    refine view_ext rfl rfl rfl rfl rfl rfl ?_
    funext key
    simp [fresh, Crew.charges, Roster.empty]
  unfold start StreamView.fresh
  cases setup.fault? with
  | none => exact hfresh host
  | some fault => exact (view_finish _ _).trans (congrArg (StreamView.finish · _) (hfresh host))

theorem view_cancel (s : EventStream σ τ) : s.cancel.view hidden = (s.view hidden).cancel := by
  refine view_ext rfl rfl rfl rfl rfl ?_ rfl
  simp [cancel, Hub.isCancelled, Cancellations.cancel, Cancellations.covers, StreamView.cancel]

theorem follows (sound : s.Sound setup) {task : StreamTask} (h : s.turn setup task = some s') :
    Follows setup hidden s s' (s.moved setup s' task) (s.glimpse? setup hidden s task) := by
  have hnil := s.cancelling_nil
  cases task with
  | announcer => exact follows_announcer sound h
  | watcher number =>
    have hfollows : Follows setup hidden (s.cancelling []) (s'.cancelling []) _ _ :=
      follows_watcher (hnil.symm ▸ sound) (.inl rfl) h
    rwa [hnil, s'.cancelling_nil] at hfollows
  | forwarder =>
    have hfollows : Follows setup hidden (s.cancelling []) (s'.cancelling []) _ _ :=
      follows_forwarder (hnil.symm ▸ sound) (.inl rfl) h
    rwa [hnil, s'.cancelling_nil] at hfollows
  | sampler =>
    have hfollows : Follows setup hidden (s.cancelling []) (s'.cancelling []) _ _ :=
      follows_sampler (hnil.symm ▸ sound) (.inl rfl) h
    rwa [hnil, s'.cancelling_nil] at hfollows
  | receiver => exact follows_receiver h
  | joiner => exact follows_joiner h
  | main => exact follows_main sound h

theorem follows_unaware (sound : s.Sound setup) {task : StreamTask} (hheeds : s.heedsCancel task)
    (h : s.unaware.turn setup task = some s') :
    Follows setup hidden s (s'.cancelling s.crew.cancelled) (s.unaware.moved setup s' task)
      (s.glimpse? setup hidden s.unaware task) := by
  cases task with
  | announcer | receiver | joiner | main => cases hheeds
  | watcher number => exact follows_watcher (u := s.unaware) sound (.inr hheeds) h
  | forwarder => exact follows_forwarder (u := s.unaware) sound (.inr hheeds) h
  | sampler => exact follows_sampler (u := s.unaware) sound (.inr hheeds) h

end EventStream

/-- Nobody sees through the eyes of a watcher that is hidden. -/
theorem EventStream.shown_of_glimpse {setup : StreamSetup σ τ} {hidden : String → Bool} {s u : EventStream σ τ}
    {task : StreamTask} {key : String} {sight : WatchSight} (hwatchers : s.crew.watchers = u.crew.watchers)
    (h : .watcher key sight ∈ s.glimpse? setup hidden u task) : hidden key = false := by
  obtain ⟨hseen, h⟩ := Option.ite_none_left_eq_some.mp h
  cases task with
  | watcher number =>
    obtain ⟨w, hw, heq⟩ := Option.map_eq_some_iff.mp h
    obtain ⟨rfl, -⟩ := StreamSight.watcher.inj heq
    rw [Crew.watcher?, ← hwatchers] at hw
    rw [Bool.eq_false_iff]
    exact fun hhidden => hseen (by simp [isUnseen, Crew.watcher?, hw, hhidden])
  | forwarder =>
    obtain ⟨_, -, heq⟩ := Option.map_eq_some_iff.mp h
    cases heq
  | sampler =>
    obtain ⟨_, -, heq⟩ := Option.bind_eq_some_iff.mp h
    obtain ⟨_, -, heq⟩ := Option.map_eq_some_iff.mp heq
    cases heq
  | announcer | receiver | joiner | main => cases h

theorem ObservedRun.shown {setup : StreamSetup σ τ} {hidden : String → Bool} {s : EventStream σ τ}
    {moves : List StreamMove} {seen : List (StreamSight τ)} (run : ObservedRun setup hidden s moves seen) {key : String}
    {sight : WatchSight} (h : .watcher key sight ∈ seen) : hidden key = false := by
  induction run with
  | start => cases h
  | turn _ _ _ ih | unaware _ _ _ _ ih =>
    rcases List.mem_append.mp h with hold | hnew
    · exact ih hold
    · refine EventStream.shown_of_glimpse ?_ (Option.mem_toList.mp hnew)
      rfl
  | around _ _ _ ih => exact ih h
  | cancel _ ih =>
    rcases List.mem_append.mp h with hold | hnew
    · exact ih hold
    · cases List.mem_singleton.mp hnew

/-- What the tasks of a stream do can be told from what they see. -/
theorem ObservedRun.replay {setup : StreamSetup σ τ} {hidden : String → Bool} {s : EventStream σ τ}
    {moves : List StreamMove} {seen : List (StreamSight τ)} (run : ObservedRun setup hidden s moves seen) :
    StreamView.replay setup hidden seen = (s.view hidden, openRecords hidden moves) := by
  have step {s s' : EventStream σ τ} {moves new : List StreamMove} {seen : List (StreamSight τ)}
      {sight : Option (StreamSight τ)} (hfollows : Follows setup hidden s s' new sight)
      (ih : StreamView.replay setup hidden seen = (s.view hidden, openRecords hidden moves)) :
      StreamView.replay setup hidden (seen ++ sight.toList) = (s'.view hidden, openRecords hidden (moves ++ new)) := by
    rw [openRecords_append]
    cases hfollows with
    | unseen hview hrecords => rw [hview, hrecords, List.append_nil, Option.toList_none, List.append_nil, ih]
    | seen hview hrecords => rw [hview, hrecords, Option.toList_some, StreamView.replay_append, ih, StreamView.advance]
  induction run with
  | start host origin =>
    rw [EventStream.view_start]
    rfl
  | turn _ run h ih => exact step (EventStream.follows run.sound h) ih
  | unaware _ run hheeds h ih => exact step (EventStream.follows_unaware run.sound hheeds h) ih
  | around _ _ _ ih => exact ih
  | @cancel s _ _ _ ih =>
    rw [StreamView.replay_append, ih, s.view_cancel, StreamView.advance]
    simp [StreamView.after, StreamView.record]

end LabStream
