import LabStream.Proofs.Fence
import LabStream.Proofs.Tidy

namespace LabStream

variable {σ τ : Type} {runtime : ContainerRuntime σ} {monitor : LinkMonitor σ}

/-- The watcher whose end a forwarder waits for. -/
def Forwarder.awaited? : Forwarder → Option Nat
  | dismissing number _ => some number
  | waiting | asking .. | sending _ | done _ => none

namespace Crew

variable {crew crew' : Crew σ} {awaited : Option Nat} {moves : List CrewMove} {v w w' : Watcher} {hub : Hub σ}

theorem done_of_isDone (hu : (crew.watchers.map (·.number)).Nodup) (hw : w ∈ crew.watchers)
    (h : crew.isDone w.number) : w.phase = .done := by
  rw [isDone, watcher?_of_mem hu hw] at h
  dsimp only at h
  split at h
  next hphase => exact hphase
  next => cases h

/-- Every watcher at work is in the roster, but for one whose end is awaited and whose container has no entry. -/
def Attended (awaited : Option Nat) (crew : Crew σ) : Prop :=
  ∀ w ∈ crew.watchers, w.phase ≠ .done → crew.roster.entries[w.key]? = some w.number ∨
    crew.roster.entries[w.key]? = none ∧ awaited = some w.number

namespace Attended

theorem entered (h : crew.Attended none) (hw : w ∈ crew.watchers) (hlive : w.phase ≠ .done) :
    crew.roster.entries[w.key]? = some w.number :=
  (h w hw hlive).resolve_right fun hawaited => nomatch hawaited.2

/-- Of the watchers of a container no two are at work. -/
theorem unique (h : crew.Attended awaited) (kept : crew.Kept moves) (hv : v ∈ crew.watchers) (hw : w ∈ crew.watchers)
    (hkey : v.key = w.key) (hvlive : v.phase ≠ .done) (hwlive : w.phase ≠ .done) : v = w := by
  have hsame : v.number = w.number → v = w := List.inj_on_of_nodup_map kept.nodup hv hw
  have hv := h v hv hvlive
  rw [hkey] at hv
  rcases hv with hv | ⟨hvgone, hv⟩ <;> rcases h w hw hwlive with hw | ⟨hwgone, hw⟩
  · exact hsame (Option.some.inj (hv.symm.trans hw))
  · cases hv.symm.trans hwgone
  · cases hvgone.symm.trans hw
  · exact hsame (Option.some.inj (hv.symm.trans hw))

theorem start (h : crew.Attended none) (c : Container) : (crew.start c).1.Attended none := by
  by_cases ha : crew.roster.Admits c.identity
  · rw [start_admitted ha]
    intro w hw hlive
    dsimp only
    rw [Roster.getElem?_enter ha]
    rcases List.mem_append.mp hw with hold | hnew
    · have hentry := h.entered hold hlive
      rw [if_neg (ha.ne hentry)]
      exact .inl hentry
    · obtain rfl := List.mem_singleton.mp hnew
      exact .inl (if_pos rfl)
  · rw [start_refused ha]
    exact h

theorem starts (h : crew.Attended none) (containers : List Container) :
    (EventStream.startWatchers crew containers).Attended none := by
  unfold EventStream.startWatchers
  induction containers.filter (·.isRunning) generalizing crew with
  | nil => exact h
  | cons c containers ih => exact ih (h.start c)

/-- The watcher that is taken out of the roster is the one to be awaited. -/
theorem dismiss (h : crew.Attended none) (key : String) : (crew.dismiss key).1.Attended (crew.dismiss key).2 := by
  intro w hw hlive
  rw [dismiss_watchers] at hw
  have hentry := h.entered hw hlive
  rw [dismiss_roster, dismiss_snd, Roster.getElem?_take]
  split
  next heq => exact .inr ⟨rfl, heq ▸ hentry⟩
  next => exact .inl hentry

theorem obey (h : crew.Attended none) (e : RuntimeEvent) : (crew.obey e).1.Attended (crew.obey e).2 := by
  unfold Crew.obey
  split
  · exact h
  · exact h.start _
  · exact h.dismiss _

/-- When it has ended, nobody is to be awaited any more. -/
theorem ended {number : Nat} (h : crew.Attended (some number)) (kept : crew.Kept moves) (hdone : crew.isDone number) :
    crew.Attended none := by
  intro w hw hlive
  refine .inl ((h w hw hlive).resolve_right fun ⟨_, hawaited⟩ => hlive ?_)
  obtain rfl := Option.some.inj hawaited
  exact done_of_isDone kept.nodup hw hdone

theorem stepped (h : crew.Attended awaited) (kept : crew.Kept moves) (hw : w ∈ crew.watchers)
    (ht : Turn runtime monitor crew w hub w') (hs : Stepped crew w hub w' crew') : crew'.Attended awaited := by
  have hcont := ht.continues
  intro v hv hlive
  rw [hs.entry]
  rcases hs.mem_follows ht kept.nodup hw hv with rfl | ⟨hv, hne⟩
  · have hstays : ¬ w.isLeaving := fun hleaving => hlive (ht.completes.2.mpr hleaving)
    rw [if_neg fun hgone => hstays hgone.1, hcont.key, hcont.number]
    exact h w hw ht.completes.1
  · refine (h v hv hlive).imp (fun hentry => ?_) fun ⟨hnone, hawaited⟩ => ⟨by rw [hnone, ite_self], hawaited⟩
    rw [if_neg, hentry]
    rintro ⟨-, hkey, hown⟩
    rw [← hkey, hown] at hentry
    exact hne (Option.some.inj hentry).symm

end Attended

end Crew

namespace Forwarder

theorem awaited?_enrich (runtime : ContainerRuntime σ) (crew : Crew σ) (e : RuntimeEvent) :
    (enrich runtime crew e).2.awaited? = none := by
  unfold enrich
  split <;> rfl

/-- A forwarder waits for the end of the watcher that it has dismissed. -/
theorem awaited?_meet (runtime : ContainerRuntime σ) (crew : Crew σ) (e : RuntimeEvent) :
    (meet runtime crew e).2.awaited? = (crew.obey e).2 := by
  unfold meet
  split
  next heq => rw [heq]; rfl
  next heq => rw [heq, awaited?_enrich]

end Forwarder

namespace EventStream

variable {setup : StreamSetup σ τ} {s s' : EventStream σ τ} {new : List StreamMove} {moves : List CrewMove}

/-- The watchers of a stream are attended, by its forwarder if not by the roster. -/
def Attended (s : EventStream σ τ) : Prop := s.crew.Attended (s.forwarder.bind Forwarder.awaited?)

/-- Only the stream itself takes watchers out of the roster without waiting for their ends, and only when it is
cancelled. -/
theorem Attended.turned (h : s.Attended) (kept : s.crew.Kept moves)
    (hlisting : ∀ answerAt, s.phase = .listing answerAt → s.forwarder = none) (hturned : Turned setup s s' new)
    (hroot : s'.crew.isCancelled s'.crew.token = false) : s'.Attended := by
  obtain ⟨hlive, -⟩ := hturned.live hroot
  have idle {f : Forwarder} (hf : s.forwarder = some f) (hidle : f.awaited? = none) : s.crew.Attended none := by
    rw [Attended, hf, Option.bind_some, hidle] at h
    exact h
  cases hturned with
  | shown | announced | unannounced | counted | sampled | received => exact h
  | told hw hs | watched hw hs =>
    obtain ⟨_, _, hturn, hstepped⟩ := Crew.stepWatcher_turn hs
    exact h.stepped kept (Crew.mem_of_watcher? hw).1 hturn hstepped
  | @took host e _ _ hf _ hmeet =>
    have hseen : Crew.Attended none { s.crew with host } := idle hf rfl
    have hobeyed := hseen.obey e
    obtain ⟨host', hkeeps⟩ := Forwarder.meet_keeps setup.runtime { s.crew with host } e
    have hawaited := Forwarder.awaited?_meet setup.runtime { s.crew with host } e
    rw [hmeet] at hkeeps hawaited
    subst hkeeps
    dsimp only at hawaited
    rw [← hawaited] at hobeyed
    exact hobeyed
  | recorded hf | stopped _ _ hf | answered hf => exact idle hf rfl
  | unrecorded hf _ _ hstays => rcases hstays with rfl | rfl <;> exact idle hf rfl
  | @dismissed number e _ _ hf hdone henrich =>
    have hawaited : s.crew.Attended (some number) := by
      rw [Attended, hf] at h
      exact h
    have hended := hawaited.ended kept hdone
    obtain ⟨host, hkeeps⟩ := Forwarder.enrich_keeps setup.runtime s.crew e
    have hnobody := Forwarder.awaited?_enrich setup.runtime s.crew e
    rw [henrich] at hkeeps hnobody
    subst hkeeps
    dsimp only at hnobody
    rw [← hnobody] at hended
    exact hended
  | joined hjoin =>
    cases hjoin with
    | feedFailed | samplingFailed | samplingEnded => exact h
    | feedEnded hf => exact idle hf rfl
  | went hturn =>
    cases hturn with
    | unlisted | unloading | unloaded | closing | ended => exact h
    | @launched _ host containers hphase =>
      have hnone := hlisting _ hphase
      have hseen : Crew.Attended none { s.crew with host } := by
        rw [Attended, hnone] at h
        exact h
      have hstarted := hseen.starts containers
      obtain ⟨host', announcer, -, ⟨fault, heq⟩ | ⟨phase, sampler, heq, -⟩⟩ :=
        launch_cases setup containers { s with crew.host := host }
      · rw [heq, Attended]
        dsimp only [finish]
        rw [hnone]
        exact hstarted
      · rw [heq]
        exact hstarted
    | dismissed _ hcancelled => cases hlive.symm.trans hcancelled

end EventStream

theorem StreamRun.attended {setup : StreamSetup σ τ} {s : EventStream σ τ} {moves : List StreamMove}
    (run : StreamRun setup s moves) (hroot : s.crew.isCancelled s.crew.token = false) : s.Attended := by
  induction run with
  | start host origin cancelled =>
    obtain ⟨-, hwatchers⟩ := EventStream.start_crew setup host origin cancelled
    intro w hw
    rw [hwatchers] at hw
    cases hw
  | turn _ run h ih =>
    obtain ⟨_, crewRun⟩ := run.crewRun
    have hturned := EventStream.turned h
    exact (ih (hturned.live hroot).1).turned crewRun.kept (fun _ hphase => (run.guarded.listing hphase).1) hturned hroot
  | @unaware s s' _ _ run _ h ih =>
    obtain ⟨_, crewRun⟩ := run.crewRun
    have hturned := EventStream.turned h
    have htoken : s'.crew.token = s.crew.token := hturned.path.token
    obtain ⟨hnext, hwas⟩ := Bool.or_eq_false_iff.mp ((Cancellations.covers_append _ _ _).symm.trans hroot)
    have hunaware : s.unaware.Attended := ih (htoken ▸ hwas)
    have hlater : s'.Attended :=
      hunaware.turned (crewRun.kept.around _) (fun _ hphase => (run.guarded.listing hphase).1) hturned hnext
    exact hlater
  | around _ _ _ _ ih => exact ih (Bool.or_eq_false_iff.mp ((Cancellations.covers_append _ _ _).symm.trans hroot)).2

/-- In a stream that goes on no container has two watchers at work, whatever it is told and in whatever order its
tasks take turns: they are started and stopped one after the other. -/
theorem StreamRun.watched_once {setup : StreamSetup σ τ} {s : EventStream σ τ} {moves : List StreamMove}
    (run : StreamRun setup s moves) (hroot : s.crew.isCancelled s.crew.token = false) {v w : Watcher}
    (hv : v ∈ s.crew.watchers) (hw : w ∈ s.crew.watchers) (hkey : v.key = w.key) (hvlive : v.phase ≠ .done)
    (hwlive : w.phase ≠ .done) : v = w := by
  obtain ⟨_, crewRun⟩ := run.crewRun
  exact (run.attended hroot).unique crewRun.kept hv hw hkey hvlive hwlive

end LabStream
