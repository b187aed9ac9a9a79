import LabStream.Proofs.RosterLaws
import LabStream.Proofs.SingleWatch

namespace LabStream

/-- A call that has taken watchers out of the roster and has not returned yet: it cancels them, and when all are
cancelled, it waits for the end of one after the other. -/
structure PendingCall where
  uncancelled : List Nat
  awaited : List Nat
  deriving DecidableEq

variable {σ : Type} {runtime : ContainerRuntime σ} {monitor : LinkMonitor σ} {crew crew' : Crew σ}
  {calls calls' : List PendingCall} {moves new : List CrewMove} {move : CrewMove} {v w : Watcher}

/-- One move of anybody when several callers start and stop watchers at once. The roster is locked while entries are
put in or taken out, and for no longer than that. -/
inductive CallStep (runtime : ContainerRuntime σ) (monitor : LinkMonitor σ) (crew : Crew σ) :
    List PendingCall → Crew σ → List PendingCall → List CrewMove → Prop where
  /-- Nobody is taken out: a start, a stop in vain, a step of a watcher, or something around them. -/
  | plain {crew' : Crew σ} {calls : List PendingCall} {move : CrewMove} : CrewStep runtime monitor crew move crew' →
    move.taken = [] → CallStep runtime monitor crew calls crew' calls [move]
  | stop {calls : List PendingCall} (key : String) {number : Nat} : crew.roster.entries[key]? = some number →
    CallStep runtime monitor crew calls { crew with roster := (crew.roster.take key).1 }
      (⟨[number], [number]⟩ :: calls) [.stop key (some number)]
  | shutdown {calls : List PendingCall} :
    CallStep runtime monitor crew calls { crew with roster := crew.roster.drain.1 }
      (⟨crew.roster.drain.2, crew.roster.drain.2⟩ :: calls) [.shutdown crew.roster.drain.2]
  | cancel {before after : List PendingCall} {number : Nat} {uncancelled awaited : List Nat} :
    CallStep runtime monitor crew (before ++ ⟨number :: uncancelled, awaited⟩ :: after)
      { crew with cancelled := crew.cancelled.cancel (crew.watcherToken number) }
      (before ++ ⟨uncancelled, awaited⟩ :: after) [.around]
  | joined {before after : List PendingCall} {number : Nat} {awaited : List Nat} : crew.isDone number →
    CallStep runtime monitor crew (before ++ ⟨[], number :: awaited⟩ :: after) crew
      (before ++ ⟨[], awaited⟩ :: after) []
  | returned {before after : List PendingCall} :
    CallStep runtime monitor crew (before ++ ⟨[], []⟩ :: after) crew (before ++ after) []

/-- A crew after some moves, with the calls that have not returned. -/
inductive CallRun (runtime : ContainerRuntime σ) (monitor : LinkMonitor σ) :
    Crew σ → List PendingCall → List CrewMove → Prop where
  | fresh {crew : Crew σ} : crew.roster = .empty → crew.watchers = [] → CallRun runtime monitor crew [] []
  | move {crew crew' : Crew σ} {calls calls' : List PendingCall} {moves new : List CrewMove} :
    CallRun runtime monitor crew calls moves → CallStep runtime monitor crew calls crew' calls' new →
    CallRun runtime monitor crew' calls' (moves ++ new)

theorem CallStep.kept (h : CallStep runtime monitor crew calls crew' calls' new) (kept : crew.Kept moves) :
    crew'.Kept (moves ++ new) := by
  cases h with
  | plain hstep => exact kept.step hstep
  | @stop _ key number hentry =>
    refine kept.taken rfl rfl rfl fun other => ?_
    rw [Roster.getElem?_take]
    split
    next heq => exact .inr ⟨rfl, fun n hn => by simpa [CrewMove.taken, ← heq, hentry] using hn.symm⟩
    next => exact .inl rfl
  | shutdown =>
    exact kept.taken rfl rfl rfl fun _ => .inr ⟨Std.ExtTreeMap.getElem?_empty, fun _ hn => Roster.mem_drain hn⟩
  | cancel => exact kept.around _
  | joined | returned => rwa [List.append_nil]

theorem CallRun.kept (run : CallRun runtime monitor crew calls moves) : crew.Kept moves := by
  induction run with
  | fresh hr hw => exact .fresh hr hw
  | move _ hstep ih => exact hstep.kept ih

/-- A watcher at work was so before, or it has just been entered. -/
theorem CrewStep.origin (hstep : CrewStep runtime monitor crew move crew') (kept : crew.Kept moves)
    (hw : w ∈ crew'.watchers) (hlive : w.phase ≠ .done) :
    (∃ v ∈ crew.watchers, v.key = w.key ∧ v.number = w.number ∧ v.phase ≠ .done) ∨
      crew'.roster.entries[w.key]? = some w.number := by
  have same (hsame : w ∈ crew.watchers) : ∃ v ∈ crew.watchers, v.key = w.key ∧ v.number = w.number ∧ v.phase ≠ .done :=
    ⟨w, hsame, rfl, rfl, hlive⟩
  cases hstep with
  | start c =>
    by_cases ha : crew.roster.Admits c.identity
    · rw [Crew.start_admitted ha] at hw ⊢
      rcases List.mem_append.mp hw with hold | hnew
      · exact .inl (same hold)
      · obtain rfl := List.mem_singleton.mp hnew
        exact .inr ((Roster.getElem?_enter ha _).trans (if_pos rfl))
    · rw [Crew.start_refused ha] at hw
      exact .inl (same hw)
  | stop key =>
    rw [Crew.dismiss_watchers] at hw
    exact .inl (same hw)
  | shutdown | around => exact .inl (same hw)
  | @watcher u _ hu hs =>
    obtain ⟨hub, u', hturn, hstepped⟩ := Crew.stepWatcher_turn hs
    have hmem := (Crew.mem_of_watcher? hu).1
    rcases hstepped.mem_follows hturn kept.nodup hmem hw with rfl | ⟨hold, -⟩
    · have hcont := hturn.continues
      exact .inl ⟨u, hmem, hcont.key.symm, hcont.number.symm, hturn.completes.1⟩
    · exact .inl (same hold)

/-- The watchers whose ends are waited for. -/
def awaitedIn (calls : List PendingCall) : List Nat := calls.flatMap (·.awaited)

/-- Every watcher at work is in the roster, or a call waits for its end. -/
def Crew.Minded (crew : Crew σ) (calls : List PendingCall) : Prop :=
  ∀ w ∈ crew.watchers, w.phase ≠ .done →
    crew.roster.entries[w.key]? = some w.number ∨ w.number ∈ awaitedIn calls

theorem Crew.Minded.plain (h : crew.Minded calls) (kept : crew.Kept moves)
    (hstep : CrewStep runtime monitor crew move crew') (htaken : move.taken = []) : crew'.Minded calls := by
  intro w hw hlive
  rcases hstep.origin kept hw hlive with ⟨v, hv, hkey, hnumber, hvlive⟩ | hentered
  · have hminded := h v hv hvlive
    rw [hkey, hnumber] at hminded
    refine hminded.imp_left fun hentry => ?_
    by_contra hgone
    rcases hstep.of_entry_gone hentry hgone with rfl | ⟨numbers, rfl, hmem⟩ | ⟨-, w', hw', -, hdone⟩
    · cases htaken
    · obtain rfl : numbers = [] := htaken
      cases hmem
    · obtain rfl := Option.some.inj ((Crew.watcher?_of_mem (kept.step hstep).nodup hw).symm.trans hw')
      exact hlive hdone
  · exact .inl hentered

theorem CallStep.minded (h : CallStep runtime monitor crew calls crew' calls' new) (kept : crew.Kept moves)
    (minded : crew.Minded calls) : crew'.Minded calls' := by
  cases h with
  | plain hstep htaken => exact minded.plain kept hstep htaken
  | @stop _ key number hentry =>
    intro w hw hlive
    rw [Roster.getElem?_take]
    rcases minded w hw hlive with hentered | hawaited
    · split
      next heq =>
        obtain rfl := Option.some.inj (hentry.symm.trans (heq ▸ hentered))
        exact .inr List.mem_cons_self
      next => exact .inl hentered
    · exact .inr (List.mem_cons_of_mem _ hawaited)
  | shutdown =>
    intro w hw hlive
    refine .inr (List.mem_append.mpr ?_)
    exact (minded w hw hlive).imp Roster.mem_drain id
  | @cancel before after number uncancelled awaited =>
    have hsame : awaitedIn (before ++ ⟨uncancelled, awaited⟩ :: after) =
        awaitedIn (before ++ ⟨number :: uncancelled, awaited⟩ :: after) := by simp [awaitedIn]
    intro w hw hlive
    rw [hsame]
    exact minded w hw hlive
  | @joined before after number awaited hdone =>
    intro w hw hlive
    refine (minded w hw hlive).imp_right fun hawaited => ?_
    have hne : w.number ≠ number := by
      rintro rfl
      exact hlive (Crew.done_of_isDone kept.nodup hw hdone)
    simpa [awaitedIn, hne] using hawaited
  | @returned before after =>
    have hsame : awaitedIn (before ++ after) = awaitedIn (before ++ ⟨[], []⟩ :: after) := by simp [awaitedIn]
    intro w hw hlive
    rw [hsame]
    exact minded w hw hlive

theorem CallRun.minded (run : CallRun runtime monitor crew calls moves) : crew.Minded calls := by
  induction run with
  | fresh hr hw =>
    intro w hmem
    rw [hw] at hmem
    cases hmem
  | move run hstep ih => exact hstep.minded run.kept ih

/-- However many callers start and stop watchers at once, a container has two watchers at work only while a call that
has taken one of them out has not returned, and only then does a start succeed beside a watcher at work. In a stream
that goes on, calls come one after the other, so that it never has two. -/
theorem CallRun.overlap_awaited (run : CallRun runtime monitor crew calls moves) :
    (∀ v ∈ crew.watchers, ∀ w ∈ crew.watchers, v.key = w.key → v.phase ≠ .done → w.phase ≠ .done →
      v = w ∨ v.number ∈ awaitedIn calls ∨ w.number ∈ awaitedIn calls) ∧
    (∀ c, (crew.start c).2 = true → ∀ w ∈ crew.watchers, w.key = c.identity →
      w.phase = .done ∨ w.number ∈ awaitedIn calls) ∧
    (calls = [] → ∀ c, (crew.start c).2 = true ↔
      c.identity ≠ "" ∧ ∀ w ∈ crew.watchers, w.key = c.identity → w.phase = .done) ∧
    ∀ {τ : Type} (setup : StreamSetup σ τ) (s : EventStream σ τ) (moves : List StreamMove), StreamRun setup s moves →
      s.crew.isCancelled s.crew.token = false → ∀ v ∈ s.crew.watchers, ∀ w ∈ s.crew.watchers, v.key = w.key →
        v.phase ≠ .done → w.phase ≠ .done → v = w := by
  have kept := run.kept
  have minded := run.minded
  have started {c : Container} (hstart : (crew.start c).2 = true) : ∀ w ∈ crew.watchers, w.key = c.identity →
      w.phase = .done ∨ w.number ∈ awaitedIn calls := by
    intro w hw hkey
    by_cases hdone : w.phase = .done
    · exact .inl hdone
    · refine .inr ((minded w hw hdone).resolve_left fun hentry => ?_)
      exact (Crew.start_iff.mp hstart).ne hentry hkey.symm
  refine ⟨fun v hv w hw hkey hvlive hwlive => ?_, fun c => started, ?_, fun setup s moves run hroot v hv w hw =>
    run.watched_once hroot hv hw⟩
  · rcases minded v hv hvlive with hventry | hawaited
    · rcases minded w hw hwlive with hwentry | hawaited
      · rw [hkey, hwentry] at hventry
        exact .inl (List.inj_on_of_nodup_map kept.nodup hv hw (Option.some.inj hventry).symm)
      · exact .inr (.inr hawaited)
    · exact .inr (.inl hawaited)
  · rintro rfl c
    refine ⟨fun hstart => ⟨(Crew.start_iff.mp hstart).1, fun w hw hkey => ?_⟩, fun ⟨hname, hdone⟩ => ?_⟩
    · exact (started hstart w hw hkey).resolve_right List.not_mem_nil
    · refine Crew.start_iff.mpr ⟨hname, fun hin => ?_⟩
      obtain ⟨n, hentry⟩ := Option.isSome_iff_exists.mp (Std.ExtTreeMap.mem_iff_isSome_getElem?.mp hin)
      obtain ⟨-, w, hw, -, hkey, hlive⟩ := kept.entered hentry
      exact hlive (hdone w hw hkey)

/-- A container's watcher has been taken out, and nothing else has happened yet. -/
def Crew.vacated : Crew ScriptedWorld :=
  let crew := ((idle .empty ⟨"lab", false, none⟩).start (.running "c")).1
  { crew with roster := (crew.roster.take "c").1 }

theorem CallRun.vacated (runtime : ContainerRuntime ScriptedWorld) (monitor : LinkMonitor ScriptedWorld) :
    ∃ moves, CallRun runtime monitor .vacated [⟨[0], [0]⟩] moves :=
  ⟨_, ((CallRun.fresh rfl rfl).move (.plain (.start (.running "c")) rfl)).move (.stop "c" (by decide +kernel))⟩

/-- The call has not even cancelled it when the next one begins. -/
theorem CallRun.overlap_awaited_of_vacated : ∃ crew calls moves,
    CallRun (ScriptedWorld.runtime "") ScriptedWorld.monitor crew calls moves ∧
    ∃ v ∈ crew.watchers, ∃ w ∈ crew.watchers, v.key = w.key ∧ v.phase ≠ .done ∧ w.phase ≠ .done ∧ v ≠ w ∧
      (v.number ∈ awaitedIn calls ∨ w.number ∈ awaitedIn calls) := by
  obtain ⟨_, vacated⟩ := CallRun.vacated (ScriptedWorld.runtime "") ScriptedWorld.monitor
  have run := vacated.move (.plain (.start (.running "c")) rfl)
  have overlap : ∃ v ∈ (Crew.vacated.start (.running "c")).1.watchers,
      ∃ w ∈ (Crew.vacated.start (.running "c")).1.watchers,
        v.key = w.key ∧ v.phase ≠ .done ∧ w.phase ≠ .done ∧ v.number ≠ w.number := by decide +kernel
  obtain ⟨v, hv, w, hw, hkey, hvlive, hwlive, hnumber⟩ := overlap
  have hne : v ≠ w := fun heq => hnumber (congrArg Watcher.number heq)
  exact ⟨_, _, _, run, v, hv, w, hw, hkey, hvlive, hwlive, hne,
    (run.overlap_awaited.1 v hv w hw hkey hvlive hwlive).resolve_left hne⟩

/-- A start may succeed while an earlier watcher of the container is still at work. -/
theorem CallRun.start_beside_watcher : ¬∀ (crew : Crew ScriptedWorld) (calls : List PendingCall)
    (moves : List CrewMove), CallRun (ScriptedWorld.runtime "") ScriptedWorld.monitor crew calls moves →
      ∀ c, (crew.start c).2 = true → ∀ w ∈ crew.watchers, w.key = c.identity → w.phase = .done := by
  intro hclaim
  obtain ⟨_, run⟩ := CallRun.vacated (ScriptedWorld.runtime "") ScriptedWorld.monitor
  have beside : (Crew.vacated.start (.running "c")).2 = true ∧
      ∃ w ∈ Crew.vacated.watchers, w.key = (Container.running "c").identity ∧ w.phase ≠ .done := by decide +kernel
  obtain ⟨hstart, w, hw, hkey, hlive⟩ := beside
  exact hlive (hclaim _ _ _ run _ hstart w hw hkey)

end LabStream
