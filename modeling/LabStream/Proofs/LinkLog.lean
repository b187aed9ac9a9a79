import LabStream.Proofs.LinkMirror
import LabStream.Proofs.WatcherRun

namespace LabStream

variable {σ : Type} {runtime : ContainerRuntime σ} {monitor : LinkMonitor σ}

namespace Watcher

variable {w : Watcher} {table : LinkTable}

/-- The table of a consumer who hears all that a watcher has still to say. -/
def heard (w : Watcher) (table : LinkTable) : LinkTable :=
  match w.phase with
  | .sending event rest _ => rest.foldl LinkTable.tell (table.follow event)
  | _ => table

/-- Whether a consumer's table is the watcher's own, up to what is still to be said. -/
def Mirrored (w : Watcher) (table : LinkTable) : Prop :=
  match w.phase with
  | .resolving .. | .opening _ | .surveying => table = ∅
  | .sending .. | .watching => w.table.Keyed ∧ w.heard table = w.table
  | .leaving | .done => True

theorem Mirrored.report {options : WatchOptions} {reports : List LinkReport} (hk : w.table.Keyed)
    (hr : reports.foldl LinkTable.tell table = w.table) (begins : Bool) (now : Nat) (instant : Instant) :
    (w.report options reports begins now instant).Mirrored table := by
  cases reports with
  | nil => cases begins <;> exact ⟨hk, hr⟩
  | cons r rest =>
    refine ⟨hk, ?_⟩
    rw [List.foldl_cons, ← LinkTable.follow_event table r w.container options.labLabel instant] at hr
    exact hr

theorem foldl_tell_metrics {reports : List LinkReport} (h : ∀ r ∈ reports, ∃ s m, r = .metrics s m)
    (table : LinkTable) : reports.foldl LinkTable.tell table = table := by
  induction reports with
  | nil => rfl
  | cons r reports ih =>
    obtain ⟨⟨s, m, rfl⟩, hrest⟩ := List.forall_mem_cons.mp h
    exact ih hrest

theorem readLink_metrics (now : Nat) (state : LinkReadings × List LinkReport) (link : Link)
    (h : ∀ r ∈ state.2, ∃ s m, r = .metrics s m) :
    ∀ r ∈ (readLink table now state link).2, ∃ s m, r = LinkReport.metrics s m := by
  unfold readLink
  dsimp only
  split
  · exact h
  · split
    · exact h
    · refine List.forall_mem_append.mpr ⟨h, fun r hr => ?_⟩
      obtain ⟨m, _, rfl⟩ := Option.map_eq_some_iff.mp (Option.mem_toList.mp hr)
      exact ⟨_, _, rfl⟩

/-- A tick tells of nothing but metrics. -/
theorem readAll_metrics (w : Watcher) (links : List Link) (now : Nat) :
    ∀ r ∈ (w.readAll links now).2, ∃ s m, r = LinkReport.metrics s m := by
  suffices ∀ state : LinkReadings × List LinkReport, (∀ r ∈ state.2, ∃ s m, r = .metrics s m) →
      ∀ r ∈ (links.foldl (readLink w.table now) state).2, ∃ s m, r = LinkReport.metrics s m from
    this _ (by simp)
  induction links with
  | nil => exact fun _ h => h
  | cons link links ih => exact fun state h => ih _ (readLink_metrics now state link h)

theorem foldl_tell_opening {options : WatchOptions} (hi : options.initialState) (hk : w.table.Keyed) :
    (w.opening options).foldl LinkTable.tell ∅ = w.table := by
  rw [opening, if_pos hi, List.foldl_map]
  exact LinkTable.foldl_store_snapshots hk

theorem foldl_tell_learn (hk : w.table.Keyed) (update : LinkUpdate) (now : Nat) :
    (w.learn update now).2.foldl LinkTable.tell w.table = (w.learn update now).1.table := by
  have hr := LinkTable.record_apply hk update
  rcases ha : w.table.apply update with ⟨after, change⟩
  rw [ha] at hr
  simp only [learn, ha]
  cases change <;> exact hr

end Watcher

theorem Watcher.Mirrored.turn {crew : Crew σ} {w w' : Watcher} {hub : Hub σ} {sent : List Event}
    (hi : crew.options.initialState) (h : w.Mirrored (sent.foldl LinkTable.follow ∅))
    (ht : Crew.Turn runtime monitor crew w hub w') :
    w'.Mirrored ((sent ++ hub.channel.queue.drop crew.channel.queue.length).foldl LinkTable.follow ∅) := by
  obtain ⟨host, hkeeps⟩ := crew.listLinks_keeps monitor w
  cases ht with
  | cancelled | unresolved | unopened | refused | closed | released => exact trivial
  | resolved hp _ hphase =>
    simp only [Mirrored, hp] at h
    simp only [List.drop_length, List.append_nil]
    rcases Watcher.afterAttempt_ok hphase with ⟨_, _, _, rfl⟩ | ⟨_, rfl⟩ <;> exact h
  | opened hp =>
    simp only [Mirrored, hp, List.drop_length, List.append_nil] at h ⊢
    exact h
  | surveyed hp hmet =>
    subst hmet
    simp only [Mirrored, hp] at h
    simp only [hkeeps, List.drop_length, List.append_nil, h]
    have hk : (w.survey ((crew.listLinks monitor w).2.toOption.getD []) crew.now).table.Keyed := .seed _
    exact .report hk (foldl_tell_opening hi hk) _ _ _
  | sent hp hq =>
    simp only [Mirrored, heard, hp] at h
    refine .report h.1 ?_ _ _ _
    simpa [hq] using h.2
  | blocked hp hq => simpa [hq] using h
  | unread hp =>
    simp only [hkeeps, List.drop_length, List.append_nil]
    exact h
  | read hp hd hlist =>
    simp only [Mirrored, heard, hp] at h
    simp only [hkeeps, List.drop_length, List.append_nil]
    refine .report (w := ((w.ticked crew.now).readAll _ crew.now).1) h.1 ?_ _ _ _
    rw [foldl_tell_metrics (readAll_metrics _ _ _)]
    exact h.2
  | learned hp hl hpoll =>
    simp only [Mirrored, heard, hp] at h
    simp only [List.drop_length, List.append_nil]
    refine .report (w := (w.learn _ crew.now).1) (h.1.apply _) ?_ _ _ _
    rw [h.2]
    exact foldl_tell_learn h.1 _ _

theorem WatcherRun.mirrored {others : Watcher → Hub σ → Hub σ → Prop} {crew₀ crew : Crew σ} {w₀ w : Watcher}
    {sent : List Event} (run : WatcherRun runtime monitor others crew₀ w₀ crew w sent)
    (initial : crew₀.options.initialState) (h : w₀.Mirrored ∅) :
    w.Mirrored (sent.foldl LinkTable.follow ∅) := by
  induction run with
  | start => exact h
  | others _ _ _ _ ih => exact ih
  | step run hs hw ih => exact ih.turn (run.options ▸ initial) (run.turn hs hw)

/-- The log of an inventory's changes tells of all of them and of nothing else, each as what it is; and
whoever follows the events of a watcher that shows its inventory first has the watcher's own table. -/
theorem link_log_faithful :
    (∀ (inventory : List Snapshot) (updates : List LinkUpdate),
      let seed := LinkTable.seed inventory
      let table := seed.replay updates
      let told := seed.log updates
      (∀ index : Nat, seed[index]? = LinkTable.lastOf index inventory) ∧
      told.foldl LinkTable.record seed = table ∧
      ∀ update, ((table.apply update).2 = none ↔ (table.apply update).1 = table) ∧
        ∀ action s, (table.apply update).2 = some (action, s) →
          s.index = update.index ∧ action.Warranted table (inventory ++ told.map (·.2)) s) ∧
    ∀ (runtime : ContainerRuntime σ) (monitor : LinkMonitor σ) (others : Watcher → Hub σ → Hub σ → Prop)
      (crew₀ crew : Crew σ) (number : Nat) (key : String) (c : Container) (token : Token) (now : Nat)
      (w : Watcher) (sent : List Event),
      WatcherRun runtime monitor others crew₀ (.fresh number key c token now) crew w sent →
      crew₀.options.initialState → w.phase = .watching → sent.foldl LinkTable.follow ∅ = w.table := by
  constructor
  · intro inventory updates seed table told
    have hk : seed.Keyed := .seed inventory
    exact ⟨LinkTable.getElem?_seed inventory, LinkTable.record_log hk updates, fun update =>
      ⟨LinkTable.apply_silent_iff table update, fun action s h =>
        LinkTable.warranted_apply (hk.replay updates) (fun _ _ => LinkTable.lastOf_log inventory updates) h⟩⟩
  · intro _ _ _ crew₀ _ _ _ _ _ _ w sent run initial watches
    have h := run.mirrored initial rfl
    simp only [Watcher.Mirrored, Watcher.heard, watches] at h
    exact h.2

namespace ScriptedWorld

/-- A loopback and an interface that is listed twice. -/
def lan : List Link := [veth 3 "a", veth 3 "b", veth 1 "lo"]

def ofContainer (id : String) : ScriptedWorld :=
  { empty with
    containers := [.running id]
    namespaces := [{ ScriptedNamespace.blank ("/ns/" ++ id) with links := lan }] }

def changeLinks (path : String) (updates : List LinkUpdate) (world : ScriptedWorld) : ScriptedWorld :=
  updates.foldl (fun world update => (world.changeLink path update).1) world

theorem link_log_faithful_after_changes :
    LinkTable.lastOf 3 (lan.map (·.snapshot) ++
      ((LinkTable.seed (lan.map (·.snapshot))).log [.upsert (veth 4 "c")]).map (·.2)) =
        some (veth 3 "b").snapshot ∧
    ∃ crew w sent, WatcherRun (ScriptedWorld.runtime "") ScriptedWorld.monitor (fun _ _ _ => True)
      (.ofContainer (.ofContainer "c") "c" ⟨"lab", true, none⟩)
      (.fresh 0 "c" (.running "c") [0, 0] 0) crew w sent ∧
      sent.map (·.action) = ["snapshot", "snapshot", "create", "delete"] ∧
      sent.foldl LinkTable.follow ∅ = .seed [(veth 1 "lo").snapshot, (veth 4 "c").snapshot] := by
  have fresh : WatcherRun (ScriptedWorld.runtime "") ScriptedWorld.monitor (fun _ _ _ => True)
      (.ofContainer (.ofContainer "c") "c" ⟨"lab", true, none⟩)
      (.fresh 0 "c" (.running "c") [0, 0] 0) _ _ _ := .start rfl
  obtain ⟨_, hn, -, shown⟩ := fresh.settle 0 rfl 9
  have changed := shown.amid 0 (changeLinks "/ns/c" [.upsert (veth 4 "c"), .removed (veth 3 "b")]) trivial
  obtain ⟨w, -, hw, run⟩ := changed.settle 0 hn 9
  have settled : ∀ v ∈ some w, v.phase = .watching ∧
      v.table = .seed [(veth 1 "lo").snapshot, (veth 4 "c").snapshot] := by
    rw [← hw]
    decide +kernel
  obtain ⟨watches, table⟩ := settled w rfl
  obtain ⟨logged, followed⟩ := link_log_faithful (σ := ScriptedWorld)
  obtain ⟨-, -, told⟩ := logged (lan.map (·.snapshot)) [.upsert (veth 4 "c")]
  obtain ⟨-, -, seen⟩ := (told (.removed (veth 3 "b"))).2 .delete (veth 3 "b").snapshot (by decide +kernel)
  have same := followed _ _ _ _ _ _ _ _ _ _ _ _ run (by decide) watches
  exact ⟨seen, _, w, _, run, by decide +kernel, same.trans table⟩

end ScriptedWorld

end LabStream
