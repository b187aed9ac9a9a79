import LabStream.Proofs.NamespaceView

namespace LabStream

variable {σ : Type} {runtime : ContainerRuntime σ} {monitor : LinkMonitor σ} {view : NamespaceView σ}

namespace Traced

variable {α : Type} {host host' : Traced σ} {action : σ → σ × α} {result : α}

theorem world_of_perform {call : Call} (h : host.perform call action = (host', result)) :
    action host.world = (host'.world, result) := by
  cases h
  rfl

theorem world_of_observe (h : host.observe action = (host', result)) :
    action host.world = (host'.world, result) := by
  cases h
  rfl

end Traced

namespace Crew

variable {crew : Crew σ} {w w' : Watcher} {hub : Hub σ} {handle : Nat} {path : String}

theorem listLinks_open (monitor : LinkMonitor σ) (crew : Crew σ) (hl : w.links = some (handle, path)) :
    (crew.listLinks monitor w).1.host.world = (monitor.list handle path crew.host.world).1 ∧
      (crew.listLinks monitor w).2 = (monitor.list handle path crew.host.world).2 := by
  simp only [listLinks, hl]
  exact ⟨rfl, rfl⟩

/-- A watcher asks for the inventory only after it has opened the namespace. -/
theorem Turn.opened_of_surveying (h : Turn runtime monitor crew w hub w') (hp : w'.phase = .surveying) :
    ∃ handle path, w'.links = some (handle, path) ∧
      monitor.openAt path crew.host.world = (hub.host.world, .ok handle) := by
  cases h with
  | opened _ hopen => exact ⟨_, _, rfl, Traced.world_of_perform hopen⟩
  | cancelled | unresolved | unopened | refused | closed | released => cases hp
  | resolved _ _ hphase =>
    rcases Watcher.afterAttempt_ok hphase with ⟨_, _, _, rfl⟩ | ⟨_, rfl⟩ <;> cases hp
  | surveyed | sent | read | learned =>
    obtain ⟨phase, ticker, heq, hkind⟩ := Watcher.report_eq _ _ _ _ _ _
    rw [heq] at hp
    rcases hkind with rfl | ⟨_, _, rfl⟩ <;> cases hp
  | blocked hsending => cases hsending.symm.trans hp
  | unread hwatching => cases hwatching.symm.trans hp

end Crew

/-- While a watcher asks for the inventory, all that was queued since it opened the namespace leads to the
interfaces that are there. -/
theorem WatcherRun.leads_of_surveying (hv : view.Describes monitor) {crew₀ crew : Crew σ} {w₀ w : Watcher}
    {sent : List Event} (run : WatcherRun runtime monitor view.Follows crew₀ w₀ crew w sent)
    (h₀ : w₀.phase ≠ .surveying) {handle : Nat} {path : String} (hp : w.phase = .surveying)
    (hl : w.links = some (handle, path)) : ∃ base, view.Leads base handle path crew.host.world := by
  induction run with
  | start => exact absurd hp h₀
  | others _ _ _ hothers ih =>
    obtain ⟨base, hb⟩ := ih hp hl
    exact ⟨base, hb.change (hothers handle path hl)⟩
  | step run hs hw =>
    obtain ⟨_, _, hlinks, hopen⟩ := (run.turn hs hw).opened_of_surveying hp
    cases hl.symm.trans hlinks
    exact ⟨_, by rw [NamespaceView.Leads, hv.opened hopen, LinkTable.replay_nil]⟩

namespace Watcher

variable {w w' : Watcher} {crew : Crew σ} {hub : Hub σ} {world : σ}

def hasSurveyed (w : Watcher) : Bool :=
  match w.phase with
  | .resolving .. | .opening _ | .surveying => false
  | .sending .. | .watching | .leaving | .done => true

/-- What a watcher knows and what is queued for it is all there is in the namespace that it has open. -/
structure InStep (view : NamespaceView σ) (w : Watcher) (world : σ) : Prop where
  surveyed : w.hasSurveyed
  leads {handle : Nat} {path : String} : w.links = some (handle, path) → view.Leads w.table handle path world

theorem InStep.parted (w : Watcher) (world : σ) : w.parted.InStep view world := ⟨rfl, nofun⟩

theorem InStep.report
    (h : ∀ {handle path}, w.links = some (handle, path) → view.Leads w.table handle path world)
    (options : WatchOptions) (reports : List LinkReport) (begins : Bool) (now : Nat) (instant : Instant) :
    (w.report options reports begins now instant).InStep view world := by
  obtain ⟨phase, ticker, heq, hkind⟩ := w.report_eq options reports begins now instant
  rw [heq]
  rcases hkind with rfl | ⟨_, _, rfl⟩ <;> exact ⟨rfl, h⟩

theorem InStep.turn (hv : view.Describes monitor) (h : w.InStep view crew.host.world)
    (ht : Crew.Turn runtime monitor crew w hub w') : w'.InStep view hub.host.world := by
  have hlist {handle path} (hl : w.links = some (handle, path)) :
      view.Leads w.table handle path (crew.listLinks monitor w).1.host.world := by
    rw [(Crew.listLinks_open monitor crew hl).1]
    exact (h.leads hl).list hv
  have hs := h.surveyed
  cases ht with
  | cancelled | unresolved | unopened | refused | closed => exact .parted _ _
  | resolved hp | opened hp | surveyed hp => simp [hasSurveyed, hp] at hs
  | sent => exact .report h.leads _ _ _ _ _
  | blocked => exact h
  | unread => exact ⟨hs, hlist⟩
  | read => exact .report (w := ((w.ticked crew.now).readAll _ crew.now).1) hlist _ _ _ _ _
  | learned hp hl hpoll =>
    refine .report (w := (w.learn _ crew.now).1) (fun hl' => ?_) _ _ _ _ _
    cases hl.symm.trans hl'
    exact (h.leads hl).taken hv (Traced.world_of_observe hpoll)
  | released => exact ⟨rfl, h.leads⟩

end Watcher

theorem WatcherRun.inStep (hv : view.Describes monitor) {crew₀ crew : Crew σ} {w₀ w : Watcher}
    {sent : List Event} (run : WatcherRun runtime monitor view.Follows crew₀ w₀ crew w sent)
    (h : w₀.InStep view crew₀.host.world) : w.InStep view crew.host.world := by
  induction run with
  | start => exact h
  | others _ _ _ hothers ih => exact ⟨ih.surveyed, fun hl => (ih.leads hl).change (hothers _ _ hl)⟩
  | step run hs hw ih => exact ih.turn hv (run.turn hs hw)

/-- A watcher whose inventory could be listed is in step from then on. -/
theorem Watcher.InStep.surveyed_turn (hv : view.Describes monitor) {crew : Crew σ} {w w' : Watcher} {hub : Hub σ}
    {handle : Nat} {path : String} {base : LinkTable} {inventory : List Link} (hp : w.phase = .surveying)
    (hl : w.links = some (handle, path)) (hlist : (monitor.list handle path crew.host.world).2 = .ok inventory)
    (hb : view.Leads base handle path crew.host.world) (ht : Crew.Turn runtime monitor crew w hub w') :
    w'.InStep view hub.host.world := by
  obtain ⟨hworld, hinventory⟩ := Crew.listLinks_open monitor crew hl
  cases ht with
  | surveyed _ hmet =>
    subst hmet
    refine .report (fun hl' => ?_) _ _ _ _ _
    cases hl.symm.trans hl'
    rw [hworld, hinventory, hlist]
    exact (hb.listed hv hlist).list hv
  | cancelled hheeds => simp [heedsCancel, hp] at hheeds
  | resolved h | unresolved h | opened h | unopened h | sent h | blocked h => cases h.symm.trans hp
  | refused h | unread h | read h | closed h | learned h | released h => cases h.symm.trans hp

/-- Whatever changes while a watcher opens a namespace, lists it and watches it: once nothing is queued for
it, its table is what is there. -/
theorem WatcherRun.table_converges (hv : view.Describes monitor) {crew₀ crew crew₁ crew' : Crew σ}
    {number : Nat} {key : String} {c : Container} {token : Token} {now : Nat} {w w₁ w' : Watcher}
    {sent sent' : List Event} {handle : Nat} {path : String} {inventory : List Link}
    (begun : WatcherRun runtime monitor view.Follows crew₀ (.fresh number key c token now) crew w sent)
    (asks : w.phase = .surveying) (opened : w.links = some (handle, path))
    (listed : (monitor.list handle path crew.host.world).2 = .ok inventory)
    (step : crew.stepWatcher runtime monitor w = some crew₁) (surveyed : crew₁.watcher? w.number = some w₁)
    (run : WatcherRun runtime monitor view.Follows crew₁ w₁ crew' w' sent')
    (stays : w'.links = some (handle, path)) (drained : view.queue crew'.host.world handle = []) :
    w'.table = view.links crew'.host.world path := by
  obtain ⟨base, hb⟩ := begun.leads_of_surveying hv nofun asks opened
  have hstart := Watcher.InStep.surveyed_turn hv asks opened listed hb (begun.turn step surveyed)
  have h := (run.inStep hv hstart).leads stays
  rwa [NamespaceView.Leads, drained, LinkTable.replay_nil] at h

/-- The interfaces of a kernel change, and everyone who watches them is told. -/
def Kernel.announce (inventory : List LinkMessage) (notice : LinkNotice) (k : Kernel) : Kernel :=
  { k with inventory }.multicast [notice]

def LinkMessage.named (index : Nat) (name : String) : LinkMessage :=
  ⟨index, [.name name, .mtu 1500, .operState 6]⟩

/-- A machine where one container runs, in a namespace with some interfaces. -/
def Machine.ofContainer (id : String) (inventory : List LinkMessage) : Machine :=
  .start ⟨.list [], [(id, .record [("State", .record [("Pid", .whole 7)])])], none, none, ⟨"", false⟩, []⟩
    { Kernel.empty with disk := [⟨["proc", "7", "ns", "net"], false⟩], inventory }

theorem table_converges_after_renaming :
    let runtime : ContainerRuntime Machine := DockerDaemon.socket.runtime.within Machine.dockerPart
    let monitor : LinkMonitor Machine := Kernel.monitor.within Machine.kernelPart
    let view : NamespaceView Machine := Kernel.view.within Machine.kernelPart
    ∃ crew crew₁ crew' w w₁ w' sent sent',
      WatcherRun runtime monitor view.Follows
        (.ofContainer (.ofContainer "c" [.named 1 "lo", .named 3 "a"]) "c" ⟨"lab", true, some (.ofMillis 1000)⟩)
        (.fresh 0 "c" (.running "c") [0, 0] 0) crew w sent ∧
      crew.stepWatcher runtime monitor w = some crew₁ ∧
      WatcherRun runtime monitor view.Follows crew₁ w₁ crew' w' sent' ∧
      w'.table.snapshots.map (·.name) = ["lo", "d"] := by
  intro runtime monitor view
  have fresh : WatcherRun runtime monitor view.Follows
      (.ofContainer (.ofContainer "c" [.named 1 "lo", .named 3 "a"]) "c" ⟨"lab", true, some (.ofMillis 1000)⟩)
      (.fresh 0 "c" (.running "c") [0, 0] 0) _ _ _ := .start rfl
  obtain ⟨w, hn, hw, opened⟩ := fresh.settle 0 rfl 2
  have hopened : ∀ v ∈ some w, v.phase = .surveying ∧ v.links = some (0, "/proc/7/ns/net") := by
    rw [← hw]
    decide +kernel
  obtain ⟨asks, links⟩ := hopened w rfl
  have made := opened.amid 0 (Machine.kernelPart.change (.announce
    [.named 1 "lo", .named 3 "a", .named 4 "b"] (.changed (.named 4 "b")))) (.of_links links
      (.link (.upsert (LinkMessage.named 4 "b").received.link) (by decide +kernel) (by decide +kernel)))
  have renamed := made.amid 0 (Machine.kernelPart.change (.announce
    [.named 1 "lo", .named 3 "a", .named 4 "d"] (.changed (.named 4 "d")))) (.of_links links
      (.link (.upsert (LinkMessage.named 4 "d").received.link) (by decide +kernel) (by decide +kernel)))
  have step := renamed.step_settle 0 hn (by decide +kernel)
  obtain ⟨w₁, hn₁, hw₁, -⟩ := renamed.settle 0 hn 1
  have hsurveyed : ∀ v ∈ some w₁, v.links = some (0, "/proc/7/ns/net") := by
    rw [← hw₁]
    decide +kernel
  have surveyed : WatcherRun runtime monitor view.Follows _ w₁ _ w₁ _ := .start (by rw [hn₁]; exact hw₁)
  have removed := surveyed.amid 5000000000 (Machine.kernelPart.change (.announce
    [.named 1 "lo", .named 4 "d"] (.gone (.named 3 "a")))) (.of_links (hsurveyed w₁ rfl)
      (.link (.removed (LinkMessage.named 3 "a").received.link) (by decide +kernel) (by decide +kernel)))
  obtain ⟨w', -, hw', run⟩ := removed.settle 0 hn₁ 20
  have stays : ∀ v ∈ some w', v.links = some (0, "/proc/7/ns/net") := by
    rw [← hw']
    decide +kernel
  have converged := renamed.table_converges (Kernel.view_describes.within fun _ _ => rfl) asks links
    (if_pos (by decide +kernel)) step (by rw [hn]; exact hw₁) run (stays w' rfl) (by decide +kernel)
  exact ⟨_, _, _, w, w₁, w', _, _, renamed, step, run, by rw [converged]; decide +kernel⟩

end LabStream
