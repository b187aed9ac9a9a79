import LabStream.Machine
import LabStream.Proofs.LinkReplay
import LabStream.Proofs.WatcherRun

namespace LabStream

/-- The interfaces of a table after a change of one of them. -/
def LinkTable.changed (table : LinkTable) : LinkUpdate → LinkTable
  | .upsert link => table.insert link.snapshot.index link.snapshot
  | .removed link => table.erase link.snapshot.index

theorem LinkTable.apply_changed (table : LinkTable) (update : LinkUpdate) :
    (table.apply update).1 = table.changed update := by
  ext index : 1
  rw [getElem?_apply]
  cases update with
  | upsert link => exact (getElem?_store table link.snapshot index).symm
  | removed link => exact (getElem?_drop table link.snapshot.index index).symm

/-- What is so in the namespaces of a world: the interfaces at a path, and the updates that an open
namespace has still to hand out. -/
structure NamespaceView (σ : Type) where
  links : σ → String → LinkTable
  queue : σ → Nat → List LinkUpdate

namespace NamespaceView

variable {σ α : Type} {monitor : LinkMonitor σ} {view : NamespaceView σ} {handle : Nat} {path : String}
  {world world' : σ} {table : LinkTable}

/-- The answers of a monitor are those of the namespaces, and asking changes nothing in them. -/
structure Describes (view : NamespaceView σ) (monitor : LinkMonitor σ) : Prop where
  opened {path : String} {handle : Nat} {world world' : σ} :
    monitor.openAt path world = (world', .ok handle) → view.queue world' handle = []
  listed {path : String} {handle : Nat} {world : σ} {inventory : List Link} :
    (monitor.list handle path world).2 = .ok inventory →
      view.links world path = .seed (inventory.map (·.snapshot))
  list_links (handle : Nat) (path : String) (world : σ) :
    view.links (monitor.list handle path world).1 path = view.links world path
  list_queue (handle : Nat) (path : String) (world : σ) :
    view.queue (monitor.list handle path world).1 handle = view.queue world handle
  taken_links {path : String} {handle : Nat} {world world' : σ} {update : LinkUpdate} :
    monitor.nextUpdate handle path world = (world', .update update) →
      view.links world' path = view.links world path
  taken_queue {path : String} {handle : Nat} {world world' : σ} {update : LinkUpdate} :
    monitor.nextUpdate handle path world = (world', .update update) →
      view.queue world handle = update :: view.queue world' handle

/-- What others may do around an open namespace: nothing that is seen there, or one change of an
interface, which is put in the queue. -/
inductive Change (view : NamespaceView σ) (handle : Nat) (path : String) (world world' : σ) : Prop where
  | elsewhere : view.links world' path = view.links world path →
    view.queue world' handle = view.queue world handle → Change view handle path world world'
  | link (update : LinkUpdate) : view.links world' path = (view.links world path).changed update →
    view.queue world' handle = view.queue world handle ++ [update] → Change view handle path world world'

/-- All changes of the namespace that a watcher has open are queued for it. -/
def Follows (view : NamespaceView σ) (w : Watcher) (hub hub' : Hub σ) : Prop :=
  ∀ handle path, w.links = some (handle, path) → view.Change handle path hub.host.world hub'.host.world

theorem Follows.of_links {w : Watcher} {hub hub' : Hub σ} (hl : w.links = some (handle, path))
    (h : view.Change handle path hub.host.world hub'.host.world) : view.Follows w hub hub' := by
  intro _ _ hl'
  cases hl.symm.trans hl'
  exact h

/-- The queued updates lead from a table to the interfaces that are there. -/
def Leads (view : NamespaceView σ) (table : LinkTable) (handle : Nat) (path : String) (world : σ) : Prop :=
  table.replay (view.queue world handle) = view.links world path

theorem Leads.change (h : view.Leads table handle path world) (hc : view.Change handle path world world') :
    view.Leads table handle path world' := by
  unfold Leads at h ⊢
  cases hc with
  | elsewhere hl hq => rw [hl, hq, h]
  | link update hl hq =>
    rw [hl, hq, LinkTable.replay_append, LinkTable.replay_cons, LinkTable.replay_nil, h, LinkTable.apply_changed]

theorem Leads.taken (hv : view.Describes monitor) (h : view.Leads table handle path world) {update : LinkUpdate}
    (hpoll : monitor.nextUpdate handle path world = (world', .update update)) :
    view.Leads (table.apply update).1 handle path world' := by
  unfold Leads at h ⊢
  rw [hv.taken_links hpoll, ← h, hv.taken_queue hpoll, LinkTable.replay_cons]

theorem Leads.list (hv : view.Describes monitor) (h : view.Leads table handle path world) :
    view.Leads table handle path (monitor.list handle path world).1 := by
  unfold Leads at h ⊢
  rw [hv.list_links, hv.list_queue, h]

/-- Updates that the listing knows of already lead from it to itself. -/
theorem Leads.listed (hv : view.Describes monitor) (h : view.Leads table handle path world)
    {inventory : List Link} (hlist : (monitor.list handle path world).2 = .ok inventory) :
    view.Leads (.seed (inventory.map (·.snapshot))) handle path world := by
  unfold Leads at h ⊢
  rw [← hv.listed hlist, ← h, LinkTable.replay_replay]

/-- A view of what is in a part of a world. -/
def within (part : Part σ α) (view : NamespaceView α) : NamespaceView σ where
  links world := view.links (part.get world)
  queue world := view.queue (part.get world)

theorem Describes.within {part : Part σ α} (hpart : ∀ a world, part.get (part.set a world) = a)
    {view : NamespaceView α} {monitor : LinkMonitor α} (hv : view.Describes monitor) :
    (view.within part).Describes (monitor.within part) where
  opened h := by
    obtain ⟨rfl, hresult⟩ := Prod.mk.inj h
    simp only [NamespaceView.within, hpart]
    exact hv.opened (Prod.ext rfl hresult)
  listed h := hv.listed h
  list_links handle path world := by
    simpa only [NamespaceView.within, LinkMonitor.within, Part.act, hpart] using hv.list_links handle path _
  list_queue handle path world := by
    simpa only [NamespaceView.within, LinkMonitor.within, Part.act, hpart] using hv.list_queue handle path _
  taken_links h := by
    obtain ⟨rfl, hresult⟩ := Prod.mk.inj h
    simp only [NamespaceView.within, hpart]
    exact hv.taken_links (Prod.ext rfl hresult)
  taken_queue h := by
    obtain ⟨rfl, hresult⟩ := Prod.mk.inj h
    simp only [NamespaceView.within, hpart]
    exact hv.taken_queue (Prod.ext rfl hresult)

end NamespaceView

/-- A kernel has one inventory for all namespaces, and a queue for everyone who watches it. -/
def Kernel.view : NamespaceView Kernel where
  links k _ := .seed (k.inventory.map (·.received.link.snapshot))
  queue k handle := k.queues[handle]?.getD []

theorem Kernel.view_describes : Kernel.view.Describes Kernel.monitor where
  opened {path handle k k'} h := by
    simp only [monitor, openAt] at h
    split at h
    · cases h
    · split at h
      · cases h
      · cases h
        simp [view]
  listed {path handle k inventory} h := by
    simp only [monitor, dump] at h
    split at h
    · obtain rfl := Except.ok.inj h
      rw [List.map_map]
      rfl
    · cases h
  list_links _ _ _ := rfl
  list_queue _ _ _ := rfl
  taken_links {path handle k k' update} h := by
    simp only [monitor, nextUpdate] at h
    split at h
    · cases h
      rfl
    · split at h <;> cases h
  taken_queue {path handle k k' update} h := by
    simp only [monitor, nextUpdate] at h
    split at h
    next heq =>
      cases h
      obtain ⟨hlt, hget⟩ := List.getElem?_eq_some_iff.mp heq
      simp [view, hlt, hget]
    next => split at h <;> cases h

end LabStream
