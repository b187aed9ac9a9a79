import LabStream.Part
import LabStream.Proofs.StreamTurns

namespace LabStream

variable {σ α τ κ : Type} {part : Part σ α} {rest : σ → κ}

/-- Whether something of a world lies outside of a part of it. -/
def Part.Spares (part : Part σ α) (rest : σ → κ) : Prop := ∀ a world, rest (part.set a world) = rest world

namespace Part.Spares

variable {b : TrafficBackend α τ}

/-- The host that comes with an answer keeps what asking for it keeps. -/
theorem of_answer {δ : Type} {answer : Traced σ × δ} {before host : Traced σ} {result : δ}
    (hkept : rest answer.1.world = rest before.world) (heq : answer = (host, result)) :
    rest host.world = rest before.world := by
  rw [heq] at hkept
  exact hkept

theorem attachOne (h : part.Spares rest) (state : Traced σ × CountedScope τ × Option TrafficFault)
    (ifname : String) :
    rest (CountedScope.attachOne (b.within part) state ifname).1.world = rest state.1.world := by
  obtain ⟨host, scope, fault⟩ := state
  have hkept : rest (host.performNoting
      (fun (result : Except TrafficFault Unit) => .attach scope.spec.id ifname result.toOption.isSome)
      ((b.within part).attach scope.table ifname)).1.world = rest host.world := h _ _
  unfold CountedScope.attachOne
  dsimp only
  split
  · rfl
  · split <;> (next heq => exact of_answer hkept heq)

theorem detachOne (h : part.Spares rest) (state : Traced σ × CountedScope τ) (ifname : String) :
    rest (CountedScope.detachOne (b.within part) state ifname).1.world = rest state.1.world := h _ _

theorem attachAll (h : part.Spares rest) (ifnames : List String)
    (state : Traced σ × CountedScope τ × Option TrafficFault) :
    rest (ifnames.foldl (CountedScope.attachOne (b.within part)) state).1.world = rest state.1.world := by
  induction ifnames generalizing state with
  | nil => rfl
  | cons ifname ifnames ih => rw [List.foldl_cons, ih, h.attachOne]

theorem detachAll (h : part.Spares rest) (ifnames : List String) (state : Traced σ × CountedScope τ) :
    rest (ifnames.foldl (CountedScope.detachOne (b.within part)) state).1.world = rest state.1.world := by
  induction ifnames generalizing state with
  | nil => rfl
  | cons ifname ifnames ih => rw [List.foldl_cons, ih, h.detachOne]

theorem reconcile (h : part.Spares rest) (host : Traced σ) (scope : CountedScope τ) :
    rest (scope.reconcile (b.within part) host).1.world = rest host.world := by
  have hlisted : rest (host.perform (.scopeLinks scope.spec.id) ((b.within part).links scope.table)).1.world =
      rest host.world := h _ _
  unfold CountedScope.reconcile
  split
  next heq => exact of_answer hlisted heq
  next heq =>
    dsimp only
    split
    · exact of_answer hlisted heq
    · rw [h.detachAll, h.attachAll]
      exact of_answer hlisted heq

/-- A scope that is reconciled and read afterwards. -/
theorem reading (h : part.Spares rest) (b : TrafficBackend α τ) (host : Traced σ) (scope : CountedScope τ) :
    rest ((scope.reconcile (b.within part) host).2.1.readTally (b.within part)
      (scope.reconcile (b.within part) host).1).1.world = rest host.world := by
  have hread (host : Traced σ) (scope : CountedScope τ) :
      rest (scope.readTally (b.within part) host).1.world = rest host.world := h _ _
  rw [hread, h.reconcile]

theorem loadScopes (h : part.Spares rest) (b : TrafficBackend α τ) (host : Traced σ) (specs : List TrafficScope)
    (loaded : List (CountedScope τ)) (first : Option TrafficFault) :
    rest (Sampling.loadScopes (b.within part) host loaded first specs).1.world = rest host.world := by
  induction specs generalizing host loaded first with
  | nil => rfl
  | cons spec specs ih =>
    have hloaded : rest (host.performNoting
        (fun (result : Except TrafficFault τ) => .load spec.id result.toOption.isSome)
        ((b.within part).load spec)).1.world = rest host.world := h _ _
    unfold Sampling.loadScopes
    split
    next heq => exact of_answer hloaded heq
    next met table heq =>
      have hread := (h.reading b met (.fresh spec table)).trans (of_answer hloaded heq)
      dsimp only
      split
      next heq => exact of_answer hread heq
      next heq =>
        rw [ih]
        exact of_answer hread heq

theorem load (h : part.Spares rest) (b : TrafficBackend α τ) (host : Traced σ) (containers : List Container) :
    rest (Sampling.load (b.within part) host containers).1.world = rest host.world := by
  have hprepared : rest (host.perform .prepare (b.within part).prepare).1.world = rest host.world := h _ _
  unfold Sampling.load
  split
  next heq => exact of_answer hprepared heq
  next ready heq =>
    have hready := of_answer hprepared heq
    have hfound : rest (ready.perform (.discover containers.length) ((b.within part).discover containers)).1.world =
        rest ready.world := h _ _
    split
    next heq => exact (of_answer hfound heq).trans hready
    next found specs heq =>
      have hloaded := (h.loadScopes b found (Sampling.inOrder specs) [] none).trans
        ((of_answer hfound heq).trans hready)
      split
      next heq => exact of_answer hloaded heq
      next heq =>
        split
        · exact of_answer hloaded heq
        · split <;> exact of_answer hloaded heq

theorem visit (h : part.Spares rest) (b : TrafficBackend α τ) (host : Traced σ)
    (services : ServiceNames) (p : Sampling.Progress) (seen scopes : List (CountedScope τ)) :
    rest (Sampling.visit (b.within part) services host p seen scopes).1.world = rest host.world := by
  induction scopes generalizing host p seen with
  | nil => rfl
  | cons scope scopes ih =>
    have hread := h.reading b host scope
    unfold Sampling.visit
    dsimp only
    split
    next heq => exact of_answer hread heq
    next heq =>
      rw [ih]
      exact of_answer hread heq

theorem tick (h : part.Spares rest) (b : TrafficBackend α τ) (host : Traced σ)
    (services : ServiceNames) (window : String) (now : Instant) (scopes : List (CountedScope τ)) :
    rest (Sampling.tick (b.within part) services window now host scopes).1.world = rest host.world := by
  have hvisited := h.visit b host services ⟨.empty, none⟩ [] scopes
  unfold Sampling.tick
  split
  next heq => exact of_answer hvisited heq
  next heq =>
    split
    · split <;> exact of_answer hvisited heq
    · exact of_answer hvisited heq

theorem teardown (h : part.Spares rest) {t : Teardown τ} {now : Nat} {host host' : Traced σ}
    {left : Option (Teardown τ)}
    (hs : t.step (b.within part) now host = some (host', left)) : rest host'.world = rest host.world := by
  unfold Teardown.step at hs
  split at hs
  · cases hs
    exact h _ _
  next scope more _ =>
    split at hs
    · cases hs
      exact h.detachAll _ _
    · split at hs
      · cases hs
      · cases hs
        exact h _ _

theorem sampler (h : part.Spares rest) {hub hub' : Hub σ} {s s' : Sampler τ}
    (ht : Sampler.Turn (b.within part) hub s hub' s') : rest hub'.host.world = rest hub.host.world := by
  cases ht with
  | failed _ _ htick | sampled _ _ htick =>
    have hkept := h.tick b hub.host s.services s.interval.windowText hub.instant s.scopes
    rw [htick] at hkept
    exact hkept
  | unloaded _ hs | finished _ hs => exact h.teardown hs
  | cancelled | rested | sent | blocked | refused => rfl

variable {m : LinkMonitor α} {runtime : ContainerRuntime σ} {crew : Crew σ} {hub : Hub σ} {w w' : Watcher}

theorem letGo (h : part.Spares rest) (hub : Hub σ) (w : Watcher) :
    rest (hub.letGo (m.within part) w).host.world = rest hub.host.world := by
  unfold Hub.letGo
  split
  · exact h _ _
  · rfl

theorem listLinks (h : part.Spares rest) (crew : Crew σ) (w : Watcher) :
    rest (crew.listLinks (m.within part) w).1.host.world = rest crew.host.world := by
  unfold Crew.listLinks
  split
  · exact h _ _
  · rfl

theorem watcher (h : part.Spares rest) (hpath : ∀ id world, rest (runtime.namespacePath id world).1 = rest world)
    (ht : Crew.Turn runtime (m.within part) crew w hub w') : rest hub.host.world = rest crew.host.world := by
  cases ht with
  | cancelled | refused => exact h.letGo _ _
  | resolved _ heq => exact of_answer (hpath w.container.identity crew.host.world) heq
  | unresolved _ heq =>
    rw [h.letGo]
    exact of_answer (hpath w.container.identity crew.host.world) heq
  | opened _ heq => exact of_answer (h _ _) heq
  | unopened _ heq =>
    rw [h.letGo]
    exact of_answer (h _ _) heq
  | surveyed | unread | read => exact h.listLinks _ _
  | closed _ _ heq =>
    rw [h.letGo]
    exact of_answer (h _ _) heq
  | learned _ _ heq => exact of_answer (h _ _) heq
  | sent | blocked | released => rfl

end Part.Spares

end LabStream
