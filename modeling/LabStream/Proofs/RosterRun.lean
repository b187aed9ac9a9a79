import Mathlib.Data.List.Nodup
import LabStream.Proofs.WatcherTurns

namespace LabStream

variable {σ : Type} {runtime : ContainerRuntime σ} {monitor : LinkMonitor σ}

namespace Roster

variable {roster : Roster} {key other : String} {number : Nat}

/-- Whether a new watcher would be entered for a container. -/
def Admits (roster : Roster) (key : String) : Prop := key ≠ "" ∧ key ∉ roster.entries

theorem enter_admitted (h : roster.Admits key) : roster.enter key =
    (⟨roster.entries.insert key roster.nextNumber, roster.nextNumber + 1⟩, some roster.nextNumber) := by
  rw [enter, if_neg]
  simpa [String.isEmpty_iff, Admits] using h

theorem enter_refused (h : ¬ roster.Admits key) : roster.enter key = (roster, none) := by
  rw [enter, if_pos]
  simp only [Admits, ne_eq, Classical.not_and_iff_not_or_not, Decidable.not_not] at h
  simpa [String.isEmpty_iff] using h

theorem Admits.ne (h : roster.Admits key) (hother : roster.entries[other]? = some number) : key ≠ other := by
  rintro rfl
  exact h.2 (Std.ExtTreeMap.mem_iff_isSome_getElem?.mpr (by simp [hother]))

theorem getElem?_enter (h : roster.Admits key) (other : String) : (roster.enter key).1.entries[other]? =
    if key = other then some roster.nextNumber else roster.entries[other]? := by
  simp [enter_admitted h, Std.ExtTreeMap.getElem?_insert]

theorem getElem?_take (roster : Roster) (key other : String) :
    (roster.take key).1.entries[other]? = if key = other then none else roster.entries[other]? := by
  simp [take, Std.ExtTreeMap.getElem?_erase]

/-- A watcher takes out no entry but its own. -/
theorem getElem?_release (roster : Roster) (key other : String) (number : Nat) :
    (roster.release key number).entries[other]? =
      if key = other ∧ roster.entries[key]? = some number then none else roster.entries[other]? := by
  unfold release
  split
  next h => simp [Std.ExtTreeMap.getElem?_erase, h]
  next h => simp [h]

theorem nextNumber_release (roster : Roster) (key : String) (number : Nat) :
    (roster.release key number).nextNumber = roster.nextNumber := by
  unfold release
  split <;> rfl

theorem mem_drain (h : roster.entries[key]? = some number) : number ∈ roster.drain.2 :=
  List.mem_map.mpr ⟨(key, number), Std.ExtTreeMap.mem_toList_iff_getElem?_eq_some.mpr h, rfl⟩

end Roster

namespace Crew

variable {crew crew' : Crew σ} {w w' v : Watcher} {hub : Hub σ} {c : Container}

theorem start_admitted (h : crew.roster.Admits c.identity) : crew.start c =
    ({ crew with
        roster := (crew.roster.enter c.identity).1
        watchers := crew.watchers ++ [.fresh crew.roster.nextNumber c.identity c
          (crew.watcherToken crew.roster.nextNumber) crew.now] }, true) := by
  simp [start, Roster.enter_admitted h]

theorem start_refused (h : ¬ crew.roster.Admits c.identity) : crew.start c = (crew, false) := by
  simp [start, Roster.enter_refused h]

theorem start_iff : (crew.start c).2 = true ↔ crew.roster.Admits c.identity := by
  by_cases h : crew.roster.Admits c.identity
  · simp [start_admitted h, h]
  · simp [start_refused h, h]

theorem dismiss_snd (crew : Crew σ) (key : String) : (crew.dismiss key).2 = crew.roster.entries[key]? := by
  unfold dismiss Roster.take
  cases crew.roster.entries[key]? <;> rfl

theorem dismiss_roster (crew : Crew σ) (key : String) :
    (crew.dismiss key).1.roster = (crew.roster.take key).1 := by
  unfold dismiss Roster.take
  cases crew.roster.entries[key]? <;> rfl

theorem dismiss_watchers (crew : Crew σ) (key : String) : (crew.dismiss key).1.watchers = crew.watchers := by
  unfold dismiss Roster.take
  cases crew.roster.entries[key]? <;> rfl

theorem mem_of_watcher? {number : Nat} (h : crew.watcher? number = some w) :
    w ∈ crew.watchers ∧ w.number = number :=
  ⟨List.mem_of_find?_eq_some h, by simpa using List.find?_some h⟩

theorem Stepped.numbers (h : Stepped crew w hub w' crew') :
    crew'.watchers.map (·.number) = crew.watchers.map (·.number) := by
  rcases h.watchers with hset | ⟨-, hsame⟩
  · rw [hset, setWatcher, List.map_map]
    refine List.map_congr_left fun v _ => ?_
    dsimp only [Function.comp_apply]
    split
    next heq => exact heq.symm
    next => rfl
  · rw [hsame]

/-- A step of a watcher puts what it has become in its place. -/
theorem Stepped.mem_watchers (h : Stepped crew w hub w' crew') (hc : w.Continues w')
    (hu : (crew.watchers.map (·.number)).Nodup) (hw : w ∈ crew.watchers) :
    v ∈ crew'.watchers ↔ v = w' ∨ v ∈ crew.watchers ∧ v.number ≠ w.number := by
  rcases h.watchers with hset | ⟨rfl, hsame⟩
  · rw [hset, setWatcher, List.mem_map]
    constructor
    · rintro ⟨u, hu, rfl⟩
      split
      next => exact .inl rfl
      next hne => exact .inr ⟨hu, hc.number ▸ hne⟩
    · rintro (rfl | ⟨hv, hne⟩)
      · exact ⟨w, hw, if_pos hc.number.symm⟩
      · exact ⟨v, hv, if_neg (hc.number.symm ▸ hne)⟩
  · rw [hsame]
    constructor
    · intro hv
      by_cases heq : v.number = w'.number
      · exact .inl (List.inj_on_of_nodup_map hu hv hw heq)
      · exact .inr ⟨hv, heq⟩
    · rintro (rfl | ⟨hv, -⟩)
      · exact hw
      · exact hv

end Crew

/-- What is done to a crew in one go, with the numbers that are given out or taken away. -/
inductive CrewMove where
  | start (c : Container) (number : Option Nat)
  | stop (key : String) (number : Option Nat)
  | shutdown (numbers : List Nat)
  | watcher (number : Nat)
  | around

def CrewMove.given : CrewMove → List Nat
  | start _ number => number.toList
  | stop .. | shutdown _ | watcher _ | around => []

def CrewMove.taken : CrewMove → List Nat
  | stop _ number => number.toList
  | shutdown numbers => numbers
  | start .. | watcher _ | around => []

/-- One move of anybody. Around the roster and the watchers anything may change at any time, tokens too. -/
inductive CrewStep (runtime : ContainerRuntime σ) (monitor : LinkMonitor σ) (crew : Crew σ) :
    CrewMove → Crew σ → Prop where
  | start (c : Container) :
    CrewStep runtime monitor crew (.start c (crew.roster.enter c.identity).2) (crew.start c).1
  | stop (key : String) : CrewStep runtime monitor crew (.stop key (crew.dismiss key).2) (crew.dismiss key).1
  | shutdown : CrewStep runtime monitor crew (.shutdown crew.dismissAll.2) crew.dismissAll.1
  | watcher {w : Watcher} {crew' : Crew σ} : crew.watcher? w.number = some w →
    crew.stepWatcher runtime monitor w = some crew' → CrewStep runtime monitor crew (.watcher w.number) crew'
  | around (hub : Hub σ) : CrewStep runtime monitor crew .around { crew with toHub := hub }

/-- A crew after some moves, from the time when nobody had been started. -/
inductive CrewRun (runtime : ContainerRuntime σ) (monitor : LinkMonitor σ) :
    Crew σ → List CrewMove → Prop where
  | fresh {crew : Crew σ} : crew.roster = .empty → crew.watchers = [] → CrewRun runtime monitor crew []
  | move {crew crew' : Crew σ} {moves : List CrewMove} {move : CrewMove} : CrewRun runtime monitor crew moves →
    CrewStep runtime monitor crew move crew' → CrewRun runtime monitor crew' (moves ++ [move])

/-- Every watcher that has not completed is in the roster or was taken out of it, and none else is there. -/
structure Crew.Kept (crew : Crew σ) (moves : List CrewMove) : Prop where
  numbers : crew.watchers.map (·.number) = List.range crew.roster.nextNumber
  given : moves.flatMap CrewMove.given = List.range crew.roster.nextNumber
  entered {key : String} {n : Nat} : crew.roster.entries[key]? = some n →
    key ≠ "" ∧ ∃ w ∈ crew.watchers, w.number = n ∧ w.key = key ∧ w.phase ≠ .done
  accounted {w : Watcher} : w ∈ crew.watchers → w.phase = .done ∨
    crew.roster.entries[w.key]? = some w.number ∨ w.number ∈ moves.flatMap CrewMove.taken

namespace Crew.Kept

variable {crew crew' : Crew σ} {moves : List CrewMove} {w w' : Watcher} {hub : Hub σ}

theorem fresh (hr : crew.roster = .empty) (hw : crew.watchers = []) : crew.Kept [] where
  numbers := by simp [hr, hw, Roster.empty]
  given := by simp [hr, Roster.empty]
  entered h := by simp [hr, Roster.empty] at h
  accounted h := by simp [hw] at h

theorem nodup (h : crew.Kept moves) : (crew.watchers.map (·.number)).Nodup := h.numbers ▸ List.nodup_range

/-- Entries may go at any time, as long as their numbers are taken. -/
theorem taken {move : CrewMove} (h : crew.Kept moves) (hw : crew'.watchers = crew.watchers)
    (hn : crew'.roster.nextNumber = crew.roster.nextNumber) (hg : move.given = [])
    (he : ∀ key : String, crew'.roster.entries[key]? = crew.roster.entries[key]? ∨
      crew'.roster.entries[key]? = none ∧ ∀ n, crew.roster.entries[key]? = some n → n ∈ move.taken) :
    crew'.Kept (moves ++ [move]) where
  numbers := by rw [hw, hn, h.numbers]
  given := by simp [hg, hn, h.given]
  entered {key n} hk := by
    rw [hw]
    rcases he key with hsame | ⟨hnone, -⟩
    · exact h.entered (hsame ▸ hk)
    · cases hnone.symm.trans hk
  accounted {w} hmem := by
    rw [hw] at hmem
    simp only [List.flatMap_append, List.flatMap_singleton, List.mem_append]
    rcases h.accounted hmem with hdone | hentry | htaken
    · exact .inl hdone
    · rcases he w.key with hsame | ⟨-, hgone⟩
      · exact .inr (.inl (hsame.trans hentry))
      · exact .inr (.inr (.inr (hgone _ hentry)))
    · exact .inr (.inr (.inl htaken))

theorem start (h : crew.Kept moves) (c : Container) :
    (crew.start c).1.Kept (moves ++ [.start c (crew.roster.enter c.identity).2]) := by
  by_cases ha : crew.roster.Admits c.identity
  · rw [start_admitted ha]
    have hnext : (crew.roster.enter c.identity).1.nextNumber = crew.roster.nextNumber + 1 := by
      rw [Roster.enter_admitted ha]
    refine ⟨?_, ?_, fun {key n} hk => ?_, fun {w} hw => ?_⟩
    · simp [hnext, h.numbers, List.range_succ, Watcher.fresh]
    · simp [CrewMove.given, Roster.enter_admitted ha, h.given, List.range_succ]
    · rw [Roster.getElem?_enter ha] at hk
      split at hk
      next heq =>
        cases hk
        exact ⟨heq ▸ ha.1, _, List.mem_append_right _ (List.mem_singleton_self _), rfl, heq, nofun⟩
      next =>
        obtain ⟨hne, w, hw, hentered⟩ := h.entered hk
        exact ⟨hne, w, List.mem_append_left _ hw, hentered⟩
    · simp only [List.flatMap_append, List.mem_append, Roster.getElem?_enter ha]
      rcases List.mem_append.mp hw with hold | hnew
      · rcases h.accounted hold with hdone | hkept | htaken
        · exact .inl hdone
        · exact .inr (.inl (by rw [if_neg (ha.ne hkept), hkept]))
        · exact .inr (.inr (.inl htaken))
      · obtain rfl := List.mem_singleton.mp hnew
        exact .inr (.inl (if_pos rfl))
  · rw [start_refused ha, Roster.enter_refused ha]
    exact h.taken rfl rfl rfl fun _ => .inl rfl

theorem stop (h : crew.Kept moves) (key : String) :
    (crew.dismiss key).1.Kept (moves ++ [.stop key (crew.dismiss key).2]) := by
  refine h.taken (dismiss_watchers crew key) (by rw [dismiss_roster]; rfl) rfl fun other => ?_
  rw [dismiss_roster, dismiss_snd, Roster.getElem?_take]
  split
  next heq => exact .inr ⟨rfl, fun n hn => by simp [CrewMove.taken, heq, hn]⟩
  next => exact .inl rfl

theorem shutdown (h : crew.Kept moves) : crew.dismissAll.1.Kept (moves ++ [.shutdown crew.dismissAll.2]) :=
  h.taken rfl rfl rfl fun _ => .inr ⟨Std.ExtTreeMap.getElem?_empty, fun _ hn => Roster.mem_drain hn⟩

theorem around (h : crew.Kept moves) (hub : Hub σ) : Kept { crew with toHub := hub } (moves ++ [.around]) :=
  h.taken rfl rfl rfl fun _ => .inl rfl

theorem watcher (h : crew.Kept moves) (hw : w ∈ crew.watchers) (ht : Turn runtime monitor crew w hub w')
    (hs : Stepped crew w hub w' crew') : crew'.Kept (moves ++ [.watcher w.number]) := by
  have hc := ht.continues
  obtain ⟨hlive, hcompletes⟩ := ht.completes
  have hmem {v} := hs.mem_watchers hc h.nodup hw (v := v)
  have hnext : crew'.roster.nextNumber = crew.roster.nextNumber := by
    rw [hs.roster]
    split
    · rw [Roster.nextNumber_release]
    · rfl
  have hentry (key : String) : crew'.roster.entries[key]? =
      if w.isLeaving ∧ w.key = key ∧ crew.roster.entries[w.key]? = some w.number then none
      else crew.roster.entries[key]? := by
    rw [hs.roster]
    cases hl : w.isLeaving <;> simp [Roster.getElem?_release]
  refine ⟨by rw [hs.numbers, hnext, h.numbers], by simp [CrewMove.given, hnext, h.given], ?_, ?_⟩
  · intro key n hk
    rw [hentry] at hk
    split at hk
    next => cases hk
    next hstays =>
      obtain ⟨hne, v, hv, rfl, rfl, hlivev⟩ := h.entered hk
      by_cases heq : v.number = w.number
      · obtain rfl := List.inj_on_of_nodup_map h.nodup hv hw heq
        exact ⟨hne, w', hmem.mpr (.inl rfl), hc.number, hc.key,
          fun hdone => hstays ⟨hcompletes.mp hdone, rfl, hk⟩⟩
      · exact ⟨hne, v, hmem.mpr (.inr ⟨hv, heq⟩), rfl, rfl, hlivev⟩
  · intro v hv
    simp only [List.flatMap_append, List.mem_append, hentry]
    rcases hmem.mp hv with rfl | ⟨hv, hne⟩
    · rw [hc.key, hc.number]
      cases hl : w.isLeaving with
      | true => exact .inl (hcompletes.mpr hl)
      | false =>
        rcases h.accounted hw with hdone | hkept | htaken
        · exact absurd hdone hlive
        · exact .inr (.inl (by simpa using hkept))
        · exact .inr (.inr (.inl htaken))
    · rcases h.accounted hv with hdone | hkept | htaken
      · exact .inl hdone
      · refine .inr (.inl ?_)
        rw [if_neg, hkept]
        rintro ⟨-, hkey, hown⟩
        rw [← hkey, hown] at hkept
        exact hne (Option.some.inj hkept).symm
      · exact .inr (.inr (.inl htaken))

theorem step {move : CrewMove} (h : crew.Kept moves) (hstep : CrewStep runtime monitor crew move crew') :
    crew'.Kept (moves ++ [move]) := by
  cases hstep with
  | start c => exact h.start c
  | stop key => exact h.stop key
  | shutdown => exact h.shutdown
  | watcher hw hs =>
    obtain ⟨_, _, hturn, hstepped⟩ := stepWatcher_turn hs
    exact h.watcher (mem_of_watcher? hw).1 hturn hstepped
  | around hub => exact h.around hub

end Crew.Kept

theorem CrewRun.kept {crew : Crew σ} {moves : List CrewMove} (run : CrewRun runtime monitor crew moves) :
    crew.Kept moves := by
  induction run with
  | fresh hr hw => exact .fresh hr hw
  | move _ hstep ih => exact ih.step hstep

end LabStream
