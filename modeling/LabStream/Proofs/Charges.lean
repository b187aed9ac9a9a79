import Mathlib.Logic.Function.Basic
import LabStream.Proofs.Heed
import LabStream.Proofs.Outline
import LabStream.Proofs.StreamPlay

namespace LabStream

variable {σ : Type} {runtime : ContainerRuntime σ} {monitor : LinkMonitor σ}

/-- The watcher in charge of each container, as it can be told from outside. -/
abbrev Charges := String → Option Watcher

namespace Charges

/-- A watcher begins unless its container is hidden, has no name or has one already. -/
def enter (hidden : String → Bool) (charges : Charges) (c : Container) : Charges :=
  if hidden c.identity ∨ c.identity = "" ∨ (charges c.identity).isSome then charges
  else Function.update charges c.identity (some (.fresh 0 c.identity c [] 0))

def obey (hidden : String → Bool) (labLabel : String) (charges : Charges) (e : RuntimeEvent) : Charges :=
  match Crew.orderOf labLabel e with
  | none => charges
  | some (.begin c) => charges.enter hidden c
  | some (.stop key) => Function.update charges key none

end Charges

namespace Crew

variable {crew crew' : Crew σ} {w w' : Watcher} {hub : Hub σ} {moves : List CrewMove} {hidden : String → Bool}

/-- Who is in charge of the containers that are not hidden. -/
def charges (hidden : String → Bool) (crew : Crew σ) : Charges := fun key =>
  if hidden key then none else (crew.roster.entries[key]?.bind crew.watcher?).map Watcher.outline

theorem charges_eq_at {key : String} (hentry : crew'.roster.entries[key]? = crew.roster.entries[key]?)
    (hwatcher : ∀ n, crew.roster.entries[key]? = some n → crew'.watcher? n = crew.watcher? n) :
    crew'.charges hidden key = crew.charges hidden key := by
  rw [charges, charges, hentry]
  cases h : crew.roster.entries[key]? with
  | none => rfl
  | some n => rw [Option.bind_some, Option.bind_some, hwatcher n h]

theorem Kept.number_lt (kept : crew.Kept moves) (hw : w ∈ crew.watchers) : w.number < crew.roster.nextNumber := by
  have hmem : w.number ∈ crew.watchers.map (·.number) := List.mem_map_of_mem hw
  rwa [kept.numbers, List.mem_range] at hmem

theorem Kept.watcher?_of_entered (kept : crew.Kept moves) {key : String} {n : Nat}
    (h : crew.roster.entries[key]? = some n) : ∃ w, crew.watcher? n = some w ∧ w.key = key ∧ w.number = n := by
  obtain ⟨-, w, hw, rfl, hkey, -⟩ := kept.entered h
  exact ⟨w, watcher?_of_mem kept.nodup hw, hkey, rfl⟩

/-- A watcher is entered under its own key only. -/
theorem Kept.key_of_entered (kept : crew.Kept moves) (hw : w ∈ crew.watchers) {key : String}
    (h : crew.roster.entries[key]? = some w.number) : key = w.key := by
  obtain ⟨-, v, hv, hnumber, hkey, -⟩ := kept.entered h
  rw [← hkey, List.inj_on_of_nodup_map kept.nodup hv hw hnumber]

theorem Kept.charges_isSome (kept : crew.Kept moves) {key : String} (hshown : hidden key = false) :
    (crew.charges hidden key).isSome ↔ key ∈ crew.roster.entries := by
  rw [charges, hshown, Std.ExtTreeMap.mem_iff_isSome_getElem?]
  cases hentry : crew.roster.entries[key]? with
  | none => simp
  | some n =>
    obtain ⟨w, hw, -⟩ := kept.watcher?_of_entered hentry
    simp [hw]

theorem charges_start (kept : crew.Kept moves) (c : Container) :
    (crew.start c).1.charges hidden = (crew.charges hidden).enter hidden c := by
  by_cases ha : crew.roster.Admits c.identity
  · have hold {n : Nat} {w : Watcher} (hw : crew.watcher? n = some w) :
        (crew.start c).1.watcher? n = some w := by
      rw [start_admitted ha, watcher?, List.find?_append]
      unfold watcher? at hw
      rw [hw]
      rfl
    have hnew : (crew.start c).1.watcher? crew.roster.nextNumber = some (.fresh crew.roster.nextNumber
        c.identity c (crew.watcherToken crew.roster.nextNumber) crew.now) := by
      have hnone : crew.watchers.find? (fun w => decide (w.number = crew.roster.nextNumber)) = none := by
        refine List.find?_eq_none.mpr fun w hw => ?_
        have hlt := kept.number_lt hw
        simpa using Nat.ne_of_lt hlt
      rw [start_admitted ha, watcher?, List.find?_append, hnone]
      simp [Watcher.fresh]
    have hentry (key : String) : (crew.start c).1.roster.entries[key]? =
        if c.identity = key then some crew.roster.nextNumber else crew.roster.entries[key]? := by
      rw [start_admitted ha, Roster.getElem?_enter ha]
    funext key
    by_cases hkey : c.identity = key
    · subst hkey
      cases hh : hidden c.identity with
      | true => simp [charges, Charges.enter, hh]
      | false =>
        have hfree : ¬(crew.charges hidden c.identity).isSome := fun h => ha.2 ((kept.charges_isSome hh).mp h)
        have hnot : ¬(hidden c.identity ∨ c.identity = "" ∨ (crew.charges hidden c.identity).isSome) := by
          rintro (h | h | h)
          · rw [hh] at h
            cases h
          · exact ha.1 h
          · exact hfree h
        rw [Charges.enter, if_neg hnot, Function.update_self, charges, hh, hentry, if_pos rfl, Option.bind_some, hnew]
        rfl
    · have hsame : (crew.charges hidden).enter hidden c key = crew.charges hidden key := by
        unfold Charges.enter
        split
        · rfl
        · exact Function.update_of_ne (Ne.symm hkey) _ _
      rw [hsame]
      refine charges_eq_at ?_ fun n hn => ?_
      · rw [hentry, if_neg hkey]
      · obtain ⟨w, hw, -⟩ := kept.watcher?_of_entered hn
        rw [hw, hold hw]
  · rw [start_refused ha, Charges.enter, if_pos]
    cases hh : hidden c.identity with
    | true => exact .inl rfl
    | false =>
      rw [kept.charges_isSome hh]
      by_cases hempty : c.identity = ""
      · exact .inr (.inl hempty)
      · exact .inr (.inr (by simpa [Roster.Admits, hempty] using ha))

theorem charges_starts (kept : crew.Kept moves) (containers : List Container) :
    (containers.foldl (fun crew c => (crew.start c).1) crew).charges hidden =
      containers.foldl (Charges.enter hidden) (crew.charges hidden) := by
  induction containers generalizing crew moves with
  | nil => rfl
  | cons c containers ih => rw [List.foldl_cons, List.foldl_cons, ih (kept.start c), charges_start kept]

theorem charges_dismiss (crew : Crew σ) (key : String) :
    (crew.dismiss key).1.charges hidden = Function.update (crew.charges hidden) key none := by
  have hentry (other : String) : (crew.dismiss key).1.roster.entries[other]? =
      if key = other then none else crew.roster.entries[other]? := by
    rw [dismiss_roster, Roster.getElem?_take]
  funext other
  by_cases hkey : key = other
  · subst hkey
    rw [charges, hentry, Function.update_self]
    simp
  · rw [Function.update_of_ne (Ne.symm hkey)]
    refine charges_eq_at ?_ fun n _ => ?_
    · rw [hentry, if_neg hkey]
    · rw [watcher?, watcher?, dismiss_watchers]

theorem charges_obey (kept : crew.Kept moves) (e : RuntimeEvent) :
    (crew.obey e).1.charges hidden = (crew.charges hidden).obey hidden crew.options.labLabel e := by
  unfold obey Charges.obey
  rcases orderOf crew.options.labLabel e with _ | c | key
  · rfl
  · exact charges_start kept c
  · exact crew.charges_dismiss key

theorem watcher?_setWatcher_ne {n : Nat} (hn : n ≠ w'.number) :
    (crew.setWatcher w').watcher? n = crew.watcher? n := by
  have hp : ((fun v : Watcher => decide (v.number = n)) ∘ fun v => if v.number = w'.number then w' else v) =
      fun v => decide (v.number = n) := by
    funext v
    by_cases h : v.number = w'.number
    · simp [h]
    · simp [h]
  rw [watcher?, setWatcher, List.find?_map, hp, watcher?]
  cases hfound : crew.watchers.find? fun v => decide (v.number = n) with
  | none => rfl
  | some v =>
    have hv : v.number = n := by simpa using List.find?_some hfound
    rw [Option.map_some, if_neg (hv ▸ hn)]

theorem Stepped.watcher?_ne (h : Stepped crew w hub w' crew') (hcont : w.Continues w') {n : Nat} (hn : n ≠ w.number) :
    crew'.watcher? n = crew.watcher? n := by
  rcases h.watchers with hset | ⟨-, hsame⟩
  · rw [Crew.watcher?, hset]
    exact watcher?_setWatcher_ne (hcont.number ▸ hn)
  · rw [Crew.watcher?, hsame, Crew.watcher?]

theorem Stepped.entry (h : Stepped crew w hub w' crew') (key : String) : crew'.roster.entries[key]? =
    if w.isLeaving ∧ w.key = key ∧ crew.roster.entries[w.key]? = some w.number then none
    else crew.roster.entries[key]? := by
  rw [h.roster]
  cases w.isLeaving <;> simp [Roster.getElem?_release]

/-- A watcher of a hidden container, or one that is not in charge any more, steps unseen. -/
theorem Stepped.charges_unseen (h : Stepped crew w hub w' crew') (hcont : w.Continues w') (kept : crew.Kept moves)
    (hw : w ∈ crew.watchers) (hunseen : hidden w.key ∨ crew.roster.entries[w.key]? ≠ some w.number) :
    crew'.charges hidden = crew.charges hidden := by
  funext key
  cases hh : hidden key with
  | true => simp [charges, hh]
  | false =>
    have hother : crew.roster.entries[key]? ≠ some w.number := by
      intro hentry
      have hkey := kept.key_of_entered hw hentry
      rcases hunseen with hhidden | hout
      · rw [← hkey, hh] at hhidden
        cases hhidden
      · exact hout (hkey ▸ hentry)
    refine charges_eq_at ?_ fun n hn => h.watcher?_ne hcont fun heq => hother (heq ▸ hn)
    rw [h.entry, if_neg]
    rintro ⟨-, rfl, hentry⟩
    exact hother hentry

theorem Stepped.charges_seen (h : Stepped crew w hub w' crew') (hcont : w.Continues w') (kept : crew.Kept moves)
    (hw : w ∈ crew.watchers) (hshown : hidden w.key = false) (hcharge : crew.roster.entries[w.key]? = some w.number) :
    crew'.charges hidden =
      Function.update (crew.charges hidden) w.key (if w.isLeaving then none else some w'.outline) := by
  funext key
  by_cases hkey : key = w.key
  · subst hkey
    rw [charges, h.entry, hshown, Function.update_self]
    cases hl : w.isLeaving with
    | true => simp [hcharge]
    | false => simp [hcharge, h.watcher? hcont (watcher?_of_mem kept.nodup hw)]
  · rw [Function.update_of_ne hkey]
    refine charges_eq_at ?_ fun n hn => h.watcher?_ne hcont fun heq => hkey (kept.key_of_entered hw (heq ▸ hn))
    rw [h.entry, if_neg]
    rintro ⟨-, heq, -⟩
    exact hkey heq.symm

theorem charges_own (kept : crew.Kept moves) (hw : w ∈ crew.watchers) (hshown : hidden w.key = false)
    (hcharge : crew.roster.entries[w.key]? = some w.number) : crew.charges hidden w.key = some w.outline := by
  simp [charges, hshown, hcharge, watcher?_of_mem kept.nodup hw]

end Crew

end LabStream
