import LabStream.Proofs.LinkMirror
import LabStream.Proofs.Lists
import LabStream.Proofs.WatcherHistory

namespace LabStream

variable {σ : Type} {runtime : ContainerRuntime σ} {monitor : LinkMonitor σ}

namespace WatchMove

/-- Whether the counters of an interface are read in a move. -/
def Reads (index : Nat) (counters : LinkCounters) (time : Nat) : WatchMove → Prop
  | surveyed links now | took links now =>
    now = time ∧ ∃ link ∈ links, link.snapshot.index = index ∧ link.counters = some counters
  | learned (.upsert link) now => now = time ∧ link.snapshot.index = index ∧ link.counters = some counters
  | learned (.removed _) _ | sent _ => False

def Updates (index : Nat) : WatchMove → Prop
  | learned update _ => update.index = index
  | surveyed .. | took .. | sent _ => False

instance (index : Nat) (m : WatchMove) : Decidable (m.Updates index) :=
  match m with
  | learned update _ => inferInstanceAs (Decidable (update.index = index))
  | surveyed .. | took .. | sent _ => isFalse id

end WatchMove

/-- Counters of an interface that were read, and that no update of it has made out of date. -/
def Current (moves : List WatchMove) (index : Nat) (counters : LinkCounters) (time : Nat) : Prop :=
  ∃ early m late, moves = early ++ m :: late ∧ m.Reads index counters time ∧
    ∀ later ∈ late, ¬ later.Updates index

namespace Current

variable {moves new : List WatchMove} {index time : Nat} {counters : LinkCounters}

theorem append (h : Current moves index counters time) (hnew : ∀ m ∈ new, ¬ m.Updates index) :
    Current (moves ++ new) index counters time := by
  obtain ⟨early, m, late, rfl, hm, hlate⟩ := h
  exact ⟨early, m, late ++ new, by simp, hm, List.forall_mem_append.mpr ⟨hlate, hnew⟩⟩

theorem last (moves : List WatchMove) {m : WatchMove} (h : m.Reads index counters time) :
    Current (moves ++ [m]) index counters time :=
  ⟨moves, m, [], rfl, h, by simp⟩

end Current

/-- Counters that are current after an update of their interface were read in that update or later. -/
theorem Current.since {moves before after : List WatchMove} {x : WatchMove} {index time : Nat}
    {counters : LinkCounters} (h : Current moves index counters time) (hs : moves = before ++ x :: after)
    (hx : x.Updates index) : ∃ m ∈ x :: after, m.Reads index counters time := by
  obtain ⟨early, m, late, rfl, hm, hlate⟩ := h
  rcases append_eq_append_cons hs with ⟨mid, -, rfl⟩ | ⟨mid, -, hmid⟩
  · exact ⟨m, by simp, hm⟩
  · cases mid with
    | nil => exact ⟨m, by simp [(List.cons.inj hmid).1], hm⟩
    | cons _ mid =>
      obtain ⟨-, rfl⟩ := List.cons.inj hmid
      exact absurd hx (hlate x (List.mem_append_right mid List.mem_cons_self))

theorem LinkReadings.getElem?_rebase (readings : LinkReadings) (index : Nat) (counters : Option LinkCounters)
    (now other : Nat) : (readings.rebase index counters now)[other]? =
      if index = other then counters.map (·, now) else readings[other]? := by
  cases counters with
  | none => simp [rebase, Std.ExtTreeMap.getElem?_erase]
  | some c => simp [rebase, Std.ExtTreeMap.getElem?_insert]

theorem LinkReadings.observe_metrics {readings : LinkReadings} {index now : Nat} {current : LinkCounters}
    {m : LinkMetrics} (h : (readings.observe index current now).2 = some m) : ∃ previous time,
      readings[index]? = some (previous, time) ∧ time < now ∧ m = .between previous current ⟨now - time⟩ := by
  simp only [observe] at h
  split at h
  next previous time hr =>
    split at h
    next hlt => exact ⟨previous, time, hr, hlt, (Option.some.inj h).symm⟩
    next => cases h
  next => cases h

/-- The counters that an update brings. -/
def LinkUpdate.counters : LinkUpdate → Option LinkCounters
  | upsert link => link.counters
  | removed _ => none

theorem Watcher.getElem?_learn (w : Watcher) (update : LinkUpdate) (now other : Nat) :
    (w.learn update now).1.readings[other]? =
      if update.index = other then update.counters.map (·, now) else w.readings[other]? := by
  cases update with
  | upsert link => exact w.readings.getElem?_rebase _ _ _ _
  | removed link => exact w.readings.getElem?_rebase _ none now _

/-- The books of a watcher after its moves: a baseline is only there for an interface of the table, and it
is current; and the table has what the last update of an interface left of it. -/
structure Books (moves : List WatchMove) (table : LinkTable) (readings : LinkReadings) : Prop where
  within : ∀ index ∈ readings, index ∈ table
  current {index : Nat} {counters : LinkCounters} {time : Nat} :
    readings[index]? = some (counters, time) → Current moves index counters time
  settled {early late : List WatchMove} {update : LinkUpdate} {now : Nat} :
    moves = early ++ .learned update now :: late → (∀ m ∈ late, ¬ m.Updates update.index) →
    table[update.index]? = update.outcome

namespace Books

variable {moves new : List WatchMove} {table : LinkTable} {readings : LinkReadings}

theorem empty : Books [] ∅ ∅ := ⟨by simp, by simp, by simp⟩

/-- Moves that update nothing leave the books as they are. -/
theorem append (h : Books moves table readings) (hnew : ∀ m ∈ new, ∀ index, ¬ m.Updates index) :
    Books (moves ++ new) table readings where
  within := h.within
  current hr := (h.current hr).append fun m hm => hnew m hm _
  settled heq hlate := by
    rcases append_eq_append_cons heq with ⟨mid, hmoves, rfl⟩ | ⟨mid, -, rfl⟩
    · exact h.settled hmoves fun m hm => hlate m (List.mem_append_left new hm)
    · exact absurd rfl (hnew _ (List.mem_append_right mid List.mem_cons_self) _)

theorem learn {w : Watcher} (h : Books moves w.table w.readings) (update : LinkUpdate) (now : Nat) :
    Books (moves ++ [.learned update now]) (w.learn update now).1.table (w.learn update now).1.readings where
  within index hi := by
    rw [Std.ExtTreeMap.mem_iff_isSome_getElem?, Watcher.getElem?_learn] at hi
    change index ∈ (w.table.apply update).1
    rw [Std.ExtTreeMap.mem_iff_isSome_getElem?, LinkTable.getElem?_apply]
    split_ifs at hi ⊢
    · cases update with
      | upsert => rfl
      | removed => exact hi
    · exact Std.ExtTreeMap.mem_iff_isSome_getElem?.mp (h.within _ (Std.ExtTreeMap.mem_iff_isSome_getElem?.mpr hi))
  current {index counters time} hr := by
    rw [Watcher.getElem?_learn] at hr
    split_ifs at hr with heq
    · refine .last moves ?_
      cases update with
      | upsert link =>
        obtain ⟨_, hc, hpair⟩ := Option.map_eq_some_iff.mp hr
        obtain ⟨rfl, rfl⟩ := Prod.mk.inj hpair
        exact ⟨rfl, heq, hc⟩
      | removed => cases hr
    · exact (h.current hr).append (List.forall_mem_singleton.mpr heq)
  settled {early late update' now'} heq hlate := by
    change (w.table.apply update).1[update'.index]? = update'.outcome
    rw [LinkTable.getElem?_apply]
    rcases append_eq_append_cons heq with ⟨mid, hmoves, rfl⟩ | ⟨mid, -, hlast⟩
    · have hne : update.index ≠ update'.index := hlate (.learned update now) (by simp)
      rw [if_neg hne]
      exact h.settled hmoves fun m hm => hlate m (List.mem_append_left _ hm)
    · obtain ⟨rfl, rfl, rfl⟩ : update = update' ∧ mid = [] ∧ late = [] := by
        cases mid <;> simp_all
      exact if_pos rfl

theorem getElem?_survey {w : Watcher} {inventory : List Link} {now index time : Nat} {counters : LinkCounters}
    (h : (w.survey inventory now).readings[index]? = some (counters, time)) :
    (WatchMove.surveyed inventory now).Reads index counters time := by
  change (inventory.foldl (fun (readings : LinkReadings) link =>
    readings.rebase link.snapshot.index link.counters now) ∅)[index]? = _ at h
  induction inventory using List.reverseRecOn with
  | nil => simp at h
  | append_singleton inventory link ih =>
    rw [List.foldl_append, List.foldl_cons, List.foldl_nil, LinkReadings.getElem?_rebase] at h
    split_ifs at h with heq
    · obtain ⟨_, hc, hpair⟩ := Option.map_eq_some_iff.mp h
      obtain ⟨rfl, rfl⟩ := Prod.mk.inj hpair
      exact ⟨rfl, link, by simp, heq, hc⟩
    · obtain ⟨hnow, other, ho, hread⟩ := ih h
      exact ⟨hnow, other, List.mem_append_left _ ho, hread⟩

theorem survey (w : Watcher) (inventory : List Link) (now : Nat) :
    Books [.surveyed inventory now] (w.survey inventory now).table (w.survey inventory now).readings where
  within index hi := by
    obtain ⟨⟨counters, time⟩, hr⟩ := Option.isSome_iff_exists.mp (Std.ExtTreeMap.mem_iff_isSome_getElem?.mp hi)
    obtain ⟨-, link, hlink, rfl, -⟩ := getElem?_survey hr
    change _ ∈ LinkTable.seed (inventory.map (·.snapshot))
    rw [Std.ExtTreeMap.mem_iff_isSome_getElem?, LinkTable.getElem?_seed, LinkTable.lastOf, List.getLast?_isSome]
    exact List.ne_nil_of_mem (List.mem_filter.mpr ⟨List.mem_map.mpr ⟨link, hlink, rfl⟩, by simp⟩)
  current hr := .last [] (getElem?_survey hr)
  settled {early late update now'} heq _ := by cases early <;> simp at heq

end Books

/-- What is told of rates rests on a current baseline of an interface of the table. -/
def LinkReport.Grounded (moves : List WatchMove) (table : LinkTable) : LinkReport → Prop
  | metrics s m => s.index ∈ table ∧ ∃ previous current time now, time < now ∧
      m = .between previous current ⟨now - time⟩ ∧ Current moves s.index previous time
  | snapshot _ | change .. => True

theorem LinkReport.Grounded.append {moves new : List WatchMove} {table : LinkTable} {r : LinkReport}
    (h : r.Grounded moves table) (hnew : ∀ m ∈ new, ∀ index, ¬ m.Updates index) :
    r.Grounded (moves ++ new) table := by
  cases r with
  | snapshot | change => exact trivial
  | metrics s m =>
    obtain ⟨hs, previous, current, time, now, hlt, hm, hc⟩ := h
    exact ⟨hs, previous, current, time, now, hlt, hm, hc.append fun m hm => hnew m hm s.index⟩

namespace Watcher

variable {moves : List WatchMove} {table : LinkTable} {readings : LinkReadings}

/-- A pass over a listing: the baselines are old ones or those of this listing, and what is told rests on
old ones. -/
structure Pass (table : LinkTable) (readings : LinkReadings) (links : List Link) (now : Nat)
    (state : LinkReadings × List LinkReport) : Prop where
  within : ∀ index ∈ state.1, index ∈ table
  baselines {index : Nat} {counters : LinkCounters} {time : Nat} : state.1[index]? = some (counters, time) →
    readings[index]? = some (counters, time) ∨ (WatchMove.took links now).Reads index counters time
  told : ∀ r ∈ state.2, ∃ s previous current time, r = .metrics s (.between previous current ⟨now - time⟩) ∧
    s.index ∈ table ∧ time < now ∧ readings[s.index]? = some (previous, time)

theorem Pass.readLink {links : List Link} {now : Nat} {state : LinkReadings × List LinkReport}
    (h : Pass table readings links now state) (link : Link) :
    Pass table readings (links ++ [link]) now (readLink table now state link) := by
  have hold {index : Nat} {counters : LinkCounters} {time : Nat} (hr : state.1[index]? = some (counters, time)) :
      readings[index]? = some (counters, time) ∨ (WatchMove.took (links ++ [link]) now).Reads index counters time :=
    (h.baselines hr).imp_right fun ⟨hnow, other, ho, hread⟩ => ⟨hnow, other, List.mem_append_left _ ho, hread⟩
  unfold Watcher.readLink
  dsimp only
  split
  next => exact ⟨h.within, hold, h.told⟩
  next hin =>
    have hin : link.snapshot.index ∈ table := by simpa using hin
    split
    next =>
      refine ⟨fun index hi => h.within index (Std.ExtTreeMap.mem_of_mem_erase hi), fun hr => hold ?_, h.told⟩
      rw [Std.ExtTreeMap.getElem?_erase] at hr
      split_ifs at hr
      exact hr
    next counters hc =>
      refine ⟨fun index hi => ?_, fun {index _ _} hr => ?_, List.forall_mem_append.mpr ⟨h.told, fun r hr => ?_⟩⟩
      · rcases Std.ExtTreeMap.mem_insert.mp hi with heq | hi
        · rwa [← Std.LawfulEqCmp.compare_eq_iff_eq.mp heq]
        · exact h.within index hi
      · simp only [LinkReadings.observe, Std.ExtTreeMap.getElem?_insert, Std.LawfulEqCmp.compare_eq_iff_eq] at hr
        split_ifs at hr with heq
        · obtain ⟨rfl, rfl⟩ := Prod.mk.inj (Option.some.inj hr)
          exact .inr ⟨rfl, link, by simp, heq, hc⟩
        · exact hold hr
      · obtain ⟨m, hm, rfl⟩ := Option.map_eq_some_iff.mp (Option.mem_toList.mp hr)
        obtain ⟨previous, time, hbase, hlt, rfl⟩ := LinkReadings.observe_metrics hm
        refine ⟨link.snapshot, previous, counters, time, rfl, hin, hlt, (h.baselines hbase).resolve_right ?_⟩
        -- A baseline of this very listing would give no time that has passed.
        rintro ⟨rfl, -⟩
        exact Nat.lt_irrefl _ hlt

theorem Pass.readAll (w : Watcher) (h : ∀ index ∈ w.readings, index ∈ w.table) (links : List Link) (now : Nat) :
    Pass w.table w.readings links now (links.foldl (Watcher.readLink w.table now) (w.readings, [])) := by
  induction links using List.reverseRecOn with
  | nil => exact ⟨h, fun hr => .inl hr, by simp⟩
  | append_singleton links link ih =>
    rw [List.foldl_append]
    exact ih.readLink link

/-- What holds of a watcher, for what it has done since it was new. -/
structure Kept (label : String) (c : Container) (moves : List WatchMove) (w : Watcher) : Prop where
  container : w.container = c
  books : Books moves w.table w.readings
  pending {event : Event} {rest : List LinkReport} {begins : Bool} : w.phase = .sending event rest begins →
    (∃ r instant, event = LinkReport.event c label instant r ∧ r.Grounded moves w.table) ∧
      ∀ r ∈ rest, r.Grounded moves w.table
  begun : w.isNew → moves = []

namespace Kept

variable {w w' : Watcher} {label : String} {c : Container} {moves new : List WatchMove}

theorem report {w : Watcher} {options : WatchOptions} {reports : List LinkReport} (hc : w.container = c)
    (hb : Books moves w.table w.readings) (hr : ∀ r ∈ reports, r.Grounded moves w.table) (begins : Bool) (now : Nat)
    (instant : Instant) : Kept options.labLabel c moves (w.report options reports begins now instant) := by
  cases reports with
  | nil => cases begins <;> exact ⟨hc, hb, nofun, nofun⟩
  | cons r rest =>
    obtain ⟨hfirst, hrest⟩ := List.forall_mem_cons.mp hr
    refine ⟨hc, hb, fun {event rest' begins'} hp => ?_, nofun⟩
    obtain ⟨rfl, rfl, rfl⟩ := WatchPhase.sending.inj hp
    exact ⟨⟨r, instant, by rw [hc], hfirst⟩, hrest⟩

/-- Every move of a watcher keeps its books. -/
theorem moved {crew : Crew σ} {hub : Hub σ} (h : Kept crew.options.labLabel c moves w)
    (hm : Crew.Moved runtime monitor crew w hub w' new) : Kept crew.options.labLabel c (moves ++ new) w' := by
  cases hm with
  | @surveyed inventory hp =>
    obtain rfl : moves = [] := h.begun (by simp [isNew, hp])
    refine report (w := w.survey inventory crew.now) h.container (.survey w inventory crew.now) (fun r hr => ?_) _ _ _
    obtain ⟨s, -, rfl⟩ : ∃ s ∈ (w.survey inventory crew.now).table.snapshots, .snapshot s = r := by
      unfold opening at hr
      split at hr
      · exact List.mem_map.mp hr
      · cases hr
    exact trivial
  | @learned _ _ _ update hp =>
    refine report (w := (w.learn update crew.now).1) h.container (h.books.learn update crew.now)
      (fun r hr => ?_) _ _ _
    obtain ⟨_, -, rfl⟩ := Option.map_eq_some_iff.mp (Option.mem_toList.mp hr)
    exact trivial
  | @took links hp =>
    have hpass := Pass.readAll (w.ticked crew.now) h.books.within links crew.now
    have hquiet : ∀ m ∈ [WatchMove.took links crew.now], ∀ index, ¬ m.Updates index :=
      List.forall_mem_singleton.mpr fun _ => id
    refine report (w := ((w.ticked crew.now).readAll links crew.now).1) h.container
      ⟨hpass.within, fun {index counters time} hr => ?_, (h.books.append hquiet).settled⟩ (fun r hr => ?_) _ _ _
    · rcases hpass.baselines hr with hold | hread
      · exact (h.books.append hquiet).current hold
      · exact .last moves hread
    · obtain ⟨s, previous, current, time, rfl, hin, hlt, hbase⟩ := hpass.told r hr
      exact ⟨hin, previous, current, time, crew.now, hlt, rfl, (h.books.append hquiet).current hbase⟩
  | @sent event rest begins _ hp =>
    have hquiet : ∀ m ∈ [WatchMove.sent event], ∀ index, ¬ m.Updates index :=
      List.forall_mem_singleton.mpr fun _ => id
    refine report h.container (h.books.append hquiet) (fun r hr => ?_) _ _ _
    exact ((h.pending hp).2 r hr).append hquiet
  | idle _ _ hidle =>
    rw [List.append_nil]
    refine ⟨hidle.container.trans h.container, ?_, fun hp => ?_, fun hn => h.begun (hidle.isNew hn)⟩
    · rw [hidle.table, hidle.readings]
      exact h.books
    · rw [hidle.table]
      rcases hidle.silent with hsame | hsilent
      · exact h.pending (hsame ▸ hp)
      · exact absurd hp (hsilent _ _ _)

end Kept

end Watcher

theorem WatcherHistory.kept {crew₀ crew : Crew σ} {w₀ w : Watcher} {c : Container} {moves : List WatchMove}
    (h : WatcherHistory runtime monitor crew₀ w₀ crew w moves) (h₀ : w₀.Kept crew₀.options.labLabel c []) :
    w.Kept crew₀.options.labLabel c moves := by
  induction h with
  | start => exact h₀
  | others _ _ ih => exact ih
  | step h hm _ ih => exact h.options ▸ (h.options ▸ ih).moved hm

/-- An interface that went is back in the table only by an update, the last one of it. -/
theorem Books.returned {moves before between : List WatchMove} {table : LinkTable} {readings : LinkReadings}
    {gone : Link} {time : Nat} (h : Books moves table readings)
    (hs : moves = before ++ .learned (.removed gone) time :: between) (hin : gone.snapshot.index ∈ table) :
    ∃ early link time' late, between = early ++ .learned (.upsert link) time' :: late ∧
      link.snapshot.index = gone.snapshot.index ∧ ∀ m ∈ late, ¬ m.Updates gone.snapshot.index := by
  rcases last_of_kind (WatchMove.Updates gone.snapshot.index) between with hnone | ⟨early, m, late, rfl, hm, hlate⟩
  · have hout : table[gone.snapshot.index]? = none := h.settled hs hnone
    rw [Std.ExtTreeMap.mem_iff_isSome_getElem?, hout] at hin
    cases hin
  · cases m with
    | learned update time' =>
      have hindex : update.index = gone.snapshot.index := hm
      have hmoves : moves = (before ++ .learned (.removed gone) time :: early) ++ .learned update time' :: late := by
        simp [hs]
      have houtcome := h.settled hmoves (hindex ▸ hlate)
      cases update with
      | upsert link => exact ⟨early, link, time', late, rfl, hindex, hlate⟩
      | removed link =>
        rw [hindex] at houtcome
        rw [Std.ExtTreeMap.mem_iff_isSome_getElem?, houtcome] at hin
        cases hin
    | surveyed | took | sent => cases hm

/-- An event with the rates of an interface. -/
def Event.TellsRates (e : Event) (index : Nat) : Prop :=
  e.action = "stats" ∧ e.attributes.valueOf "index" = toString index

theorem metricsEvent_index (c : Container) (labLabel : String) (s : Snapshot) (m : LinkMetrics) (now : Instant) :
    (metricsEvent c labLabel s m now).attributes.valueOf "index" = toString s.index := by
  simp [metricsEvent, Event.withAttributes, linkEvent_attributes, linkAttributes, Attributes.ofPairs,
    Attributes.valueOf_insertFilled, Attributes.valueOf_insert]

/-- Only metrics are told as rates, those of their own interface. -/
theorem LinkReport.metrics_of_tellsRates {r : LinkReport} {c : Container} {labLabel : String} {now : Instant}
    {index : Nat} (h : (r.event c labLabel now).TellsRates index) : ∃ s m, r = .metrics s m ∧ s.index = index := by
  obtain ⟨haction, hindex⟩ := h
  cases r with
  | snapshot s => exact absurd haction (by simp only [event, linkEvent_action]; decide +kernel)
  | change action s =>
    rw [event, linkEvent_action, action.lowerText_word] at haction
    cases action <;> simp [LinkAction.word] at haction
  | metrics s m =>
    refine ⟨s, m, rfl, ?_⟩
    rw [event, metricsEvent_index] at hindex
    simpa [Nat.toNat?_repr] using congrArg String.toNat? hindex

theorem Watcher.Kept.fresh (label : String) (number : Nat) (key : String) (c : Container) (token : Token)
    (now : Nat) : (Watcher.fresh number key c token now).Kept label c [] :=
  ⟨rfl, .empty, nofun, fun _ => rfl⟩

/-- What a watcher is about to tell of rates rests on a current baseline. -/
theorem Watcher.Kept.rates {w : Watcher} {label : String} {c : Container} {moves : List WatchMove} {event : Event}
    {rest : List LinkReport} {begins : Bool} {index : Nat} (h : w.Kept label c moves)
    (hp : w.phase = .sending event rest begins) (he : event.TellsRates index) :
    index ∈ w.table ∧ ∃ s previous current time now instant, s.index = index ∧ time < now ∧
      event = (LinkReport.metrics s (.between previous current ⟨now - time⟩)).event c label instant ∧
      Current moves index previous time := by
  obtain ⟨⟨r, instant, rfl, hr⟩, -⟩ := h.pending hp
  obtain ⟨s, m, rfl, rfl⟩ := LinkReport.metrics_of_tellsRates he
  obtain ⟨hin, previous, current, time, now, hlt, rfl, hc⟩ := hr
  exact ⟨hin, s, previous, current, time, now, instant, rfl, hlt, rfl, hc⟩

/-- In whatever order ticks and updates come, a watcher has baselines only of interfaces in its table and
tells rates only of these. Rates that are told of an interface after it went are told after it came back,
and against a reading that was taken when it last came or later. -/
theorem rates_never_bridge_removal (runtime : ContainerRuntime σ) (monitor : LinkMonitor σ) (crew₀ crew : Crew σ)
    (number : Nat) (key : String) (c : Container) (token : Token) (now : Nat) (w : Watcher) (moves : List WatchMove)
    (h : WatcherHistory runtime monitor crew₀ (.fresh number key c token now) crew w moves) :
    (∀ index ∈ w.readings, index ∈ w.table) ∧
    (∀ hub w' event index, Crew.Moved runtime monitor crew w hub w' [.sent event] → event.TellsRates index →
      index ∈ w.table) ∧
    ∀ before gone time between event after,
      moves = before ++ .learned (.removed gone) time :: (between ++ .sent event :: after) →
      event.TellsRates gone.snapshot.index →
      ∃ early link time' late, between = early ++ .learned (.upsert link) time' :: late ∧
        link.snapshot.index = gone.snapshot.index ∧ (∀ m ∈ late, ¬ m.Updates gone.snapshot.index) ∧
        ∃ m ∈ .learned (.upsert link) time' :: late, ∃ s previous current read told instant,
          m.Reads gone.snapshot.index previous read ∧ s.index = gone.snapshot.index ∧ read < told ∧
          event = (LinkReport.metrics s (.between previous current ⟨told - read⟩)).event c crew₀.options.labLabel
            instant := by
  have hkept := h.kept (.fresh crew₀.options.labLabel number key c token now)
  refine ⟨hkept.books.within, fun hub w' event index hm he => ?_, ?_⟩
  · obtain ⟨rest, begins, hp⟩ := hm.sends List.mem_cons_self
    exact (hkept.rates hp he).1
  · intro before gone time between event after hs he
    have hsent : moves = (before ++ .learned (.removed gone) time :: between) ++ .sent event :: after := by simp [hs]
    obtain ⟨crew', w', rest, begins, h', hp⟩ := h.sent_at hsent
    have hkept' := h'.kept (.fresh crew₀.options.labLabel number key c token now)
    obtain ⟨hin, s, previous, current, read, told, instant, hindex, hlt, hevent, hc⟩ := hkept'.rates hp he
    obtain ⟨early, link, time', late, rfl, hlink, hlate⟩ := hkept'.books.returned rfl hin
    have hback : before ++ .learned (.removed gone) time :: (early ++ .learned (.upsert link) time' :: late) =
        (before ++ .learned (.removed gone) time :: early) ++ .learned (.upsert link) time' :: late := by simp
    obtain ⟨m, hm, hread⟩ := hc.since hback hlink
    exact ⟨early, link, time', late, rfl, hlink, hlate, m, hm, s, previous, current, read, told, instant, hread, hindex,
      hlt, hevent⟩

instance (poll : LinkPoll) (update : LinkUpdate) : Decidable (poll = .update update) :=
  match poll with
  | .update other => decidable_of_iff (other = update) (by simp)
  | .pending | .closed => isFalse nofun

instance (e : Event) (index : Nat) : Decidable (e.TellsRates index) :=
  inferInstanceAs (Decidable (e.action = "stats" ∧ e.attributes.valueOf "index" = toString index))

instance (phase : WatchPhase) (index : Nat) : Decidable (∃ event rest begins,
    phase = .sending event rest begins ∧ event.TellsRates index) :=
  match phase with
  | .sending event rest begins => decidable_of_iff (event.TellsRates index) (by simp)
  | .resolving .. | .opening _ | .surveying | .watching | .leaving | .done => isFalse nofun

namespace ScriptedWorld

def counted (bytes : Nat) : Link := { veth 3 "eth3" with counters := some ⟨bytes, 0, 0, 0⟩ }

def ofCounted : ScriptedWorld :=
  { empty with
    containers := [.running "c"]
    namespaces := [{ ScriptedNamespace.blank "/ns/c" with links := [counted 900] }] }

def crewOfCounted : Crew ScriptedWorld := .ofContainer ofCounted "c" ⟨"lab", false, some (.ofSeconds 1)⟩

def settled (fuel : Nat) (crew : Crew ScriptedWorld) : Crew ScriptedWorld :=
  (Watcher.clockwork (ScriptedWorld.runtime "") ScriptedWorld.monitor 0).settle fuel crew

/-- The watcher watches, and its interface has gone since. -/
def emptied : Crew ScriptedWorld :=
  (settled 9 crewOfCounted).amid 0 fun world => (world.changeLink "/ns/c" (.removed (counted 900))).1

def emptiedWatcher : Watcher := (emptied.watcher? 0).get (by decide +kernel)

def informedWatcher : Watcher :=
  (emptiedWatcher.learn (.removed (counted 900)) 0).1.report emptied.options
    (emptiedWatcher.learn (.removed (counted 900)) 0).2 false 0 emptied.instant

def informed : Crew ScriptedWorld :=
  { emptied with
    host := (emptied.host.observe (ScriptedWorld.monitor.nextUpdate 0 "/ns/c")).1 }.setWatcher informedWatcher

/-- An interface with the same index comes, with counters that have begun again. -/
def refilled : Crew ScriptedWorld :=
  (settled 9 informed).amid 0 fun world => (world.changeLink "/ns/c" (.upsert (counted 100))).1

/-- Then there is a tick. -/
def due : Crew ScriptedWorld :=
  (settled 9 refilled).amid 2000000000 fun world =>
    world.setNamespace "/ns/c" fun ns => { ns with links := [counted 500] }

theorem rates_never_bridge_removal_of_reuse : ∃ crew w moves before time between event link time',
    WatcherHistory (ScriptedWorld.runtime "") ScriptedWorld.monitor crewOfCounted
      (.fresh 0 "c" (.running "c") [0, 0] 0) crew w moves ∧
    moves = before ++ .learned (.removed (counted 900)) time :: (between ++ .sent event :: []) ∧
    event.TellsRates 3 ∧ .learned (.upsert link) time' ∈ between ∧ link.snapshot.index = 3 := by
  have h₀ : WatcherHistory (ScriptedWorld.runtime "") ScriptedWorld.monitor crewOfCounted
      (.fresh 0 "c" (.running "c") [0, 0] 0) _ _ _ := .start
  have present : crewOfCounted.watcher? 0 = some (.fresh 0 "c" (.running "c") [0, 0] 0) := rfl
  obtain ⟨w₁, before, hw₁, h₁⟩ := h₀.settle present 9
  have hemptied : emptied.watcher? 0 = some emptiedWatcher := (Option.some_get _).symm
  obtain rfl : w₁ = emptiedWatcher := Option.some.inj (hw₁.symm.trans hemptied)
  obtain ⟨hnumber, hwatches, hlinks⟩ :
      emptiedWatcher.number = 0 ∧ emptiedWatcher.phase = .watching ∧ emptiedWatcher.links = some (0, "/ns/c") := by
    decide +kernel
  have hpoll : (emptied.host.observe (ScriptedWorld.monitor.nextUpdate 0 "/ns/c")).2 =
      .update (.removed (counted 900)) := by decide +kernel
  have hb : WatcherHistory _ _ _ _ emptied emptiedWatcher _ := h₁.others rfl
  have hi : WatcherHistory _ _ _ _ informed informedWatcher _ :=
    hb.step (.learned hwatches hlinks (Prod.ext rfl hpoll)) rfl
  have hinformed : informed.watcher? 0 = some informedWatcher := by
    have hn : informedWatcher.number = 0 := by decide +kernel
    exact hn ▸ Crew.watcher?_setWatcher (hn ▸ hemptied)
  obtain ⟨w₂, told, hw₂, h₂⟩ := hi.settle hinformed 9
  have hc : WatcherHistory _ _ _ _ refilled w₂ _ := h₂.others rfl
  obtain ⟨w₃, back, hw₃, h₃⟩ := hc.settle hw₂ 9
  have hd : WatcherHistory _ _ _ _ due w₃ _ := h₃.others rfl
  obtain ⟨w₄, read, hw₄, h₄⟩ := hd.settle hw₃ 1
  obtain ⟨event, rest, begins, hp, htells⟩ : ∃ event rest begins,
      w₄.phase = .sending event rest begins ∧ event.TellsRates 3 := by
    suffices ∀ w ∈ (settled 1 due).watcher? 0, ∃ event rest begins,
      w.phase = .sending event rest begins ∧ event.TellsRates 3 from this w₄ hw₄
    decide +kernel
  have hs : WatcherHistory _ _ _ _
      { settled 1 due with channel.queue := (settled 1 due).channel.queue ++ [event] } _ _ :=
    h₄.step (.sent hp rfl) rfl
  have hmoves : before ++ [.learned (.removed (counted 900)) emptied.now] ++ told ++ back ++ read ++ [.sent event] =
      before ++ .learned (.removed (counted 900)) emptied.now :: ((told ++ back ++ read) ++ .sent event :: []) := by
    simp
  obtain ⟨-, -, hreturned⟩ := rates_never_bridge_removal _ _ _ _ _ _ _ _ _ _ _ hs
  obtain ⟨early, link, time', late, hbetween, hindex, -⟩ := hreturned _ _ _ _ _ _ hmoves htells
  refine ⟨_, _, _, before, emptied.now, told ++ back ++ read, event, link, time', hs, hmoves, htells, ?_, hindex⟩
  rw [hbetween]
  exact List.mem_append_right early List.mem_cons_self

end ScriptedWorld

end LabStream
