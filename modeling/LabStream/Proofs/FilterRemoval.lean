import Mathlib.Tactic.Tauto
import LabStream.Kernel
import LabStream.Proofs.Lists
import LabStream.Proofs.Release
import LabStream.Proofs.TcTrace

namespace LabStream

def PlacedIn (notes : List TcNote) (table : Nat) (netns : Option String) (ifname : String) (hook : Hook) :
    Prop :=
  ∃ pin outcome, .ran table netns (.replaceFilter ifname hook pin) outcome ∈ notes ∧ outcome.fault? = none

/-- The filter of a hook is deleted for a table before the table is closed. -/
def DeletedIn (notes : List TcNote) (table : Nat) (netns : Option String) (ifname : String) (hook : Hook) :
    Prop :=
  ∃ outcome, .ran table netns (.deleteFilter ifname hook) outcome ∈ notes.takeWhile (· ≠ .closed table)

namespace Noted

variable {netns : Nat → Option String} {d : Deed} {notes : List TcNote} {n : Nat} {ifname : String}

theorem deed_of_delete {ns : Option String} {hook : Hook} {outcome : TcOutcome} (h : Noted netns d notes)
    (hm : .ran n ns (.deleteFilter ifname hook) outcome ∈ notes) : d = .detach n ifname := by
  cases h with
  | detached =>
    simp at hm
    rcases hm with ⟨rfl, -, ⟨rfl, -⟩, -⟩ | ⟨rfl, -, ⟨rfl, -⟩, -⟩ <;> rfl
  | _ => simp at hm

theorem deed_of_closed (h : Noted netns d notes) (hm : .closed n ∈ notes) : d = .close n := by
  cases h with
  | closed => simpa [eq_comm] using hm
  | _ => simp at hm

theorem delete_of_detach (h : Noted netns (.detach n ifname) notes) (hook : Hook) :
    ∃ outcome, .ran n (netns n) (.deleteFilter ifname hook) outcome ∈ notes := by
  cases h with
  | quiet hu => exact absurd (hu n ifname .detach (by simp [Deed.move?])) (by simp)
  | detached => cases hook <;> simp

theorem placed_of_attach (h : Noted netns (.attach n ifname true) notes) :
    PlacedIn notes n (netns n) ifname .egress := by
  cases h with
  | quiet hu => exact absurd (hu n ifname .attach (by simp [Deed.move?])) (by simp)
  | whole hs ht => exact ⟨_, _, List.mem_cons_of_mem _ (List.mem_cons_of_mem _ List.mem_cons_self), ht⟩

/-- A successful replacement is part of an attachment, and the rest of it is known. -/
theorem attach_of_replace {before after : List TcNote} {ns : Option String} {hook : Hook} {pin : String}
    {outcome : TcOutcome}
    (h : Noted netns d (before ++ .ran n ns (.replaceFilter ifname hook pin) outcome :: after))
    (ok : outcome.fault? = none) :
    ns = netns n ∧ (∀ note ∈ after, note ≠ .closed n) ∧
      ((hook = .egress ∧ d = .attach n ifname true) ∨
        (hook = .ingress ∧ d = .attach n ifname true ∧ PlacedIn after n ns ifname .egress) ∨
        (hook = .ingress ∧ d = .attach n ifname false ∧ ¬ PlacedIn after n ns ifname .egress)) := by
  generalize hn : before ++ .ran n ns (.replaceFilter ifname hook pin) outcome :: after = notes at h
  have hm : .ran n ns (.replaceFilter ifname hook pin) outcome ∈ notes :=
    hn ▸ List.mem_append_right _ List.mem_cons_self
  cases h with
  | quiet | detached | closed => simp at hm
  | refused hs =>
    rcases before with _ | ⟨_, _ | ⟨_, before⟩⟩ <;> simp at hn
    obtain ⟨-, ⟨rfl, rfl, ⟨rfl, rfl, rfl⟩, rfl⟩, rfl⟩ := hn
    exact absurd ok hs
  | half hs ht =>
    rcases before with _ | ⟨_, _ | ⟨_, _ | ⟨_, before⟩⟩⟩ <;> simp at hn
    · obtain ⟨-, ⟨rfl, rfl, ⟨rfl, rfl, rfl⟩, rfl⟩, rfl⟩ := hn
      refine ⟨rfl, by simp, .inr (.inr ⟨rfl, rfl, ?_⟩)⟩
      rintro ⟨pin', outcome, hp, hf⟩
      simp at hp
      exact ht (hp.2 ▸ hf)
    · obtain ⟨-, -, ⟨rfl, rfl, ⟨rfl, rfl, rfl⟩, rfl⟩, rfl⟩ := hn
      exact absurd ok ht
  | whole hs ht =>
    rcases before with _ | ⟨_, _ | ⟨_, _ | ⟨_, before⟩⟩⟩ <;> simp at hn
    · obtain ⟨-, ⟨rfl, rfl, ⟨rfl, rfl, rfl⟩, rfl⟩, rfl⟩ := hn
      exact ⟨rfl, by simp, .inr (.inl ⟨rfl, rfl, _, _, List.mem_cons_self, ht⟩)⟩
    · obtain ⟨-, -, ⟨rfl, rfl, ⟨rfl, rfl, rfl⟩, rfl⟩, rfl⟩ := hn
      exact ⟨rfl, by simp, .inl ⟨rfl, rfl⟩⟩

end Noted

section

variable {σ : Type} {host : TcHost σ} {places : TcPlaces} {l : Ledger (TcWorld σ) TcTable}
  {first last : List (Entry (TcWorld σ))} {e : Entry (TcWorld σ)} {n : Nat} {ifname : String}

/-- The namespace of a table can be entered whenever something is asked for the table. -/
def Ledger.Enterable (host : TcHost σ) (l : Ledger (TcWorld σ) TcTable) : Prop :=
  ∀ e ∈ l.entries, ∀ n ∈ e.deed.table?, host.enter (netnsOf l.tables n) e.before.world = .ok ()

instance (host : TcHost σ) (l : Ledger (TcWorld σ) TcTable) : Decidable (l.Enterable host) :=
  inferInstanceAs (Decidable (∀ e ∈ l.entries, ∀ n ∈ e.deed.table?, _))

theorem Ledger.Settled.noted (h : l.Settled (host.backend places)) (enterable : l.Enterable host) :
    ∀ e ∈ l.entries, Noted (netnsOf l.tables) e.deed e.notes :=
  fun e he => (h.faithful e he).noted (enterable e he)

theorem Ledger.Settled.closed_of_attach (h : l.Settled (host.backend places)) {done : Bool}
    (he : e ∈ l.entries) (hd : e.deed = .attach n ifname done) : stage n ifname l.deeds = .closed := by
  obtain ⟨deed, before, after⟩ := e
  obtain rfl : deed = _ := hd
  obtain ⟨t, ht, -⟩ := h.faithful _ he
  exact h.closed n (List.getElem?_eq_some_iff.mp ht).1 ifname

theorem DeletedIn.append {before after : List TcNote} {ns : Option String} {hook : Hook}
    (h : DeletedIn after n ns ifname hook) (hb : ∀ note ∈ before, note ≠ .closed n) :
    DeletedIn (before ++ after) n ns ifname hook := by
  obtain ⟨outcome, hm⟩ := h
  refine ⟨outcome, ?_⟩
  rw [List.takeWhile_append_of_pos (by simpa using hb)]
  exact List.mem_append_right before hm

theorem Ledger.Settled.not_closed (h : l.Settled (host.backend places))
    (enterable : l.Enterable host) {entries : List (Entry (TcWorld σ))}
    (he : ∀ e ∈ entries, e ∈ l.entries) (hc : .close n ∉ entries.map (·.deed)) :
    ∀ note ∈ entries.flatMap Entry.notes, note ≠ .closed n := by
  intro note hnote heq
  obtain ⟨e, hm, hnote⟩ := List.mem_flatMap.mp hnote
  have hclose := (h.noted enterable e (he e hm)).deed_of_closed (heq ▸ hnote)
  exact hc (hclose ▸ List.mem_map_of_mem hm)

/-- Both filters of an interface that was attached are deleted later on. -/
theorem Ledger.Settled.deleted_of_attach (h : l.Settled (host.backend places))
    (enterable : l.Enterable host) (hl : l.entries = first ++ e :: last)
    (hd : e.deed = .attach n ifname true) (hook : Hook) :
    DeletedIn (last.flatMap Entry.notes) n (netnsOf l.tables n) ifname hook := by
  have hc := h.closed_of_attach (by simp [hl]) hd
  have hdeeds : l.deeds = first.map (·.deed) ++ .attach n ifname true :: last.map (·.deed) := by
    simp [Ledger.deeds, hl, hd]
  obtain ⟨mid, rest, hlast, hnot⟩ := detached_later (hdeeds ▸ hc)
  obtain ⟨between, tail, rfl, rfl, htail⟩ := List.map_eq_append_iff.mp hlast
  obtain ⟨e', later, rfl, he', -⟩ := List.map_eq_cons_iff.mp htail
  have hdetach := he' ▸ h.noted enterable e' (by simp [hl])
  obtain ⟨outcome, hm⟩ := hdetach.delete_of_detach hook
  have hopen : ∀ note ∈ e'.notes, note ≠ .closed n := by
    intro note hnote heq
    cases hdetach.deed_of_closed (heq ▸ hnote)
  have hdeleted : DeletedIn (e'.notes ++ later.flatMap Entry.notes) n (netnsOf l.tables n) ifname hook := by
    refine ⟨outcome, ?_⟩
    rw [List.takeWhile_append_of_pos (by simpa using hopen)]
    exact List.mem_append_left _ hm
  rw [List.flatMap_append, List.flatMap_cons]
  exact hdeleted.append (h.not_closed enterable (fun entry hm => by simp [hl, hm]) hnot)

/-- A filter is deleted after a failed attachment only if the interface is attached after all. -/
theorem Ledger.Settled.placed_of_delete (h : l.Settled (host.backend places))
    (enterable : l.Enterable host) (hl : l.entries = first ++ e :: last)
    (hd : e.deed = .attach n ifname false) {ns : Option String} {hook : Hook}
    (hdel : DeletedIn (last.flatMap Entry.notes) n ns ifname hook) :
    PlacedIn (last.flatMap Entry.notes) n (netnsOf l.tables n) ifname .egress := by
  have hc := h.closed_of_attach (by simp [hl]) hd
  have hnoted := h.noted enterable
  simp only [hl, List.forall_mem_append, List.forall_mem_cons] at hnoted
  obtain ⟨-, -, hlater⟩ := hnoted
  obtain ⟨outcome, hm⟩ := hdel
  obtain ⟨e', he', hm'⟩ := List.mem_flatMap.mp (List.takeWhile_subset _ hm)
  have hdetach := (hlater e' he').deed_of_delete hm'
  obtain ⟨between, later, rfl⟩ := List.append_of_mem he'
  have hdeeds : l.deeds = first.map (·.deed) ++
      .attach n ifname false :: (between.map (·.deed) ++ .detach n ifname :: later.map (·.deed)) := by
    simp [Ledger.deeds, hl, hd, hdetach]
  obtain ⟨e'', hmem, he''⟩ := List.mem_map.mp (attached_between (hdeeds ▸ hc))
  have hattach := hlater e'' (by simp [hmem])
  rw [he''] at hattach
  obtain ⟨pin, outcome, hp, ok⟩ := hattach.placed_of_attach
  exact ⟨pin, outcome, List.mem_flatMap.mpr ⟨e'', by simp [hmem], hp⟩, ok⟩

/-- Once an interface is attached after all, both of its filters are deleted. -/
theorem Ledger.Settled.deleted_of_placed (h : l.Settled (host.backend places))
    (enterable : l.Enterable host) (hl : l.entries = first ++ last) {ns : Option String}
    (hp : PlacedIn (last.flatMap Entry.notes) n ns ifname .egress) (hook : Hook) :
    DeletedIn (last.flatMap Entry.notes) n (netnsOf l.tables n) ifname hook := by
  obtain ⟨pin, outcome, hm, ok⟩ := hp
  obtain ⟨e, he, hm⟩ := List.mem_flatMap.mp hm
  obtain ⟨start, rest, hnotes⟩ := List.append_of_mem hm
  obtain ⟨between, later, rfl⟩ := List.append_of_mem he
  have hnoted := h.noted enterable e (by simp [hl])
  rw [hnotes] at hnoted
  obtain ⟨-, -, ⟨-, hd⟩ | ⟨hc, -⟩ | ⟨hc, -⟩⟩ := hnoted.attach_of_replace ok
  · have hsplit : l.entries = (first ++ between) ++ e :: later := by simp [hl]
    have hdeeds : l.deeds =
        (first ++ between).map (·.deed) ++ .attach n ifname true :: later.map (·.deed) := by
      simp [Ledger.deeds, hsplit, hd]
    have hnot := close_not_mem (hdeeds ▸ h.closed_of_attach (by simp [hl]) hd) rfl
    rw [List.map_append, List.mem_append, not_or] at hnot
    have hopen : ∀ note ∈ (between ++ [e]).flatMap Entry.notes, note ≠ .closed n :=
      h.not_closed enterable (fun entry hm => by simp [hl] at hm ⊢; tauto) (by simpa [hd] using hnot.2)
    simpa using (h.deleted_of_attach enterable hsplit hd hook).append hopen
  · cases hc
  · cases hc

end

/-- A filter that was put in place is deleted before its table is closed just if it is the one for
egress, or an attachment gets as far as that one later on. -/
theorem SamplerRun.filter_deleted_iff {σ : Type} {host : TcHost σ} {places : TcPlaces} {interval : Span}
    {services : ServiceNames} {containers : List Container} {hub : Hub (LedgerWorld (TcWorld σ) TcTable)}
    {s : Sampler (Numbered TcTable)} {sent : List Event}
    (run : SamplerRun (host.backend places) interval services containers hub s sent) (hd : s.isDone)
    (enterable : hub.host.world.ledger.Enterable host) {before after : List TcNote} {n : Nat}
    {ns : Option String} {ifname : String} {hook : Hook} {pin : String} {outcome : TcOutcome}
    (hn : hub.host.world.ledger.notes = before ++ .ran n ns (.replaceFilter ifname hook pin) outcome :: after)
    (ok : outcome.fault? = none) :
    DeletedIn after n ns ifname hook ↔ hook = .egress ∨ PlacedIn after n ns ifname .egress := by
  have h := run.settled hd
  generalize hub.host.world.ledger = l at h hn enterable
  obtain ⟨first, e, last, start, rest, hl, he, rfl⟩ := flatMap_eq_append_cons hn
  have hnoted := h.noted enterable e (by simp [hl])
  rw [he] at hnoted
  -- The replacement is part of an attachment: `rest` is what is left of it, `last` all that comes later.
  obtain ⟨rfl, hopen, hcases⟩ := hnoted.attach_of_replace ok
  obtain ⟨rfl, hd⟩ | ⟨rfl, hd, hp⟩ | ⟨rfl, hd, hp⟩ := hcases
  · exact iff_of_true ((h.deleted_of_attach enterable hl hd _).append hopen) (.inl rfl)
  · obtain ⟨pin', outcome', hm, ok'⟩ := hp
    exact iff_of_true ((h.deleted_of_attach enterable hl hd _).append hopen)
      (.inr ⟨pin', outcome', List.mem_append_left _ hm, ok'⟩)
  · constructor
    · rintro ⟨outcome', hm⟩
      rw [List.takeWhile_append_of_pos (by simpa using hopen)] at hm
      rcases List.mem_append.mp hm with hm | hm
      · have hdetach := hnoted.deed_of_delete (List.mem_append_right _ (List.mem_cons_of_mem _ hm))
        simp [hd] at hdetach
      · obtain ⟨pin', outcome', hm', ok'⟩ := h.placed_of_delete enterable hl hd ⟨outcome', hm⟩
        exact .inr ⟨pin', outcome', List.mem_append_right _ hm', ok'⟩
    · rintro (hc | ⟨pin', outcome', hm, ok'⟩)
      · cases hc
      · rcases List.mem_append.mp hm with hm | hm
        · exact absurd ⟨pin', outcome', hm, ok'⟩ hp
        · have hl' : l.entries = (first ++ [e]) ++ last := by simp [hl]
          exact (h.deleted_of_placed enterable hl' ⟨pin', outcome', hm, ok'⟩ _).append hopen

def kernelWith (rules : List TcRule) : Kernel :=
  { Kernel.empty with
    disk := [⟨["sys", "fs", "bpf"], true⟩, ⟨["obj"], true⟩, ⟨["obj", "traffic_proto_top.x86.o"], false⟩]
    objects := [("/obj/traffic_proto_top.x86.o",
      ⟨[⟨"ingress_prog", "classifier"⟩, ⟨"egress_prog", "classifier"⟩], [⟨"proto_counters", 1, 8, 16⟩]⟩)]
    inventory := [⟨2, [.name "eth1", .mtu 1500]⟩]
    tcRules := rules }

def kernelPlaces : TcPlaces := ⟨⟨"/bpf", "/obj"⟩, "x86_64"⟩

/-- Where no command goes wrong, the filter for ingress is deleted. -/
theorem filter_deleted_after_cancellation : ∃ hub s sent after,
    SamplerRun (Kernel.tcHost.backend kernelPlaces) (.ofSeconds 1) .empty [] hub s sent ∧ s.isDone ∧
      hub.host.world.ledger.Enterable Kernel.tcHost ∧
      hub.host.world.ledger.notes = [.ran (some 0) none (.addQdisc "eth1") (.exited 0 [])] ++
        .ran (some 0) none (.replaceFilter "eth1" .ingress "/bpf/host/ingress_prog") (.exited 0 []) :: after ∧
      DeletedIn after 0 none "eth1" .ingress := by
  have start : SamplerRun (Kernel.tcHost.backend kernelPlaces) (.ofSeconds 1) .empty [] _ _ _ :=
    .launched (.opening ⟨kernelWith [], []⟩) rfl
  obtain ⟨hub, s, sent, run, done, enterable, notes⟩ : ∃ hub s sent,
      SamplerRun (Kernel.tcHost.backend kernelPlaces) (.ofSeconds 1) .empty [] hub s sent ∧ s.isDone ∧
        hub.host.world.ledger.Enterable Kernel.tcHost ∧
        hub.host.world.ledger.notes = [.ran (some 0) none (.addQdisc "eth1") (.exited 0 [])] ++
          [.ran (some 0) none (.replaceFilter "eth1" .ingress "/bpf/host/ingress_prog") (.exited 0 []),
            .ran (some 0) none (.replaceFilter "eth1" .egress "/bpf/host/egress_prog") (.exited 0 []),
            .ran (some 0) none (.deleteFilter "eth1" .ingress) (.exited 0 []),
            .ran (some 0) none (.deleteFilter "eth1" .egress) (.exited 0 []), .closed 0] :=
    ⟨_, _, _, (start.others (Hub.cancel _ [0]) rfl).settle 5, by decide +kernel, by decide +kernel,
      by decide +kernel⟩
  exact ⟨hub, s, sent, _, run, done, enterable, notes,
    (run.filter_deleted_iff done enterable notes rfl).mpr (.inr ⟨_, _, List.mem_cons_self, rfl⟩)⟩

/-- Where the filter for egress cannot be put in place, the one for ingress stays. -/
theorem filter_left_behind : ∃ hub s sent after,
    SamplerRun (Kernel.tcHost.backend kernelPlaces) (.ofSeconds 1) .empty [] hub s sent ∧ s.isDone ∧
      hub.host.world.ledger.Enterable Kernel.tcHost ∧
      hub.host.world.ledger.notes = [.ran (some 0) none (.addQdisc "eth1") (.exited 0 [])] ++
        .ran (some 0) none (.replaceFilter "eth1" .ingress "/bpf/host/ingress_prog") (.exited 0 []) :: after ∧
      ¬ DeletedIn after 0 none "eth1" .ingress := by
  have start : SamplerRun (Kernel.tcHost.backend kernelPlaces) (.ofSeconds 1) .empty [] _ _ _ :=
    .launched (.opening ⟨kernelWith [⟨"filter replace dev eth1 egress", .exited 2 []⟩], []⟩) rfl
  refine ⟨_, _, _, [.ran (some 0) none (.replaceFilter "eth1" .egress "/bpf/host/egress_prog") (.exited 2 []),
    .closed 0], start.settle 3, by decide +kernel, by decide +kernel, by decide +kernel, ?_⟩
  rintro ⟨outcome, hm⟩
  simp at hm

end LabStream
