import LabStream.Proofs.StreamSights

namespace LabStream

variable {σ τ : Type}

namespace EventStream

variable {setup : StreamSetup σ τ} {hidden : String → Bool} {s s' : EventStream σ τ}

/-- A turn of a watcher cancels nobody. -/
theorem view_watcher {u : EventStream σ τ} {crew : Crew σ} (htoken : crew.token = u.crew.token)
    (hcancelled : crew.cancelled = u.crew.cancelled) (rest : Cancellations) :
    ({ u with crew }.cancelling rest).view hidden =
      { (u.cancelling rest).view hidden with
        charges := if (u.cancelling rest).crew.isCancelled (u.cancelling rest).crew.token then fun _ => none
          else crew.charges hidden } := by
  refine view_ext rfl rfl rfl rfl rfl ?_ rfl
  change Cancellations.covers (crew.cancelled ++ rest) crew.token = _
  rw [htoken, hcancelled]
  rfl

section Watcher

variable {u : EventStream σ τ} {rest : Cancellations} {w : Watcher} {crew : Crew σ}

/-- A watcher of a hidden container, or one that is cancelled, takes its turn unseen. -/
theorem view_watcher_unseen (sound : (u.cancelling rest).Sound setup) (hw : u.crew.watcher? w.number = some w)
    (hs : u.crew.stepWatcher setup.runtime setup.monitor w = some crew)
    (hgone : hidden w.key ∨ (u.cancelling rest).crew.isCancelled w.token) :
    ({ u with crew }.cancelling rest).view hidden = (u.cancelling rest).view hidden := by
  obtain ⟨hub, w', hturn, hstepped⟩ := Crew.stepWatcher_turn hs
  obtain ⟨htoken, hcancelled⟩ := hturn.tokens
  rw [← hstepped.hub] at htoken hcancelled
  obtain ⟨_, kept⟩ := sound.kept
  have hmem := (Crew.mem_of_watcher? hw).1
  refine (view_watcher htoken hcancelled rest).trans (StreamView.ext rfl rfl rfl rfl rfl rfl ?_)
  dsimp only [view]
  split
  · rfl
  next hroot =>
    refine hstepped.charges_unseen hturn.continues (kept.around u.crew.toHub) hmem (hgone.imp_right ?_)
    intro hcovered hentry
    have hlive := sound.tidy.isCancelled_entered (Bool.eq_false_iff.mpr hroot) hentry
    rw [← sound.heeded.token hmem, hcovered] at hlive
    cases hlive

theorem openRecords_watcher_unseen (hs : u.crew.stepWatcher setup.runtime setup.monitor w = some crew)
    (hsilent : rest = [] ∨ w.said = []) (hgone : hidden w.key ∨ (u.cancelling rest).crew.isCancelled w.token) :
    openRecords hidden (u.entries { u with crew } (.watcher w.number w.key)) = [] := by
  rcases Crew.stepWatcher_queue hs with ⟨event, more, begins, hp, hlive, -, -, hqueue⟩ | ⟨hqueue, -⟩
  · rw [openRecords_entries hqueue]
    refine if_pos (hgone.resolve_right fun hcovered => ?_)
    rcases hsilent with rfl | hsaid
    · rw [cancelling_nil, hlive] at hcovered
      cases hcovered
    · simp [Watcher.said, hp] at hsaid
  · exact openRecords_kept hqueue

/-- A watcher that can be told from outside is in charge of its container. -/
theorem Sound.in_charge (sound : (u.cancelling rest).Sound setup) (hmem : w ∈ u.crew.watchers) (hdone : w.phase ≠ .done)
    (hlive : (u.cancelling rest).crew.isCancelled w.token = false) :
    (u.cancelling rest).crew.isCancelled (u.cancelling rest).crew.token = false ∧
      u.crew.roster.entries[w.key]? = some w.number := by
  constructor
  · refine Bool.eq_false_iff.mpr fun hroot => ?_
    have hcovered := Crew.isCancelled_watcherToken hroot w.number
    rw [← sound.heeded.token hmem, hlive] at hcovered
    cases hcovered
  · by_contra hout
    rcases sound.heeded.quiet hmem hout with h | hcovered
    · exact hdone h
    · have hcovered : (u.cancelling rest).crew.isCancelled w.token := hcovered
      rw [hlive] at hcovered
      cases hcovered

theorem follows_watcher_seen (sound : (u.cancelling rest).Sound setup) (hw : u.crew.watcher? w.number = some w)
    (hs : u.crew.stepWatcher setup.runtime setup.monitor w = some crew) (hshown : hidden w.key = false)
    (hlive : (u.cancelling rest).crew.isCancelled w.token = false)
    (hroom : w.said.any (u.crew.getsInLine (.watcher w.number) w.token) = false) :
    ({ u with crew }.cancelling rest).view hidden = ((u.cancelling rest).view hidden).after setup hidden
        (.watcher w.key (u.crew.sight setup.runtime setup.monitor w)) ∧
      openRecords hidden (u.entries { u with crew } (.watcher w.number w.key)) =
        ((u.cancelling rest).view hidden).record (.watcher w.key (u.crew.sight setup.runtime setup.monitor w)) := by
  obtain ⟨hub, w', hturn, hstepped⟩ := Crew.stepWatcher_turn hs
  obtain ⟨htoken, hcancelled⟩ := hturn.tokens
  rw [← hstepped.hub] at htoken hcancelled
  obtain ⟨_, kept⟩ := sound.kept
  have kept : u.crew.Kept _ := kept.around u.crew.toHub
  have hmem := (Crew.mem_of_watcher? hw).1
  obtain ⟨hroot, hcharge⟩ := sound.in_charge hmem hturn.completes.1 hlive
  have hcharges : ((u.cancelling rest).view hidden).charges = u.crew.charges hidden := if_neg (by rw [hroot]; nofun)
  have hown : ((u.cancelling rest).view hidden).charges w.key = some w.outline := by
    rw [hcharges]
    exact Crew.charges_own kept hmem hshown hcharge
  have hlive' : u.crew.isCancelled w.token = false := by
    have hboth : (u.crew.isCancelled w.token || Cancellations.covers rest w.token) = false := by
      rw [← hlive, Hub.isCancelled, Hub.isCancelled, cancelling, Cancellations.covers, Cancellations.covers,
        Cancellations.covers, List.any_append]
    exact (Bool.or_eq_false_iff.mp hboth).1
  obtain ⟨hqueue, w₁, hseen⟩ := Crew.stepWatcher_seen hs hlive' (sound.opened hroot) hroom
  have houtline := hseen.outline_of_stepped hstepped hturn.continues hw
  have hoptions : u.crew.options = setup.watchOptions := sound.options
  constructor
  · refine (view_watcher htoken hcancelled rest).trans ?_
    simp only [StreamView.after, hown, hroot, Bool.false_eq_true, if_false, hcharges, w.outline_isLeaving]
    rw [hstepped.charges_seen hturn.continues kept hmem hshown hcharge, houtline, hoptions]
  · rw [openRecords_entries hqueue, StreamView.record, hown]
    simp [Sender.source, Source.isHidden, hshown, Watcher.outline_said]

theorem follows_watcher {u' : EventStream σ τ} {number : Nat} (sound : (u.cancelling rest).Sound setup)
    (hrest : rest = [] ∨ u.heedsCancel (.watcher number)) (h : u.turn setup (.watcher number) = some u') :
    Follows setup hidden (u.cancelling rest) (u'.cancelling rest) (u.moved setup u' (.watcher number))
      ((u.cancelling rest).glimpse? setup hidden u (.watcher number)) := by
  obtain ⟨w, hw, h⟩ := Option.bind_eq_some_iff.mp h
  obtain ⟨crew, hs, heq⟩ := Option.bind_eq_some_iff.mp h
  obtain rfl := Option.some.inj heq
  obtain ⟨-, rfl⟩ := Crew.mem_of_watcher? hw
  have hsilent : rest = [] ∨ w.said = [] := by
    refine hrest.imp_right fun hheeds => ?_
    have hwaits : w.heedsCancel := by simpa [heedsCancel, hw] using hheeds
    refine Watcher.said_eq_nil fun event more begins hp => ?_
    simp [Watcher.heedsCancel, hp] at hwaits
  have hw' : (u.cancelling rest).crew.watcher? w.number = some w := hw
  have hline : (u.cancelling rest).getsInLine (.watcher w.number) =
      w.said.any (u.crew.getsInLine (.watcher w.number) w.token) := by
    rcases hsilent with rfl | hsaid
    · simp [cancelling_nil, getsInLine, hw]
    · simp [getsInLine, hw', hsaid]
  have hunseen : (u.cancelling rest).isUnseen hidden (.watcher w.number) =
      (w.said.any (u.crew.getsInLine (.watcher w.number) w.token) ||
        (hidden w.key || (u.cancelling rest).crew.isCancelled w.token)) := by
    simp [isUnseen, hline, hw']
  have hsight : u.sight? setup (.watcher w.number) =
      some (.watcher w.key (u.crew.sight setup.runtime setup.monitor w)) := by
    simp [sight?, hw]
  have hmoved : u.moved setup { u with crew } (.watcher w.number) =
      u.entries { u with crew } (.watcher w.number w.key) := by
    simp [moved, hw]
  rw [hmoved]
  cases hroom : w.said.any (u.crew.getsInLine (.watcher w.number) w.token) with
  | true =>
    obtain ⟨channel, rfl, hqueue⟩ := Crew.stepWatcher_inLine hs hroom
    exact .of_unseen (by simp [hunseen, hroom]) rfl (openRecords_kept hqueue)
  | false =>
    cases hgone : hidden w.key || (u.cancelling rest).crew.isCancelled w.token with
    | true =>
      have hgone' := Bool.or_eq_true_iff.mp hgone
      exact .of_unseen (by simp [hunseen, hgone]) (view_watcher_unseen sound hw hs hgone')
        (openRecords_watcher_unseen hs hsilent hgone')
    | false =>
      obtain ⟨hshown, hlive⟩ := Bool.or_eq_false_iff.mp hgone
      obtain ⟨hview, hrecords⟩ := follows_watcher_seen sound hw hs hshown hlive hroom
      exact .of_seen (by simp [hunseen, hroom, hgone]) hsight hview hrecords

end Watcher

end EventStream

end LabStream
