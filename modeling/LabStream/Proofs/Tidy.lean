import LabStream.Proofs.Charges

namespace LabStream

variable {σ τ : Type} {runtime : ContainerRuntime σ} {monitor : LinkMonitor σ}

namespace Crew

variable {crew crew' : Crew σ} {w w' : Watcher} {hub : Hub σ} {moves : List CrewMove} {cancelled more : Cancellations}

/-- Nothing is cancelled but the stream as a whole and watchers that were taken out of the roster. -/
def Tidy (cancelled : Cancellations) (crew : Crew σ) : Prop :=
  ∀ token ∈ cancelled, token <+: crew.token ∨
    ∃ n < crew.roster.nextNumber, token = crew.watcherToken n ∧ ∀ key : String, crew.roster.entries[key]? ≠ some n

theorem isCancelled_watcherToken (hroot : crew.isCancelled crew.token) (n : Nat) :
    crew.isCancelled (crew.watcherToken n) := by
  obtain ⟨token, hmem, hprefix⟩ := List.any_eq_true.mp hroot
  have habove : token <+: crew.token := List.isPrefixOf_iff_prefix.mp hprefix
  exact List.any_eq_true.mpr ⟨token, hmem, List.isPrefixOf_iff_prefix.mpr (habove.trans (List.prefix_append _ _))⟩

theorem watcherToken_inj {n m : Nat} (h : crew.watcherToken n <+: crew.watcherToken m) : n = m := by
  have heq : crew.watcherToken n = crew.watcherToken m := h.eq_of_length (by simp [watcherToken])
  exact (List.cons.inj (List.append_cancel_left heq)).1

theorem not_watcherToken_prefix (crew : Crew σ) (n : Nat) : ¬crew.watcherToken n <+: crew.token := by
  intro h
  have hlength := h.length_le
  rw [watcherToken, List.length_append, List.length_singleton] at hlength
  omega

namespace Tidy

/-- While the stream goes on, nobody is cancelled who is in the roster. -/
theorem isCancelled_entered (h : crew.Tidy crew.cancelled) (hroot : crew.isCancelled crew.token = false) {key : String}
    {n : Nat} (hentry : crew.roster.entries[key]? = some n) : crew.isCancelled (crew.watcherToken n) = false := by
  refine Bool.eq_false_iff.mpr fun hcovered => ?_
  obtain ⟨token, hmem, hprefix⟩ := List.any_eq_true.mp hcovered
  rcases h token hmem with hstream | ⟨m, -, rfl, hgone⟩
  · have hcancelled : crew.isCancelled crew.token :=
      List.any_eq_true.mpr ⟨token, hmem, List.isPrefixOf_iff_prefix.mpr hstream⟩
    rw [hroot] at hcancelled
    cases hcancelled
  · obtain rfl := watcherToken_inj (List.isPrefixOf_iff_prefix.mp hprefix)
    exact hgone key hentry

theorem mono (h : crew.Tidy cancelled) (hmore : ∀ token ∈ more, token ∈ cancelled ∨ token <+: crew.token)
    (htoken : crew'.token = crew.token) (hnext : crew.roster.nextNumber ≤ crew'.roster.nextNumber)
    (hentries : ∀ (key : String) n, crew'.roster.entries[key]? = some n →
      crew.roster.entries[key]? = some n ∨ crew.roster.nextNumber ≤ n) : crew'.Tidy more := by
  intro token hmem
  rw [htoken]
  rcases hmore token hmem with hold | hstream
  · rcases h token hold with hstream | ⟨n, hn, rfl, hgone⟩
    · exact .inl hstream
    · refine .inr ⟨n, Nat.lt_of_lt_of_le hn hnext, by rw [watcherToken, watcherToken, htoken], fun key hentry => ?_⟩
      rcases hentries key n hentry with hold | hnew
      · exact hgone key hold
      · omega
  · exact .inl hstream

theorem subset (h : crew.Tidy cancelled) (hmore : more ⊆ cancelled) : crew.Tidy more :=
  fun token hmem => h token (hmore hmem)

theorem around (h : crew.Tidy cancelled) (hmore : ∀ token ∈ more, token ∈ cancelled ∨ token <+: crew.token)
    (htoken : hub.token = crew.token) : Tidy more { crew with toHub := hub } :=
  h.mono hmore htoken (Nat.le_refl _) fun _ _ hentry => .inl hentry

theorem start (h : crew.Tidy cancelled) (c : Container) : (crew.start c).1.Tidy cancelled := by
  by_cases ha : crew.roster.Admits c.identity
  · rw [start_admitted ha]
    refine h.mono (fun _ hmem => .inl hmem) rfl (by simp [Roster.enter_admitted ha]) fun key n hentry => ?_
    dsimp only at hentry
    rw [Roster.getElem?_enter ha] at hentry
    split at hentry
    · obtain rfl := Option.some.inj hentry
      exact .inr (Nat.le_refl _)
    · exact .inl hentry
  · rw [start_refused ha]
    exact h

theorem starts (h : crew.Tidy cancelled) (containers : List Container) :
    (containers.foldl (fun crew c => (crew.start c).1) crew).Tidy cancelled := by
  induction containers generalizing crew with
  | nil => exact h
  | cons c containers ih => exact ih (h.start c)

theorem dismiss (h : crew.Tidy cancelled) (kept : crew.Kept moves) (hsub : crew.cancelled ⊆ cancelled) (key : String) :
    (crew.dismiss key).1.Tidy ((crew.dismiss key).1.cancelled ++ cancelled) := by
  have hentries (other : String) : (crew.dismiss key).1.roster.entries[other]? =
      if key = other then none else crew.roster.entries[other]? := by
    rw [dismiss_roster, Roster.getElem?_take]
  have hnext : (crew.dismiss key).1.roster.nextNumber = crew.roster.nextNumber := by
    rw [dismiss_roster]
    rfl
  have htoken (n : Nat) : (crew.dismiss key).1.watcherToken n = crew.watcherToken n := by
    rw [watcherToken, watcherToken, dismiss_token]
  intro token hmem
  simp only [dismiss_token, hnext, htoken, hentries]
  rw [dismiss_cancelled, List.append_assoc, List.mem_append, Option.mem_toList] at hmem
  rcases hmem with hnew | hold
  · obtain ⟨n, hentry, rfl⟩ := Option.map_eq_some_iff.mp hnew
    obtain ⟨-, w, hw, rfl, -⟩ := kept.entered hentry
    refine .inr ⟨w.number, kept.number_lt hw, rfl, fun other => ?_⟩
    split
    · simp
    next hne =>
      intro hother
      exact hne ((kept.key_of_entered hw hentry).trans (kept.key_of_entered hw hother).symm)
  · have hmem : token ∈ cancelled := (List.mem_append.mp hold).elim (fun h => hsub h) id
    rcases h token hmem with hstream | ⟨n, hn, rfl, hgone⟩
    · exact .inl hstream
    · refine .inr ⟨n, hn, rfl, fun other => ?_⟩
      split
      · simp
      · exact hgone other

theorem obey (h : crew.Tidy cancelled) (kept : crew.Kept moves) (hsub : crew.cancelled ⊆ cancelled) (e : RuntimeEvent) :
    (crew.obey e).1.Tidy ((crew.obey e).1.cancelled ++ cancelled) := by
  unfold Crew.obey
  split
  · exact h.subset (List.append_subset.mpr ⟨hsub, List.Subset.refl _⟩)
  · refine (h.start _).subset (List.append_subset.mpr ⟨?_, List.Subset.refl _⟩)
    rw [start_hub]
    exact hsub
  · exact h.dismiss kept hsub _

theorem dismissAll (h : crew.Tidy cancelled) (kept : crew.Kept moves) (hsub : crew.cancelled ⊆ cancelled) :
    crew.dismissAll.1.Tidy (crew.dismissAll.1.cancelled ++ cancelled) := by
  have hgone (n : Nat) (key : String) : crew.dismissAll.1.roster.entries[key]? ≠ some n := by
    simp [Crew.dismissAll, Roster.drain]
  have hold {token : Token} (hmem : token ∈ cancelled) : token <+: crew.token ∨
      ∃ n < crew.roster.nextNumber, token = crew.watcherToken n ∧
        ∀ key : String, crew.dismissAll.1.roster.entries[key]? ≠ some n := by
    rcases h token hmem with hstream | ⟨n, hn, rfl, -⟩
    · exact .inl hstream
    · exact .inr ⟨n, hn, rfl, hgone n⟩
  intro token hmem
  rcases List.mem_append.mp hmem with hnew | hmem
  · rcases mem_dismissAll.mp hnew with hmem | ⟨n, hn, rfl⟩
    · exact hold (hsub hmem)
    · obtain ⟨⟨key, _⟩, hentry, rfl⟩ := List.mem_map.mp hn
      obtain ⟨-, w, hw, rfl, -⟩ := kept.entered (Std.ExtTreeMap.mem_toList_iff_getElem?_eq_some.mp hentry)
      exact .inr ⟨w.number, kept.number_lt hw, rfl, hgone w.number⟩
  · exact hold hmem

theorem stepped (h : crew.Tidy cancelled) (ht : Turn runtime monitor crew w hub w')
    (hs : Stepped crew w hub w' crew') : crew'.Tidy cancelled := by
  refine h.mono (fun _ hmem => .inl hmem) (by rw [hs.hub, ht.tokens.1]) ?_ fun key n hentry => .inl ?_
  · rw [hs.roster]
    split
    · exact Nat.le_of_eq (Roster.nextNumber_release _ _ _).symm
    · exact Nat.le_refl _
  · rw [hs.entry] at hentry
    split at hentry
    · cases hentry
    · exact hentry

end Tidy

end Crew

namespace EventStream

variable {setup : StreamSetup σ τ} {s s' : EventStream σ τ} {new : List StreamMove} {moves : List CrewMove}
  {cancelled : Cancellations}

theorem tidy_finish (h : s.crew.Tidy cancelled) (hsub : s.crew.cancelled ⊆ cancelled) (result : Except StreamFault Unit) :
    (s.finish result).crew.Tidy ((s.finish result).crew.cancelled ++ cancelled) := by
  refine h.around (fun token hmem => ?_) rfl
  rcases List.mem_append.mp hmem with hnew | hold
  · rcases List.mem_cons.mp hnew with rfl | hold
    · exact .inr (List.prefix_refl _)
    · exact .inl (hsub hold)
  · exact .inl hold

/-- A turn cancels only the stream as a whole or a watcher that it takes out of the roster. -/
theorem Turned.tidy (h : Turned setup s s' new) (kept : s.crew.Kept moves) (tidy : s.crew.Tidy cancelled)
    (hsub : s.crew.cancelled ⊆ cancelled) : s'.crew.Tidy (s'.crew.cancelled ++ cancelled) := by
  have hsame : s.crew.cancelled ++ cancelled ⊆ cancelled := List.append_subset.mpr ⟨hsub, List.Subset.refl _⟩
  have quiet {hub : Hub σ} (htoken : hub.token = s.crew.token) (hcancelled : hub.cancelled = s.crew.cancelled) :
      Crew.Tidy (hub.cancelled ++ cancelled) { s.crew with toHub := hub } := by
    rw [hcancelled]
    exact (tidy.subset hsame).around (fun _ hmem => .inl hmem) htoken
  cases h with
  | shown => exact tidy.subset hsame
  | announced _ ho | unannounced ho | recorded _ ho | unrecorded _ ho =>
    obtain ⟨channel, rfl, -⟩ := Hub.offer_eq_some ho
    exact quiet rfl rfl
  | told hw hs | watched hw hs =>
    obtain ⟨hub, w', hturn, hstepped⟩ := Crew.stepWatcher_turn hs
    have hcancelled := hturn.tokens.2
    rw [← hstepped.hub] at hcancelled
    rw [hcancelled]
    exact (tidy.subset hsame).stepped hturn hstepped
  | @took host e _ _ _ _ hmeet =>
    obtain ⟨host', hkeeps⟩ := Forwarder.meet_keeps setup.runtime { s.crew with host } e
    rw [hmeet] at hkeeps
    obtain rfl := hkeeps
    have hseen : Crew.Tidy cancelled { s.crew with host } := tidy.around (fun _ hmem => .inl hmem) rfl
    have hkept : Crew.Kept { s.crew with host } (moves ++ [.around]) := kept.around _
    exact (hseen.obey hkept hsub e).around (fun _ hmem => .inl hmem) rfl
  | stopped | answered | counted | received => exact quiet rfl rfl
  | dismissed _ _ henrich =>
    obtain ⟨host, hkeeps⟩ := Forwarder.enrich_keeps setup.runtime s.crew _
    rw [henrich] at hkeeps
    obtain rfl := hkeeps
    exact quiet rfl rfl
  | sampled _ _ hturn =>
    obtain ⟨htoken, hcancelled⟩ := hturn.tokens
    exact quiet htoken hcancelled
  | joined hjoin =>
    cases hjoin with
    | feedFailed => exact tidy_finish tidy hsub _
    | samplingFailed =>
      have hseen : Crew.Tidy cancelled { s with samplerSeen := true }.crew := tidy
      exact tidy_finish hseen hsub _
    | feedEnded | samplingEnded => exact tidy.subset hsame
  | went hturn =>
    cases hturn with
    | unlisted host | unloaded host =>
      have hseen : Crew.Tidy cancelled { s with crew.host := host }.crew := tidy.around (fun _ hmem => .inl hmem) rfl
      exact tidy_finish hseen hsub _
    | @launched _ host containers =>
      have hseen : Crew.Tidy cancelled { s.crew with host } := tidy.around (fun _ hmem => .inl hmem) rfl
      have hstarted : (startWatchers { s.crew with host } containers).Tidy cancelled := hseen.starts _
      have hcancelled : (startWatchers { s.crew with host } containers).cancelled = s.crew.cancelled := by
        rw [startWatchers_hub]
      obtain ⟨host', announcer, -, ⟨fault, heq⟩ | ⟨phase, sampler, heq, -⟩⟩ :=
        launch_cases setup containers { s with crew.host := host }
      · rw [heq]
        refine tidy_finish (hstarted.around (fun _ hmem => .inl hmem) rfl) ?_ _
        exact hcancelled ▸ hsub
      · rw [heq]
        dsimp only
        rw [hcancelled]
        exact (hstarted.subset hsame).around (fun _ hmem => .inl hmem) rfl
    | unloading => exact quiet rfl rfl
    | dismissed => exact tidy.dismissAll kept hsub
    | closing => exact tidy.subset hsame
    | ended => exact tidy_finish tidy hsub _

/-- The channel is closed only with the stream. -/
theorem Turned.opened (h : Turned setup s s' new) :
    s'.crew.channel.isOpen = s.crew.channel.isOpen ∨ s'.crew.token ∈ s'.crew.cancelled := by
  cases h with
  | shown | stopped | answered => exact .inl rfl
  | announced _ ho | recorded _ ho =>
    obtain ⟨channel, rfl, -, hopen, hwas, -⟩ := Hub.offer_sent ho
    exact .inl (hopen.trans hwas.symm)
  | unannounced ho hpoll | unrecorded _ ho hpoll =>
    obtain ⟨channel, rfl, -, hopen⟩ := Hub.offer_unsent ho hpoll
    exact .inl hopen
  | told _ _ _ _ hwas hopen | counted _ _ _ hwas hopen => exact .inl (hopen.trans hwas.symm)
  | watched _ _ _ hopen | sampled _ _ _ _ hopen | received _ hopen => exact .inl hopen
  | @took host e _ _ _ _ hmeet =>
    have hchannel := Forwarder.meet_channel setup.runtime { s.crew with host } e
    rw [hmeet] at hchannel
    exact .inl (congrArg Channel.isOpen hchannel)
  | @dismissed _ e _ _ _ _ henrich =>
    have hchannel := Forwarder.enrich_channel setup.runtime s.crew e
    rw [henrich] at hchannel
    exact .inl (congrArg Channel.isOpen hchannel)
  | joined hjoin =>
    cases hjoin with
    | feedFailed | samplingFailed => exact .inr List.mem_cons_self
    | feedEnded | samplingEnded => exact .inl rfl
  | went hturn =>
    cases hturn with
    | unlisted | unloaded | ended => exact .inr List.mem_cons_self
    | @launched _ host containers =>
      have hchannel : (startWatchers { s.crew with host } containers).channel = s.crew.channel := by
        rw [startWatchers_hub]
      obtain ⟨host', announcer, -, ⟨fault, heq⟩ | ⟨phase, sampler, heq, -⟩⟩ :=
        launch_cases setup containers { s with crew.host := host }
      · rw [heq]
        exact .inr List.mem_cons_self
      · rw [heq]
        exact .inl (congrArg Channel.isOpen hchannel)
    | unloading | dismissed | closing => exact .inl rfl

end EventStream

namespace CrewPath

variable {crew crew' : Crew σ}

theorem token (path : CrewPath runtime monitor crew crew') : crew'.token = crew.token := by
  induction path with
  | refl => rfl
  | move _ _ htoken _ ih => exact htoken.trans ih

theorem options (path : CrewPath runtime monitor crew crew') : crew'.options = crew.options := by
  induction path with
  | refl => rfl
  | @move mid _ _ _ hstep _ _ ih =>
    refine Eq.trans ?_ ih
    cases hstep with
    | start c =>
      unfold Crew.start
      split <;> rfl
    | stop key =>
      unfold Crew.dismiss
      split <;> rfl
    | watcher _ hs =>
      obtain ⟨_, _, _, hstepped⟩ := Crew.stepWatcher_turn hs
      exact hstepped.options
    | shutdown | around => rfl

end CrewPath

namespace EventStream

variable {setup : StreamSetup σ τ} {s s' : EventStream σ τ} {new : List StreamMove}

/-- Obeying an event does not cancel the stream. -/
theorem isCancelled_obey (crew : Crew σ) (e : RuntimeEvent) (rest : Cancellations) :
    Cancellations.covers ((crew.obey e).1.cancelled ++ rest) (crew.obey e).1.token =
      Cancellations.covers (crew.cancelled ++ rest) crew.token := by
  unfold Crew.obey
  split
  · rfl
  · rw [Crew.start_hub]
  next key _ =>
    rw [crew.dismiss_cancelled, crew.dismiss_token, List.append_assoc, Cancellations.covers, List.any_append]
    cases crew.roster.entries[key]? with
    | none => rfl
    | some n =>
      have hnot : (crew.watcherToken n).isPrefixOf crew.token = false := by
        rw [Bool.eq_false_iff, ne_eq, List.isPrefixOf_iff_prefix]
        exact crew.not_watcherToken_prefix n
      simp [hnot, Cancellations.covers]

/-- A stream that goes on has gone on before, and its channel is still open if it was. -/
theorem Turned.live (h : Turned setup s s' new) (hroot : s'.crew.isCancelled s'.crew.token = false) :
    s.crew.isCancelled s.crew.token = false ∧ s'.crew.channel.isOpen = s.crew.channel.isOpen := by
  constructor
  · refine Bool.eq_false_iff.mpr fun hcovered => ?_
    rw [← h.path.token] at hcovered
    have hcancelled : s'.crew.isCancelled s'.crew.token := Cancellations.covers_mono h.path.cancelled_subset hcovered
    cases hroot.symm.trans hcancelled
  · refine h.opened.resolve_right fun hmem => ?_
    cases hroot.symm.trans (Cancellations.covers_of_mem hmem)

theorem cancelling_nil (s : EventStream σ τ) : s.cancelling [] = s := by
  rw [cancelling, List.append_nil]

theorem isCancelled_finish (s : EventStream σ τ) (result : Except StreamFault Unit) :
    (s.finish result).crew.isCancelled s.crew.token :=
  Cancellations.covers_of_mem List.mem_cons_self

/-- A stream begins with its end, if there is something against it, or it waits for the listing. -/
theorem start_eq (setup : StreamSetup σ τ) (host : Traced σ) (origin : Int) (cancelled : Cancellations) :
    (∃ fault, setup.fault? = some fault ∧
      start setup host origin cancelled = (fresh setup host origin cancelled).finish (.error fault)) ∨
    ∃ host' answerAt, start setup host origin cancelled =
      { fresh setup host origin cancelled with crew.host := host', phase := .listing answerAt } := by
  unfold start
  dsimp only
  split
  next fault hfault => exact .inl ⟨fault, hfault, rfl⟩
  next => exact .inr ⟨_, _, rfl⟩

end EventStream

/-- While a stream goes on, somebody receives. -/
theorem StreamRun.opened {setup : StreamSetup σ τ} {s : EventStream σ τ} {moves : List StreamMove}
    (run : StreamRun setup s moves) (hroot : s.crew.isCancelled s.crew.token = false) : s.crew.channel.isOpen := by
  induction run with
  | start host origin cancelled =>
    rcases EventStream.start_eq setup host origin cancelled with ⟨fault, -, heq⟩ | ⟨host', answerAt, heq⟩
    · rw [heq] at hroot
      cases (EventStream.isCancelled_finish _ _).symm.trans hroot
    · rw [heq]
      rfl
  | turn _ _ h ih =>
    obtain ⟨hlive, hopen⟩ := (EventStream.turned h).live hroot
    exact hopen.trans (ih hlive)
  | @unaware s s' _ _ _ _ h ih =>
    have hturned := EventStream.turned h
    have htoken : s'.crew.token = s.crew.token := hturned.path.token
    obtain ⟨hnext, hwas⟩ := Bool.or_eq_false_iff.mp ((Cancellations.covers_append _ _ _).symm.trans hroot)
    exact (hturned.live hnext).2.trans (ih (htoken ▸ hwas))
  | around _ _ _ _ ih => exact ih (Bool.or_eq_false_iff.mp ((Cancellations.covers_append _ _ _).symm.trans hroot)).2

end LabStream
