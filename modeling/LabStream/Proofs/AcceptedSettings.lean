import LabStream.CommandLine
import LabStream.Proofs.StreamPlay

namespace LabStream

variable {σ τ : Type} {runtime : ContainerRuntime σ} {monitor : LinkMonitor σ}

theorem Span.statsInterval_pos (d : Span) : 0 < d.statsInterval.nanos := by
  unfold statsInterval
  split
  · decide
  next hne => exact Nat.pos_of_ne_zero hne

theorem Span.samplingInterval_pos (d : Span) : 0 < d.samplingInterval.nanos := by
  unfold samplingInterval
  split
  · decide
  · exact Nat.lt_of_lt_of_le (by decide) (Nat.le_max_right _ nanosPerSecond)

namespace Ticker

theorem after_period (period : Span) (now : Nat) : (after period now).period = period.nanos := rfl

theorem fire_period (t : Ticker) (now : Nat) : (t.fire now).period = t.period := by
  obtain ⟨period, due⟩ := t
  change (fire ⟨period, due⟩ now).period = period
  rfl

end Ticker

namespace Watcher

variable {w : Watcher}

/-- Whether time passes between two ticks of a watcher's timer, if it has one. -/
def Paced (w : Watcher) : Prop := ∀ t, w.ticker = some t → 0 < t.period

theorem Paced.report (h : w.Paced) (options : WatchOptions) (reports : List LinkReport) (begins : Bool) (now : Nat)
    (instant : Instant) : (w.report options reports begins now instant).Paced := by
  intro t ht
  cases reports with
  | nil =>
    cases begins with
    | true =>
      obtain ⟨d, -, rfl⟩ := Option.map_eq_some_iff.mp ht
      rw [Ticker.after_period]
      exact d.statsInterval_pos
    | false => exact h t ht
  | cons => exact h t ht

theorem Paced.ticked (h : w.Paced) (now : Nat) : (w.ticked now).Paced := by
  intro t ht
  obtain ⟨before, hbefore, rfl⟩ := Option.map_eq_some_iff.mp ht
  rw [Ticker.fire_period]
  exact h before hbefore

end Watcher

namespace Crew

variable {crew crew' : Crew σ} {w w' : Watcher} {hub : Hub σ}

theorem Turn.paced (h : Turn runtime monitor crew w hub w') (hw : w.Paced) : w'.Paced := by
  cases h with
  | surveyed _ hmet =>
    subst hmet
    refine Watcher.Paced.report ?_ _ _ _ _ _
    exact hw
  | sent => exact hw.report _ _ _ _ _
  | read =>
    refine Watcher.Paced.report ?_ _ _ _ _ _
    exact hw.ticked _
  | learned =>
    refine Watcher.Paced.report ?_ _ _ _ _ _
    exact hw
  | unread => exact hw.ticked _
  | cancelled | resolved | unresolved | opened | unopened | blocked | refused | closed | released => exact hw

end Crew

theorem CrewRun.paced {crew : Crew σ} {moves : List CrewMove} (run : CrewRun runtime monitor crew moves) {w : Watcher}
    (hw : w ∈ crew.watchers) : w.Paced := by
  induction run generalizing w with
  | fresh _ hnone => simp [hnone] at hw
  | @move crew _ _ _ run hstep ih =>
    cases hstep with
    | start c =>
      by_cases ha : crew.roster.Admits c.identity
      · rw [Crew.start_admitted ha] at hw
        rcases List.mem_append.mp hw with hw | hw
        · exact ih hw
        · obtain rfl := List.mem_singleton.mp hw
          exact nofun
      · rw [Crew.start_refused ha] at hw
        exact ih hw
    | stop key =>
      rw [Crew.dismiss_watchers] at hw
      exact ih hw
    | shutdown => exact ih hw
    | watcher hwatcher hs =>
      obtain ⟨hub, w', hturn, hstepped⟩ := Crew.stepWatcher_turn hs
      have hmem := (Crew.mem_of_watcher? hwatcher).1
      rcases (hstepped.mem_watchers hturn.continues run.kept.nodup hmem).mp hw with rfl | ⟨hw, -⟩
      · exact hturn.paced (ih hmem)
      · exact ih hw
    | around hub => exact ih hw

/-- A sampler never changes the time between its ticks. -/
theorem Sampler.step_period {b : TrafficBackend σ τ} {hub hub' : Hub σ} {sampler sampler' : Sampler τ}
    (h : sampler.step b hub = some (hub', sampler')) : sampler'.ticker.period = sampler.ticker.period := by
  unfold step at h
  split at h
  · cases h
  · split at h
    · cases h
      rfl
    · split at h
      · cases h
      · dsimp only at h
        split at h <;> cases h <;> exact sampler.ticker.fire_period hub.now
  · cases h
    rfl
  · split at h <;> cases h <;> rfl
  · split at h <;> cases h <;> rfl

namespace EventStream

variable {setup : StreamSetup σ τ} {s s' : EventStream σ τ}

/-- Whether time passes between two samplings, if there are any. -/
def Paced (s : EventStream σ τ) : Prop := ∀ sampler, s.sampler = some sampler → 0 < sampler.ticker.period

theorem Paced.startSampler (h : s.Paced) (containers : List Container) : (startSampler setup containers s).Paced := by
  unfold EventStream.startSampler
  split
  · split
    · exact h
    · intro sampler hsampler
      obtain rfl := Option.some.inj hsampler
      rw [Sampler.start, Ticker.after_period]
      exact Span.samplingInterval_pos _
  · exact h

theorem Paced.launch (h : s.Paced) (containers : List Container) : (launch setup containers s).Paced := by
  unfold EventStream.launch
  dsimp only
  split
  · exact h
  · refine Paced.startSampler ?_ containers
    exact h

theorem Paced.joined (h : s.Paced) (hjoin : JoinTurn s s') : s'.Paced := by
  cases hjoin <;> exact h

theorem Paced.turn (h : s.Paced) {task : StreamTask} (hturn : s.turn setup task = some s') : s'.Paced := by
  cases task with
  | sampler =>
    obtain ⟨sampler, hsampler, hturn⟩ := Option.bind_eq_some_iff.mp hturn
    obtain ⟨b, -, hturn⟩ := Option.bind_eq_some_iff.mp hturn
    obtain ⟨⟨hub, sampler'⟩, hstep, heq⟩ := Option.bind_eq_some_iff.mp hturn
    obtain rfl := Option.some.inj heq
    intro later hlater
    obtain rfl := Option.some.inj hlater
    rw [Sampler.step_period hstep]
    exact h sampler hsampler
  | announcer =>
    obtain ⟨_, -, heq⟩ := Option.bind_eq_some_iff.mp hturn
    obtain rfl := Option.some.inj heq
    exact h
  | forwarder | watcher =>
    obtain ⟨_, -, hturn⟩ := Option.bind_eq_some_iff.mp hturn
    obtain ⟨_, -, heq⟩ := Option.bind_eq_some_iff.mp hturn
    obtain rfl := Option.some.inj heq
    exact h
  | receiver =>
    obtain ⟨-, hreceive⟩ := Option.ite_none_right_eq_some.mp hturn
    obtain ⟨host, channel, event, rfl, -⟩ := receive_eq hreceive
    exact h
  | joiner => exact h.joined (turn_joiner hturn).2
  | main =>
    obtain ⟨-, hmain⟩ := Option.ite_none_left_eq_some.mp hturn
    rcases stepMain_turn hmain with hmain | ⟨-, -, hreceive | hjoin⟩
    · cases hmain with
      | launched =>
        refine Paced.launch ?_ _
        exact h
      | unlisted | unloading | unloaded | dismissed | closing | ended => exact h
    · obtain ⟨host, channel, event, rfl, -⟩ := receive_eq hreceive
      exact h
    · exact h.joined (join_turn hjoin)

end EventStream

namespace StreamRun

variable {setup : StreamSetup σ τ} {s : EventStream σ τ} {moves : List StreamMove}

theorem paced (run : StreamRun setup s moves) : s.Paced := by
  induction run with
  | start host origin cancelled =>
    unfold EventStream.start
    dsimp only
    split <;> exact nofun
  | turn _ _ h ih => exact ih.turn h
  | @unaware s _ _ _ _ _ h ih =>
    have hunaware : s.unaware.Paced := ih
    have hnext := hunaware.turn h
    exact hnext
  | around _ _ _ _ ih => exact ih

end StreamRun

namespace Settings

variable {s t : Settings}

/-- What holds of settings that break no rule. -/
structure Sound (s : Settings) : Prop where
  labLabel : trimBlanks s.labLabel ≠ ""
  runtime : trimBlanks s.runtime ≠ ""
  format : LineFormat.ofName? s.format ≠ none
  capacity : 0 < s.capacity
  statsMillis : 0 < s.statsMillis
  timeoutSeconds : 0 < s.timeoutSeconds
  paths : s.traffic → s.bpffsRoot ≠ "" ∧ s.objectDir ≠ "" ∧ s.servicesFile ≠ ""

theorem sound_of_fault?_eq_none (h : s.fault? = none) : s.Sound := by
  unfold fault? at h
  split_ifs at h with hlabel hruntime hformat hcapacity hstats htimeout hroot hdir hservices
  refine ⟨?_, ?_, ?_, Nat.pos_of_ne_zero hcapacity, Nat.pos_of_ne_zero hstats, Nat.pos_of_ne_zero htimeout, ?_⟩
  · simpa using hlabel
  · simpa using hruntime
  · simpa using hformat
  · intro htraffic
    simp only [htraffic, true_and, String.isEmpty_iff] at hroot hdir hservices
    exact ⟨hroot, hdir, hservices⟩

theorem sound_of_validate (h : s.validate = .ok t) : t = s ∧ s.Sound := by
  unfold validate at h
  split at h
  · cases h
  next hnone => exact ⟨(Except.ok.inj h).symm, sound_of_fault?_eq_none hnone⟩

end Settings

namespace StreamSetup

variable {setup : StreamSetup σ τ} {s : Settings}

/-- With a runtime of the right name and a backend, sound settings can only ask for too much room. -/
theorem fault?_of_sound (hoptions : setup.options = s.options) (hsound : s.Sound)
    (hruntime : lowerAscii setup.runtime.name = lowerAscii s.runtime) (hbackend : setup.backend.isSome) :
    setup.fault? = if s.capacity < twoTo 61 then none else some .channelTooLarge := by
  have hformat : (LineFormat.ofName? setup.options.format).isNone = false := by
    rw [hoptions]
    exact Option.isNone_eq_false_iff.mpr (Option.isSome_iff_ne_none.mpr hsound.format)
  have hname : lowerAscii setup.runtime.name = lowerAscii setup.options.runtime := by
    rw [hoptions, hruntime]
    rfl
  have hpresent : setup.backend.isNone = false := Option.isNone_eq_false_iff.mpr hbackend
  have hcapacity : setup.options.capacity = s.capacity := by rw [hoptions]; rfl
  unfold fault?
  rw [if_neg (by simp [hformat]), if_neg (not_not.mpr hname), if_neg (by simp [hpresent]), hcapacity]
  by_cases hfits : s.capacity < twoTo 61
  · rw [if_pos hfits, if_neg (Nat.not_le.mpr hfits)]
  · rw [if_neg hfits, if_pos (Nat.not_lt.mp hfits)]

end StreamSetup

/-- A stream whose setup has a fault is over before it has asked for anything. -/
theorem EventStream.start_result? (setup : StreamSetup σ τ) (host : Traced σ) (origin : Int)
    (cancelled : Cancellations) :
    (start setup host origin cancelled).result? = setup.fault?.map .error := by
  unfold start
  dsimp only
  split
  next fault hfault =>
    rw [hfault]
    rfl
  next hnone =>
    rw [hnone]
    rfl

/-- Settings that were accepted can be streamed with, unless they ask for more room than a channel can have. -/
theorem CommandLine.settings_stream_iff {setup : StreamSetup σ τ} {line : CommandLine} {text : String} {s : Settings}
    (haccepted : line.settings (Settings.ofText text) = .ok s) (hoptions : setup.options = s.options)
    (hruntime : lowerAscii setup.runtime.name = lowerAscii s.runtime) (hbackend : setup.backend.isSome) :
    (∀ host origin cancelled, (EventStream.start setup host origin cancelled).result? =
      if s.capacity < twoTo 61 then none else some (.error .channelTooLarge)) ∧
    LineFormat.ofName? s.format ≠ none ∧
    0 < s.capacity ∧
    (∀ host origin cancelled,
      (EventStream.fresh setup host origin cancelled).crew.channel = .ofCapacity s.capacity) ∧
    (∀ st moves, StreamRun setup st moves → (∀ w ∈ st.crew.watchers, w.Paced) ∧ st.Paced) ∧
    ∀ file, Settings.ofText text = .ok file → file.traffic ∨ line.isSet .traffic →
      s.bpffsRoot ≠ "" ∧ s.objectDir ≠ "" ∧ s.servicesFile ≠ "" := by
  cases hfile : Settings.ofText text with
  | error fault =>
    rw [hfile] at haccepted
    cases haccepted
  | ok file =>
    rw [hfile] at haccepted
    obtain ⟨rfl, hsound⟩ := Settings.sound_of_validate (s := line.apply file) haccepted
    refine ⟨fun host origin cancelled => ?_, hsound.format, hsound.capacity, fun host origin cancelled => ?_,
      fun st moves run => ⟨?_, run.paced⟩, ?_⟩
    · rw [EventStream.start_result?, StreamSetup.fault?_of_sound hoptions hsound hruntime hbackend]
      split <;> rfl
    · have hcapacity : max setup.options.capacity 1 = (line.apply file).capacity := by
        rw [hoptions]
        exact Nat.max_eq_left hsound.capacity
      rw [EventStream.fresh, hcapacity]
    · obtain ⟨_, crewRun⟩ := run.crewRun
      exact fun w hw => crewRun.paced hw
    · rintro _ ⟨⟩ htraffic
      exact hsound.paths (by simpa [CommandLine.apply] using htraffic)

namespace ScriptedWorld

/-- A stream with some settings that can count traffic. -/
def counting (s : Settings) : StreamSetup ScriptedWorld String :=
  { StreamSetup.scripted s.options with backend := some backend }

def ofRoom (capacity : Nat) : Settings := { Settings.standard with capacity, traffic := true }

/-- A small channel, and traffic that only the command line asks for. -/
theorem settings_stream_of_flags : ∃ line text, CommandLine.parse ["--traffic", "-fplain"] = .ok line ∧
    line.settings (Settings.ofText text) = .ok (ofRoom 16) ∧
    (EventStream.start (counting (ofRoom 16)) (.start empty) 0 []).result? = none ∧
    ∀ st moves, StreamRun (counting (ofRoom 16)) st moves → st.Paced := by
  let text := "[stream]\nchannel_capacity = 16\n"
  have hparsed : CommandLine.parse ["--traffic", "-fplain"] = .ok [(.traffic, ""), (.format, "plain")] := by
    decide +kernel
  have haccepted : CommandLine.settings [(.traffic, ""), (.format, "plain")] (Settings.ofText text) =
      .ok (ofRoom 16) := by
    decide +kernel
  have hoptions : (counting (ofRoom 16)).options = (ofRoom 16).options := rfl
  obtain ⟨hresult, -, -, -, hpaced, -⟩ := CommandLine.settings_stream_iff haccepted hoptions rfl rfl
  have hfits : (ofRoom 16).capacity < twoTo 61 := by decide +kernel
  exact ⟨_, text, hparsed, haccepted, by rw [hresult, if_pos hfits], fun st moves run => (hpaced st moves run).2⟩

/-- Room for as many events as a channel can have and one more is accepted all the same. -/
theorem settings_not_stream_of_room : ∃ line text s, CommandLine.parse [] = .ok line ∧
    line.settings (Settings.ofText text) = .ok s ∧ (counting s).options = s.options ∧
    lowerAscii (counting s).runtime.name = lowerAscii s.runtime ∧ (counting s).backend.isSome ∧
    (EventStream.start (counting s) (.start empty) 0 []).result? = some (.error .channelTooLarge) := by
  refine ⟨[], "[stream]\nchannel_capacity = 2305843009213693952\n", { Settings.standard with capacity := twoTo 61 },
    rfl, ?_, rfl, rfl, rfl, ?_⟩
  · decide +kernel
  · decide +kernel

end ScriptedWorld

end LabStream
