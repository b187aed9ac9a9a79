import LabStream.Proofs.Baselines

namespace LabStream

/-- What is done to the readings of interfaces. -/
inductive ReadingStep where
  | observe (index : Nat) (current : LinkCounters) (now : Nat)
  | rebase (index : Nat) (counters : Option LinkCounters) (now : Nat)
  | forget (index : Nat)
  deriving DecidableEq

namespace ReadingStep

def index : ReadingStep → Nat
  | observe index _ _ | rebase index _ _ | forget index => index

/-- The reading that a step leaves of its interface. -/
def baseline? : ReadingStep → Option (LinkCounters × Nat)
  | observe _ current now => some (current, now)
  | rebase _ counters now => counters.map (·, now)
  | forget _ => none

def perform (readings : LinkReadings) : ReadingStep → LinkReadings × Option LinkMetrics
  | observe index current now => readings.observe index current now
  | rebase index counters now => (readings.rebase index counters now, none)
  | forget index => (readings.erase index, none)

theorem baseline?_eq_some_iff {step : ReadingStep} {index time : Nat} {counters : LinkCounters} :
    step.index = index ∧ step.baseline? = some (counters, time) ↔
      step = .observe index counters time ∨ step = .rebase index (some counters) time := by
  cases step with
  | observe => simp [ReadingStep.index, baseline?]
  | rebase other kept => cases kept <;> simp [ReadingStep.index, baseline?]
  | forget => simp [baseline?]

/-- A step decides over its own interface and touches no other. -/
theorem getElem?_perform (step : ReadingStep) (readings : LinkReadings) (index : Nat) :
    (step.perform readings).1[index]? = if step.index = index then step.baseline? else readings[index]? := by
  cases step with
  | observe other current now => exact readings.getElem?_rebase other (some current) now index
  | rebase other counters now => exact readings.getElem?_rebase other counters now index
  | forget other => exact readings.getElem?_rebase other none 0 index

end ReadingStep

namespace LinkReadings

/-- The answers to some steps, one for each. -/
def answersFrom (readings : LinkReadings) : List ReadingStep → List (Option LinkMetrics)
  | [] => []
  | step :: rest => (step.perform readings).2 :: answersFrom (step.perform readings).1 rest

def answers (steps : List ReadingStep) : List (Option LinkMetrics) := answersFrom ∅ steps

def after (steps : List ReadingStep) : LinkReadings :=
  steps.foldl (fun readings step => (step.perform readings).1) ∅

theorem getElem?_answers (before after : List ReadingStep) (step : ReadingStep) :
    (answers (before ++ step :: after))[before.length]? = some (step.perform (.after before)).2 := by
  have hfrom (readings : LinkReadings) : (readings.answersFrom (before ++ step :: after))[before.length]? =
      some (step.perform (before.foldl (fun readings step => (step.perform readings).1) readings)).2 := by
    induction before generalizing readings with
    | nil => rfl
    | cons first before ih => exact ih (first.perform readings).1
  exact hfrom ∅

/-- The last step on an interface decides over its baseline. -/
theorem getElem?_after (steps : List ReadingStep) (index : Nat) :
    (after steps)[index]? = (steps.filter (·.index = index)).getLast?.bind ReadingStep.baseline? := by
  induction steps using List.reverseRecOn with
  | nil => simp [after]
  | append_singleton steps step ih =>
    rw [after, List.foldl_append, List.foldl_cons, List.foldl_nil, ReadingStep.getElem?_perform, ← after, ih]
    by_cases hs : step.index = index <;> simp [hs]

theorem getElem?_after_eq_some_iff {steps : List ReadingStep} {index time : Nat} {counters : LinkCounters} :
    (after steps)[index]? = some (counters, time) ↔ ∃ early step late, steps = early ++ step :: late ∧
      (step = .observe index counters time ∨ step = .rebase index (some counters) time) ∧
      ∀ later ∈ late, later.index ≠ index := by
  rw [getElem?_after]
  constructor
  · intro h
    rcases last_of_kind (fun step : ReadingStep => step.index = index) steps with
      hnone | ⟨early, step, late, rfl, hstep, hlate⟩
    · have hempty : steps.filter (·.index = index) = [] := by simpa using hnone
      simp [hempty] at h
    · have hquiet : late.filter (·.index = index) = [] := by simpa using hlate
      have hbase : step.baseline? = some (counters, time) := by simpa [hstep, hquiet] using h
      exact ⟨early, step, late, rfl, ReadingStep.baseline?_eq_some_iff.mp ⟨hstep, hbase⟩, hlate⟩
  · rintro ⟨early, step, late, rfl, hstep, hlate⟩
    obtain ⟨hindex, hbase⟩ := ReadingStep.baseline?_eq_some_iff.mpr hstep
    have hquiet : late.filter (·.index = index) = [] := by simpa using hlate
    simp [hindex, hbase, hquiet]

theorem observe_eq_some_iff {readings : LinkReadings} {index now : Nat} {current : LinkCounters} {m : LinkMetrics} :
    (readings.observe index current now).2 = some m ↔ ∃ previous time,
      readings[index]? = some (previous, time) ∧ time < now ∧ m = .between previous current ⟨now - time⟩ := by
  refine ⟨observe_metrics, ?_⟩
  rintro ⟨previous, time, hr, hlt, rfl⟩
  simp [observe, hr, hlt]

/-- Whatever was done before and is done later, an observation has metrics just if the last earlier step on its
interface left counters at an earlier time. The metrics are those between these counters and the observed ones.
Steps on other interfaces have no say in it, and what is observed is the next baseline, with or without metrics. -/
theorem answer_of_history (before later : List ReadingStep) (index : Nat) (current : LinkCounters) (now : Nat) :
    ∃ answer, (answers (before ++ .observe index current now :: later))[before.length]? = some answer ∧
      (∀ m, answer = some m ↔ ∃ early step late previous time, before = early ++ step :: late ∧
        (step = .observe index previous time ∨ step = .rebase index (some previous) time) ∧
        (∀ other ∈ late, other.index ≠ index) ∧ time < now ∧
        m = { current
              interval := ⟨now - time⟩
              rxBits := bitsPerSecond (counterGrowth previous.rxBytes current.rxBytes) ⟨now - time⟩
              txBits := bitsPerSecond (counterGrowth previous.txBytes current.txBytes) ⟨now - time⟩
              rxPackets := perSecond (counterGrowth previous.rxPackets current.rxPackets) ⟨now - time⟩
              txPackets := perSecond (counterGrowth previous.txPackets current.txPackets) ⟨now - time⟩ }) ∧
      (∀ before' later', before'.filter (·.index = index) = before.filter (·.index = index) →
        (answers (before' ++ .observe index current now :: later'))[before'.length]? = some answer) ∧
      ∀ between next now' later', (∀ other ∈ between, other.index ≠ index) →
        (answers (before ++ .observe index current now :: between ++ .observe index next now' :: later'))[
          before.length + 1 + between.length]? =
          some (if now < now' then some (.between current next ⟨now' - now⟩) else none) := by
  refine ⟨_, getElem?_answers before later _, fun m => ?_, fun before' later' hsame => ?_,
    fun between next now' later' hbetween => ?_⟩
  · rw [ReadingStep.perform, observe_eq_some_iff]
    constructor
    · rintro ⟨previous, time, hr, hlt, rfl⟩
      obtain ⟨early, step, late, hbefore, hstep, hlate⟩ := getElem?_after_eq_some_iff.mp hr
      exact ⟨early, step, late, previous, time, hbefore, hstep, hlate, hlt, rfl⟩
    · rintro ⟨early, step, late, previous, time, hbefore, hstep, hlate, hlt, rfl⟩
      exact ⟨previous, time, getElem?_after_eq_some_iff.mpr ⟨early, step, late, hbefore, hstep, hlate⟩, hlt, rfl⟩
  · have hread : (after before')[index]? = (after before)[index]? := by rw [getElem?_after, getElem?_after, hsame]
    rw [getElem?_answers, ReadingStep.perform, ReadingStep.perform, observe, observe, hread]
  · have hread : (after (before ++ .observe index current now :: between))[index]? = some (current, now) :=
      getElem?_after_eq_some_iff.mpr ⟨before, _, between, rfl, .inl rfl, hbetween⟩
    have hlength : (before ++ .observe index current now :: between).length = before.length + 1 + between.length := by
      simp only [List.length_append, List.length_cons]
      omega
    rw [← hlength, getElem?_answers, ReadingStep.perform, observe, hread]

/-- The readings before a rebase and those of another interface do not count. -/
theorem answer_of_history_after_rebase :
    (answers [.observe 3 ⟨900, 0, 9, 0⟩ 5, .rebase 3 (some ⟨100, 0, 1, 0⟩) 7, .observe 4 ⟨50, 0, 5, 0⟩ 8,
        .observe 3 ⟨500, 0, 3, 0⟩ 9])[3]? =
      some (some (.between ⟨100, 0, 1, 0⟩ ⟨500, 0, 3, 0⟩ ⟨2⟩)) := by
  obtain ⟨answer, hanswer, hmetrics, -⟩ := answer_of_history
    [.observe 3 ⟨900, 0, 9, 0⟩ 5, .rebase 3 (some ⟨100, 0, 1, 0⟩) 7, .observe 4 ⟨50, 0, 5, 0⟩ 8] []
    3 ⟨500, 0, 3, 0⟩ 9
  have hmeasured : answer = some (.between ⟨100, 0, 1, 0⟩ ⟨500, 0, 3, 0⟩ ⟨2⟩) :=
    (hmetrics _).mpr ⟨[.observe 3 ⟨900, 0, 9, 0⟩ 5], .rebase 3 (some ⟨100, 0, 1, 0⟩) 7, [.observe 4 ⟨50, 0, 5, 0⟩ 8],
      ⟨100, 0, 1, 0⟩, 7, rfl, .inr rfl, by simp [ReadingStep.index], by decide, rfl⟩
  rw [← hmeasured]
  exact hanswer

end LinkReadings

end LabStream
