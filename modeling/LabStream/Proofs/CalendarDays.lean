import Mathlib.Algebra.Ring.Nat
import LabStream.Calendar

namespace LabStream

def isLeapYear (year : Int) : Bool := year % 4 = 0 && (year % 100 ≠ 0 || year % 400 = 0)

def monthLengths (year : Int) : List Nat :=
  [31, if isLeapYear year then 29 else 28, 31, 30, 31, 30, 31, 31, 30, 31, 30, 31]

/-- Days from the first of January of year 1 to that of another year. -/
def daysBeforeYear (year : Int) : Int :=
  365 * (year - 1) + (year - 1) / 4 - (year - 1) / 100 + (year - 1) / 400

namespace Date

/-- The month and the day are those of the calendar. -/
def Valid (date : Date) : Prop :=
  1 ≤ date.month ∧ 1 ≤ date.day ∧ ∃ length ∈ (monthLengths date.year)[date.month - 1]?, date.day ≤ length

instance (date : Date) : Decidable date.Valid := by
  unfold Valid
  infer_instance

theorem Valid.bounds {date : Date} (h : date.Valid) : date.month ≤ 12 ∧ date.day ≤ 31 := by
  obtain ⟨hmonth, hday, length, hlength, hle⟩ := h
  have hlt := (List.getElem?_eq_some_iff.mp hlength).1
  have hlengths : ∀ l ∈ monthLengths date.year, l ≤ 31 := by
    unfold monthLengths
    cases isLeapYear date.year <;> decide
  have hlengthLe := hlengths length (List.mem_of_getElem? hlength)
  change date.month - 1 < 12 at hlt
  omega

/-- The days from the first of January 1970 to a date: those of the years, the months and the days before. -/
def toDay (date : Date) : Int :=
  daysBeforeYear date.year - daysBeforeYear 1970 +
    (((monthLengths date.year).take (date.month - 1)).sum + (date.day - 1) : Nat)

/-- A year of a cycle of 400, 100, 4 and 1 years. -/
theorem year_in_cycles (era : Int) {century cycle single : Nat} (hcentury : century ≤ 3) (hcycle : cycle ≤ 24)
    (hsingle : single ≤ 3) : ∃ year : Int, year = 400 * era + (100 * century + 4 * cycle + single : Nat) ∧
      year / 4 = 100 * era + 25 * century + cycle ∧ year / 100 = 4 * era + century ∧ year / 400 = era :=
  ⟨_, rfl, by omega, by omega, by omega⟩

/-- A year from March on, and the day of it: where the calendar's cycles put a day. -/
theorem ofDay_eq (day : Int) : ∃ (year : Int) (inYear : Nat),
    day + epochOffset = 365 * year + year / 4 - year / 100 + year / 400 + inYear ∧
    (inYear < 365 ∨ inYear = 365 ∧ isLeapYear (year + 1)) ∧
    ofDay day =
      if (5 * inYear + 2) / 153 < 10 then
        ⟨year, (5 * inYear + 2) / 153 + 3, inYear - (153 * ((5 * inYear + 2) / 153) + 2) / 5 + 1⟩
      else
        ⟨year + 1, (5 * inYear + 2) / 153 - 9, inYear - (153 * ((5 * inYear + 2) / 153) + 2) / 5 + 1⟩ := by
  refine ⟨_, _, and_assoc.mp ⟨?_, rfl⟩⟩
  generalize hera : (day + epochOffset) / 146097 = era
  generalize hinEra : ((day + epochOffset) % 146097).toNat = inEra
  have hday : day + epochOffset = 146097 * era + inEra := by omega
  have hlt : inEra < 146097 := by omega
  generalize hcentury : min (inEra / 36524) 3 = century
  generalize hinCentury : inEra - 36524 * century = inCentury
  have hinEra : inEra = 36524 * century + inCentury := by omega
  have hcenturyLe : century ≤ 3 := by omega
  have hinCenturyLt : inCentury < 36524 ∨ inCentury = 36524 ∧ century = 3 := by omega
  generalize hcycle : inCentury / 1461 = cycle
  generalize hinCycle : inCentury - 1461 * cycle = inCycle
  have hinCentury : inCentury = 1461 * cycle + inCycle := by omega
  have hcycleLe : cycle ≤ 24 := by omega
  have hinCycleLt : inCycle < 1461 := by omega
  generalize hsingle : min (inCycle / 365) 3 = single
  generalize hinYear : inCycle - 365 * single = inYear
  have hinCycle : inCycle = 365 * single + inYear := by omega
  have hsingleLe : single ≤ 3 := by omega
  obtain ⟨year, hyear, hyear4, hyear100, hyear400⟩ := year_in_cycles era hcenturyLe hcycleLe hsingleLe
  rw [← hyear]
  refine ⟨by omega, ?_⟩
  have hinYearLt : inYear < 365 ∨ inYear = 365 ∧ single = 3 := by omega
  rcases hinYearLt with hinYearLt | ⟨hinYearEq, rfl⟩
  · exact .inl hinYearLt
  · have hlast : cycle < 24 ∨ century = 3 ∧ cycle = 24 := by omega
    refine .inr ⟨hinYearEq, ?_⟩
    simp only [isLeapYear, Bool.and_eq_true, Bool.or_eq_true, decide_eq_true_iff]
    omega

/-- The months from March on, by the days before them. -/
theorem months_from_march (year : Int) {k : Nat} (hk : k < 10) :
    ((monthLengths year).take (k + 2)).sum = (if isLeapYear year then 60 else 59) + (153 * k + 2) / 5 ∧
      (monthLengths year)[k + 2]? = some ((153 * (k + 1) + 2) / 5 - (153 * k + 2) / 5) := by
  unfold monthLengths
  generalize isLeapYear year = leap
  revert k
  cases leap <;> decide

theorem valid_ofDay (day : Int) : (ofDay day).Valid := by
  obtain ⟨year, inYear, -, hlt, hdate⟩ := ofDay_eq day
  rw [hdate]
  have hle : inYear ≤ 365 := by omega
  generalize hk : (5 * inYear + 2) / 153 = k
  split
  next hten =>
    obtain ⟨-, hlength⟩ := months_from_march year hten
    exact ⟨by simp, by simp, _, hlength, by dsimp only; omega⟩
  next =>
    obtain rfl | rfl : k = 10 ∨ k = 11 := by omega
    · exact ⟨by simp, by simp, 31, rfl, by dsimp only; omega⟩
    · refine ⟨by simp, by simp, _, rfl, ?_⟩
      dsimp only
      rcases hlt with hlt | ⟨hlast, hleap⟩
      · split <;> omega
      · rw [if_pos hleap]
        omega

/-- A day is counted back from its date. -/
theorem toDay_ofDay (day : Int) : (ofDay day).toDay = day := by
  obtain ⟨year, inYear, hday, hlt, hdate⟩ := ofDay_eq day
  have hoffset : daysBeforeYear 1970 + 306 = epochOffset := rfl
  have hle : inYear ≤ 365 := by omega
  rw [hdate]
  generalize hk : (5 * inYear + 2) / 153 = k
  split
  next hten =>
    obtain ⟨hsum, -⟩ := months_from_march year hten
    have hmarch : daysBeforeYear year + (if isLeapYear year then 60 else 59 : Nat) + 306 =
        365 * year + year / 4 - year / 100 + year / 400 := by
      unfold daysBeforeYear isLeapYear
      simp only [Bool.and_eq_true, Bool.or_eq_true, decide_eq_true_iff]
      split <;> omega
    simp only [toDay, Nat.add_sub_cancel, show k + 3 - 1 = k + 2 from rfl, hsum]
    omega
  next =>
    have hjanuary : daysBeforeYear (year + 1) = 365 * year + year / 4 - year / 100 + year / 400 := by
      simp [daysBeforeYear]
    obtain rfl | rfl : k = 10 ∨ k = 11 := by omega
    · have hsum : ((monthLengths (year + 1)).take (10 - 9 - 1)).sum = 0 := rfl
      simp only [toDay, hjanuary, hsum]
      omega
    · have hsum : ((monthLengths (year + 1)).take (11 - 9 - 1)).sum = 31 := rfl
      simp only [toDay, hjanuary, hsum]
      omega

theorem sum_take_monthLengths_mono (year : Int) {m k : Nat} (h : m ≤ k) :
    ((monthLengths year).take m).sum ≤ ((monthLengths year).take k).sum := by
  obtain ⟨more, hmore⟩ := List.take_prefix_take_left (l := monthLengths year) h
  rw [← hmore, List.sum_append]
  exact Nat.le_add_right _ _

/-- A day of a month comes before the months after it. -/
theorem Valid.day_le_months {date : Date} (h : date.Valid) :
    ((monthLengths date.year).take (date.month - 1)).sum + date.day ≤ ((monthLengths date.year).take date.month).sum := by
  obtain ⟨hmonth, -, length, hlength, hle⟩ := h
  obtain ⟨hlt, hget⟩ := List.getElem?_eq_some_iff.mp hlength
  have htake := List.take_succ_eq_append_getElem hlt
  rw [Nat.sub_add_cancel hmonth, hget] at htake
  rw [htake, List.sum_append, List.sum_singleton]
  exact Nat.add_le_add_left hle _

theorem Valid.day_le_year {date : Date} (h : date.Valid) :
    ((monthLengths date.year).take (date.month - 1)).sum + date.day ≤ (monthLengths date.year).sum := by
  have hmonths := sum_take_monthLengths_mono date.year h.bounds.1
  have hall : (monthLengths date.year).take 12 = monthLengths date.year := rfl
  rw [hall] at hmonths
  exact Nat.le_trans h.day_le_months hmonths

theorem daysBeforeYear_succ (year : Int) :
    daysBeforeYear (year + 1) = daysBeforeYear year + (monthLengths year).sum := by
  unfold daysBeforeYear monthLengths isLeapYear
  simp only [List.sum_cons, List.sum_nil, Bool.and_eq_true, Bool.or_eq_true, decide_eq_true_iff]
  split <;> omega

theorem daysBeforeYear_mono {first second : Int} (h : first ≤ second) : daysBeforeYear first ≤ daysBeforeYear second := by
  unfold daysBeforeYear
  omega

/-- Dates come by year, month and day. -/
def Precedes (a b : Date) : Prop :=
  a.year < b.year ∨ a.year = b.year ∧ (a.month < b.month ∨ a.month = b.month ∧ a.day < b.day)

theorem toDay_lt_toDay {a b : Date} (ha : a.Valid) (hb : b.Valid) (h : a.Precedes b) : a.toDay < b.toDay := by
  have haday := ha.2.1
  have hbday := hb.2.1
  unfold toDay
  rcases h with hyear | ⟨hyear, hmonth | ⟨hmonth, hday⟩⟩
  · have hsucc := daysBeforeYear_succ a.year
    have hmono := daysBeforeYear_mono (Int.add_one_le_of_lt hyear)
    have hle := ha.day_le_year
    omega
  · have hmono := sum_take_monthLengths_mono a.year (Nat.le_sub_one_of_lt hmonth)
    have hle := ha.day_le_months
    rw [← hyear]
    omega
  · rw [hyear, hmonth]
    omega

theorem precedes_or_eq_or_precedes (a b : Date) : a.Precedes b ∨ a = b ∨ b.Precedes a := by
  obtain ⟨year, month, day⟩ := a
  obtain ⟨year', month', day'⟩ := b
  simp only [Precedes, Date.mk.injEq]
  omega

/-- Later days have later dates. -/
theorem precedes_ofDay {first second : Int} (h : first < second) : (ofDay first).Precedes (ofDay second) := by
  rcases precedes_or_eq_or_precedes (ofDay first) (ofDay second) with hlt | heq | hgt
  · exact hlt
  · have hday := congrArg toDay heq
    rw [toDay_ofDay, toDay_ofDay] at hday
    omega
  · have hday := toDay_lt_toDay (valid_ofDay second) (valid_ofDay first) hgt
    rw [toDay_ofDay, toDay_ofDay] at hday
    omega

end Date

end LabStream
