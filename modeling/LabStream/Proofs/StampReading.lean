import Std.Data.String.ToNat
import LabStream.Stamp
import LabStream.Proofs.CalendarDays
import LabStream.Proofs.Lists

namespace LabStream

/-- Takes a number of a fixed width off a text. -/
def takeNumber (width : Nat) (cs : List Char) : Option (Nat × List Char) :=
  if (cs.take width).length = width ∧ (cs.take width).all Char.isDigit then
    some (digitsValue (cs.take width), cs.drop width)
  else none

def takeMark (c : Char) (cs : List Char) : Option (List Char) :=
  if cs.head? = some c then some cs.tail else none

/-- A run of digits, of which there are at least so many. -/
def takeRun (width : Nat) (cs : List Char) : Option (List Char × List Char) :=
  let run := cs.takeWhile Char.isDigit
  if width ≤ run.length then some (run, cs.dropWhile Char.isDigit) else none

/-- Takes a year off a text: four digits, or a sign and at least four. -/
def takeYear : List Char → Option (Int × List Char)
  | '-' :: cs => do
    let (run, cs) ← takeRun 4 cs
    return (-digitsValue run, cs)
  | '+' :: cs => do
    let (run, cs) ← takeRun 4 cs
    return (digitsValue run, cs)
  | cs => do
    let (year, cs) ← takeNumber 4 cs
    return (year, cs)

/-- Takes the digits after a decimal point off a text, as nanoseconds; there may be none. -/
def takeNanos (cs : List Char) : Option (Nat × List Char) :=
  if cs.head? = some '.' then do
    let (run, cs) ← takeRun 1 cs.tail
    return (digitsValue (run.take 9) * tenTo (9 - run.length), cs)
  else some (0, cs)

namespace Instant

/-- The instant of a date of the calendar and a time of day; second 60 is a leap second. -/
def ofDate? (date : Date) (hour minute second nanos : Nat) : Option Instant :=
  let seconds := 86400 * date.toDay + (3600 * hour + 60 * minute + min second 59 : Nat)
  let nanos := nanos + if second = 60 then nanosPerSecond else 0
  if h : (nanos < 1000000000 ∨ (nanos < 2000000000 ∧ seconds % 60 = 59)) ∧
      date.Valid ∧ hour < 24 ∧ minute < 60 ∧ second ≤ 60 then
    some ⟨seconds, nanos, by omega⟩
  else none

/-- Leap seconds belong at the end of a minute. -/
def IsRegular (t : Instant) : Prop := t.nanos < 1000000000 ∨ t.seconds % 60 = 59

instance (t : Instant) : Decidable t.IsRegular := by
  unfold IsRegular; infer_instance

/-- The instant whose stamps an instant has: a leap second in the middle of a minute looks like the second after it. -/
def shown (t : Instant) : Instant :=
  if t.IsRegular then t else ⟨t.seconds + 1, t.nanos - 1000000000, by have := t.nanos_valid; omega⟩

/-- Reads a time of the calendar, in coordinated universal time. -/
def ofStamp? (stamp : String) : Option Instant := do
  let (year, cs) ← takeYear stamp.toList
  let (month, cs) ← takeNumber 2 (← takeMark '-' cs)
  let (day, cs) ← takeNumber 2 (← takeMark '-' cs)
  let (hour, cs) ← takeNumber 2 (← takeMark 'T' cs)
  let (minute, cs) ← takeNumber 2 (← takeMark ':' cs)
  let (second, cs) ← takeNumber 2 (← takeMark ':' cs)
  let (nanos, cs) ← takeNanos cs
  if cs = ['Z'] then ofDate? ⟨year, month, day⟩ hour minute second nanos else none

end Instant

theorem digitsValue_eq (cs : List Char) : digitsValue cs = Nat.ofDigitChars 10 cs 0 := by
  rw [Nat.ofDigitChars_eq_foldl]
  rfl

theorem isDigit_of_mem_toDigits {n : Nat} : ∀ c ∈ Nat.toDigits 10 n, c.isDigit :=
  fun _ => Nat.isDigit_of_mem_toDigits (by decide) (by decide)

theorem digitsValue_toDigits (n : Nat) : digitsValue (Nat.toDigits 10 n) = n := by
  rw [digitsValue_eq, Nat.ofDigitChars_ten_toDigits]

theorem toList_padded (width n : Nat) :
    (padded width n).toList = List.replicate (width - (Nat.toDigits 10 n).length) '0' ++ Nat.toDigits 10 n := by
  simp [padded]

theorem isDigit_of_mem_padded {width n : Nat} {c : Char} (h : c ∈ (padded width n).toList) : c.isDigit := by
  rw [toList_padded] at h
  rcases List.mem_append.mp h with h | h
  · rw [List.eq_of_mem_replicate h]
    rfl
  · exact isDigit_of_mem_toDigits c h

theorem digitsValue_padded (width n : Nat) : digitsValue (padded width n).toList = n := by
  rw [digitsValue_eq, toList_padded, Nat.ofDigitChars_append, Nat.ofDigitChars_replicate_zero, Nat.mul_zero,
    Nat.ofDigitChars_ten_toDigits]

theorem le_length_padded (width n : Nat) : width ≤ (padded width n).toList.length := by
  rw [toList_padded, List.length_append, List.length_replicate]
  omega

theorem length_padded {width n : Nat} (hwidth : 0 < width) (h : n < 10 ^ width) :
    (padded width n).toList.length = width := by
  have hle := (Nat.length_toDigits_le_iff (b := 10) (by decide) hwidth).mpr h
  rw [toList_padded, List.length_append, List.length_replicate]
  omega

theorem takeNumber_padded {width n : Nat} (hwidth : 0 < width) (h : n < 10 ^ width) (rest : List Char) :
    takeNumber width ((padded width n).toList ++ rest) = some (n, rest) := by
  have hlength := length_padded hwidth h
  have htake : ((padded width n).toList ++ rest).take width = (padded width n).toList := by
    simp [hlength]
  have hdrop : ((padded width n).toList ++ rest).drop width = rest := by
    simp [hlength]
  have hdigits : (padded width n).toList.all Char.isDigit :=
    List.all_eq_true.mpr fun c hc => isDigit_of_mem_padded hc
  rw [takeNumber, htake, hdrop, if_pos ⟨hlength, hdigits⟩, digitsValue_padded]

/-- A run of digits ends where no digit follows. -/
theorem takeRun_run {least : Nat} {run rest : List Char} (hlength : least ≤ run.length) (hrun : ∀ c ∈ run, c.isDigit)
    (hrest : ∀ c ∈ rest.head?, c.isDigit = false) : takeRun least (run ++ rest) = some (run, rest) := by
  simp only [takeRun, takeWhile_run hrun hrest, dropWhile_run hrun hrest, if_pos hlength]

theorem takeRun_padded {least width : Nat} (hle : least ≤ width) (n : Nat) (rest : List Char)
    (hrest : ∀ c ∈ rest.head?, c.isDigit = false) :
    takeRun least ((padded width n).toList ++ rest) = some ((padded width n).toList, rest) :=
  takeRun_run (Nat.le_trans hle (le_length_padded width n)) (fun _ hc => isDigit_of_mem_padded hc) hrest

theorem takeMark_cons (c : Char) (cs : List Char) : takeMark c (c :: cs) = some cs := by
  simp [takeMark]

theorem takeYear_yearText (year : Int) (rest : List Char) (hrest : ∀ c ∈ rest.head?, c.isDigit = false) :
    takeYear ((yearText year).toList ++ rest) = some (year, rest) := by
  unfold yearText
  split
  next hplain =>
    have hread := takeNumber_padded (by decide : 0 < 4) (by omega : year.toNat < 10 ^ 4) rest
    have hvalue : (year.toNat : Int) = year := by omega
    obtain ⟨c, cs, hcons⟩ : ∃ c cs, (padded 4 year.toNat).toList = c :: cs :=
      List.exists_cons_of_length_pos (Nat.lt_of_lt_of_le (by decide) (le_length_padded 4 year.toNat))
    have hdigit : c.isDigit := isDigit_of_mem_padded (hcons ▸ List.mem_cons_self)
    rw [hcons] at hread ⊢
    unfold takeYear
    split
    next heq =>
      rw [(List.cons.inj heq).1] at hdigit
      cases hdigit
    next heq =>
      rw [(List.cons.inj heq).1] at hdigit
      cases hdigit
    next =>
      rw [hread]
      simp [hvalue]
  next hsigned =>
    have hread := takeRun_padded (Nat.le_refl 4) year.natAbs rest hrest
    split
    · have hvalue : -(year.natAbs : Int) = year := by omega
      have htext : ("-" ++ padded 4 year.natAbs).toList = '-' :: (padded 4 year.natAbs).toList := by
        rw [String.toList_append]
        rfl
      simp only [htext, List.cons_append, takeYear, hread, bind, Option.bind, digitsValue_padded, hvalue]
      rfl
    · have hvalue : (year.natAbs : Int) = year := by omega
      have htext : ("+" ++ padded 4 year.natAbs).toList = '+' :: (padded 4 year.natAbs).toList := by
        rw [String.toList_append]
        rfl
      simp only [htext, List.cons_append, takeYear, hread, bind, Option.bind, digitsValue_padded, hvalue]
      rfl

theorem takeNanos_padded {width n : Nat} (hwidth : 0 < width) (hle : width ≤ 9) (h : n < 10 ^ width) :
    takeNanos ('.' :: ((padded width n).toList ++ ['Z'])) = some (n * tenTo (9 - width), ['Z']) := by
  have hrun := takeRun_padded (show 1 ≤ width from hwidth) n ['Z'] (by simp)
  have hlength := length_padded hwidth h
  have htake : (padded width n).toList.take 9 = (padded width n).toList := List.take_of_length_le (by omega)
  simp [takeNanos, hrun, htake, digitsValue_padded, hlength]

namespace Instant

theorem shown_eq_self_iff {t : Instant} : t.shown = t ↔ t.IsRegular := by
  unfold shown
  split
  next h => exact iff_of_true rfl h
  next h =>
    refine iff_of_false (fun heq => ?_) h
    have hseconds : t.seconds + 1 = t.seconds := congrArg seconds heq
    omega

theorem isRegular_shown (t : Instant) : t.shown.IsRegular := by
  have hvalid := t.nanos_valid
  unfold shown
  split
  next h => exact h
  next => exact .inl (by dsimp only; omega)

theorem date_shown (t : Instant) : t.shown.date = t.date := by
  unfold shown
  split
  next => rfl
  next h =>
    have hday : (t.seconds + 1) / 86400 = t.seconds / 86400 := by
      unfold IsRegular at h
      omega
    simp only [date, hday]

theorem fraction_shown (t : Instant) : t.shown.fraction = t.fraction := by
  unfold shown
  split
  next => rfl
  next h =>
    simp only [fraction]
    unfold IsRegular at h
    omega

theorem stampHead_shown (t : Instant) : t.shown.stampHead = t.stampHead := by
  have hvalid := t.nanos_valid
  have hdate := t.date_shown
  by_cases h : t.IsRegular
  · rw [shown, if_pos h]
  · rw [shown, if_neg h] at hdate ⊢
    have hcolumns : ((t.seconds + 1) % 86400).toNat / 3600 = (t.seconds % 86400).toNat / 3600 ∧
        ((t.seconds + 1) % 86400).toNat / 60 % 60 = (t.seconds % 86400).toNat / 60 % 60 ∧
        ((t.seconds + 1) % 86400).toNat % 60 + (t.nanos - 1000000000) / 1000000000 =
          (t.seconds % 86400).toNat % 60 + t.nanos / 1000000000 := by
      unfold IsRegular at h
      omega
    simp only [stampHead, hdate, secondOfDay, hcolumns]

theorem fullStamp_shown (t : Instant) : t.shown.fullStamp = t.fullStamp := by
  rw [fullStamp, stampHead_shown, fraction_shown, fullStamp]

theorem briefStamp_shown (t : Instant) : t.shown.briefStamp = t.briefStamp := by
  rw [briefStamp, stampHead_shown, fraction_shown, briefStamp]

/-- A regular instant is made again from its date and its time of day, a leap second too. -/
theorem ofDate?_date {t : Instant} (hregular : t.IsRegular) : ofDate? t.date (t.secondOfDay / 3600)
    (t.secondOfDay / 60 % 60) (t.secondOfDay % 60 + t.nanos / 1000000000) t.fraction = some t := by
  obtain ⟨seconds, nanos, hbound⟩ := t
  have hvalid : nanos < 1000000000 ∨ (nanos < 2000000000 ∧ seconds % 60 = 59) :=
    hregular.imp_right fun hleap => ⟨hbound, hleap⟩
  have hday := Date.toDay_ofDay (seconds / 86400)
  have hdate := Date.valid_ofDay (seconds / 86400)
  have hleap : nanos / 1000000000 = 0 ∨ nanos / 1000000000 = 1 ∧ seconds % 60 = 59 := by omega
  generalize hs : (seconds % 86400).toNat = s
  have hseconds : 86400 * (seconds / 86400) +
      (3600 * (s / 3600) + 60 * (s / 60 % 60) + min (s % 60 + nanos / 1000000000) 59 : Nat) = seconds := by
    have hsum : seconds = 86400 * (seconds / 86400) + s := by omega
    omega
  have hnanos : (nanos % 1000000000 + if s % 60 + nanos / 1000000000 = 60 then 1000000000 else 0) = nanos := by
    split <;> omega
  simp only [ofDate?, date, secondOfDay, fraction, hday, nanosPerSecond, hs, hseconds, hnanos]
  rw [dif_pos ⟨hvalid, hdate, by omega, by omega, by omega⟩]

theorem ofStamp?_stampHead (t : Instant) (tail : List Char) (hnanos : takeNanos tail = some (t.fraction, ['Z'])) :
    ofStamp? (t.stampHead ++ String.ofList tail) = some t.shown := by
  rw [← stampHead_shown]
  rw [← fraction_shown] at hnanos
  have hregular := t.isRegular_shown
  generalize t.shown = t at hnanos hregular ⊢
  obtain ⟨hmonthLe, hdayLe⟩ := (Date.valid_ofDay (t.seconds / 86400)).bounds
  have hmonth : t.date.month < 10 ^ 2 := Nat.lt_of_le_of_lt hmonthLe (by decide)
  have hday : t.date.day < 10 ^ 2 := Nat.lt_of_le_of_lt hdayLe (by decide)
  have htime : t.secondOfDay < 86400 := by
    unfold secondOfDay
    omega
  have hhour : t.secondOfDay / 3600 < 10 ^ 2 := by omega
  have hminute : t.secondOfDay / 60 % 60 < 10 ^ 2 := by omega
  have hsecond : t.secondOfDay % 60 + t.nanos / 1000000000 < 10 ^ 2 := by
    have hvalid := t.nanos_valid
    omega
  have hyear := takeYear_yearText t.date.year ('-' :: ((padded 2 t.date.month).toList ++
    '-' :: ((padded 2 t.date.day).toList ++ 'T' :: ((padded 2 (t.secondOfDay / 3600)).toList ++
    ':' :: ((padded 2 (t.secondOfDay / 60 % 60)).toList ++
    ':' :: ((padded 2 (t.secondOfDay % 60 + t.nanos / 1000000000)).toList ++ tail)))))) (by simp)
  have htext : (t.stampHead ++ String.ofList tail).toList = (yearText t.date.year).toList ++
      '-' :: ((padded 2 t.date.month).toList ++ '-' :: ((padded 2 t.date.day).toList ++
      'T' :: ((padded 2 (t.secondOfDay / 3600)).toList ++
      ':' :: ((padded 2 (t.secondOfDay / 60 % 60)).toList ++
      ':' :: ((padded 2 (t.secondOfDay % 60 + t.nanos / 1000000000)).toList ++ tail))))) := by
    simp [stampHead]
  simp only [ofStamp?, htext, hyear, bind, Option.bind, takeMark_cons, takeNumber_padded (by decide : 0 < 2),
    hmonth, hday, hhour, hminute, hsecond, hnanos, if_true]
  exact ofDate?_date hregular

theorem ofStamp?_fraction (t : Instant) {width n : Nat} (hwidth : 0 < width) (hle : width ≤ 9)
    (hn : n < 10 ^ width) (hfraction : n * tenTo (9 - width) = t.fraction) :
    ofStamp? (t.stampHead ++ ("." ++ (padded width n ++ "Z"))) = some t.shown := by
  have hnanos := takeNanos_padded hwidth hle hn
  rw [hfraction] at hnanos
  have htail : "." ++ (padded width n ++ "Z") = String.ofList ('.' :: ((padded width n).toList ++ ['Z'])) := by
    rw [← String.toList_inj]
    simp
  rw [htail]
  exact t.ofStamp?_stampHead _ hnanos

/-- No digit of an instant is lost in its brief stamp. -/
theorem ofStamp?_briefStamp (t : Instant) : ofStamp? t.briefStamp = some t.shown := by
  have hlt : t.fraction < 1000000000 := Nat.mod_lt _ (by decide)
  unfold briefStamp
  dsimp only
  split
  next hzero =>
    rw [String.append_empty]
    exact t.ofStamp?_stampHead ['Z'] (by simp [takeNanos, hzero])
  next =>
    rw [String.append_assoc]
    split
    next =>
      rw [String.append_assoc]
      exact t.ofStamp?_fraction (by decide) (by decide) (by omega) (by simp [tenTo]; omega)
    next =>
      split
      next =>
        rw [String.append_assoc]
        exact t.ofStamp?_fraction (by decide) (by decide) (by omega) (by simp [tenTo]; omega)
      next =>
        rw [String.append_assoc]
        exact t.ofStamp?_fraction (by decide) (by decide) (by omega) (by simp [tenTo])

/-- No digit of an instant is lost in its full stamp. -/
theorem ofStamp?_fullStamp (t : Instant) : ofStamp? t.fullStamp = some t.shown := by
  have hlt : t.fraction < 1000000000 := Nat.mod_lt _ (by decide)
  unfold fullStamp
  rw [String.append_assoc, String.append_assoc]
  exact t.ofStamp?_fraction (by decide) (by decide) (by omega) (by simp [tenTo])

end Instant

/-- A text of digits and marks. -/
def Numeric (marks : List Char) (s : String) : Prop := ∀ c ∈ s.toList, c.isDigit ∨ c ∈ marks

instance (marks : List Char) (s : String) : Decidable (Numeric marks s) :=
  List.decidableBAll (fun c : Char => c.isDigit = true ∨ c ∈ marks) s.toList

theorem numeric_append {marks : List Char} {s t : String} :
    Numeric marks (s ++ t) ↔ Numeric marks s ∧ Numeric marks t := by
  simp only [Numeric, String.toList_append, List.forall_mem_append]

theorem numeric_padded (marks : List Char) (width n : Nat) : Numeric marks (padded width n) :=
  fun _ h => .inl (isDigit_of_mem_padded h)

theorem Numeric.mono {few many : List Char} {s : String} (h : Numeric few s) (hsub : few ⊆ many) : Numeric many s :=
  fun c hc => (h c hc).imp_right fun hmem => hsub hmem

theorem numeric_yearText (year : Int) : Numeric ['-', '+'] (yearText year) := by
  unfold yearText
  split
  · exact numeric_padded _ _ _
  · refine numeric_append.mpr ⟨?_, numeric_padded _ _ _⟩
    split <;> decide

namespace Instant

theorem numeric_stampHead (t : Instant) : Numeric ['-', '+', 'T', ':'] t.stampHead := by
  have hyear : Numeric ['-', '+', 'T', ':'] (yearText t.date.year) := (numeric_yearText _).mono (by decide)
  have hdash : Numeric ['-', '+', 'T', ':'] "-" := by decide
  have htime : Numeric ['-', '+', 'T', ':'] "T" := by decide
  have hcolon : Numeric ['-', '+', 'T', ':'] ":" := by decide
  simp only [stampHead, numeric_append, numeric_padded, hyear, hdash, htime, hcolon, and_self]

theorem numeric_fullStamp (t : Instant) : Numeric ['-', '+', 'T', ':', '.', 'Z'] t.fullStamp := by
  have hhead : Numeric ['-', '+', 'T', ':', '.', 'Z'] t.stampHead := t.numeric_stampHead.mono (by decide)
  have hpoint : Numeric ['-', '+', 'T', ':', '.', 'Z'] "." := by decide
  have hzone : Numeric ['-', '+', 'T', ':', '.', 'Z'] "Z" := by decide
  simp only [fullStamp, numeric_append, numeric_padded, hhead, hpoint, hzone, and_self]

end Instant

end LabStream
