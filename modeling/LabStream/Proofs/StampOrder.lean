import LabStream.Proofs.StampReading

namespace LabStream

theorem digitsValue_cons (c : Char) (cs : List Char) :
    digitsValue (c :: cs) = 10 ^ cs.length * digitValue c + digitsValue cs := by
  rw [digitsValue_eq, digitsValue_eq, Nat.ofDigitChars_cons, Nat.ofDigitChars_eq_ofDigitChars_zero, Nat.mul_zero,
    Nat.zero_add]
  rfl

theorem digitValue_bounds {c : Char} (h : c.isDigit) : c.toNat = 48 + digitValue c ∧ digitValue c ≤ 9 := by
  obtain ⟨hlow, hhigh⟩ := Char.isDigit_iff_toNat.mp h
  change 48 ≤ c.toNat at hlow
  change c.toNat ≤ 57 at hhigh
  change c.toNat = 48 + (c.toNat - 48) ∧ c.toNat - 48 ≤ 9
  omega

theorem digitsValue_lt_pow {cs : List Char} (h : ∀ c ∈ cs, c.isDigit) : digitsValue cs < 10 ^ cs.length := by
  induction cs with
  | nil => decide
  | cons c cs ih =>
    have hrest := ih fun d hd => h d (List.mem_cons_of_mem c hd)
    have hmul := Nat.mul_le_mul_left (10 ^ cs.length) (digitValue_bounds (h c List.mem_cons_self)).2
    rw [digitsValue_cons, List.length_cons, Nat.pow_succ]
    omega

/-- Texts of equally many digits compare as their numbers. -/
theorem digitsValue_lt_digitsValue {xs ys : List Char} (hlength : xs.length = ys.length)
    (hx : ∀ c ∈ xs, c.isDigit) (hy : ∀ c ∈ ys, c.isDigit) (h : xs < ys) : digitsValue xs < digitsValue ys := by
  induction xs generalizing ys with
  | nil =>
    obtain rfl : ys = [] := List.length_eq_zero_iff.mp hlength.symm
    cases h
  | cons x xs ih =>
    cases ys with
    | nil => cases h
    | cons y ys =>
      have hrest : xs.length = ys.length := Nat.succ.inj hlength
      have hxs := fun c hc => hx c (List.mem_cons_of_mem x hc)
      have hys := fun c hc => hy c (List.mem_cons_of_mem y hc)
      rw [digitsValue_cons, digitsValue_cons, hrest]
      rcases List.cons_lt_cons_iff.mp h with hlt | ⟨rfl, hlt⟩
      · have hbound := digitsValue_lt_pow hxs
        have hxdigit := (digitValue_bounds (hx x List.mem_cons_self)).1
        have hydigit := (digitValue_bounds (hy y List.mem_cons_self)).1
        have hnat : x.toNat < y.toNat := hlt
        have hmul : 10 ^ ys.length * (digitValue x + 1) ≤ 10 ^ ys.length * digitValue y :=
          Nat.mul_le_mul_left _ (by omega)
        rw [hrest] at hbound
        rw [Nat.mul_add] at hmul
        omega
      · exact Nat.add_lt_add_left (ih hrest hxs hys hlt) _

theorem padded_lt_padded {width n m : Nat} (hwidth : 0 < width) (hm : m < 10 ^ width) (h : n < m) :
    (padded width n).toList < (padded width m).toList := by
  have hlength := length_padded hwidth (Nat.lt_trans h hm)
  have hlength' := length_padded hwidth hm
  refine Decidable.by_contra fun hnot => ?_
  rcases List.le_iff_lt_or_eq.mp (List.not_lt.mp hnot) with hgt | heq
  · have hvalue := digitsValue_lt_digitsValue (hlength'.trans hlength.symm) (fun _ => isDigit_of_mem_padded)
      (fun _ => isDigit_of_mem_padded) hgt
    rw [digitsValue_padded, digitsValue_padded] at hvalue
    omega
  · have hvalue := congrArg digitsValue heq
    rw [digitsValue_padded, digitsValue_padded] at hvalue
    omega

theorem append_lt_append {α : Type} [LT α] {xs ys : List α} (hlength : xs.length = ys.length) (h : xs < ys)
    (us vs : List α) : xs ++ us < ys ++ vs := by
  induction xs generalizing ys with
  | nil =>
    obtain rfl : ys = [] := List.length_eq_zero_iff.mp hlength.symm
    cases h
  | cons x xs ih =>
    cases ys with
    | nil => cases h
    | cons y ys =>
      refine List.cons_lt_cons_iff.mpr ?_
      rcases List.cons_lt_cons_iff.mp h with hlt | ⟨rfl, hlt⟩
      · exact .inl hlt
      · exact .inr ⟨rfl, ih (Nat.succ.inj hlength) hlt⟩

/-- The first column of two texts that differ in it decides, all others only when it is the same. -/
theorem padded_column_lt {width n m : Nat} (hwidth : 0 < width) (hn : n < 10 ^ width) (hm : m < 10 ^ width)
    (mark : Char) {us vs : List Char} (h : n < m ∨ n = m ∧ us < vs) :
    (padded width n).toList ++ mark :: us < (padded width m).toList ++ mark :: vs := by
  rcases h with hlt | ⟨rfl, hlt⟩
  · have hlength := (length_padded hwidth hn).trans (length_padded hwidth hm).symm
    exact append_lt_append hlength (padded_lt_padded hwidth hm hlt) _ _
  · exact List.append_left_lt (List.cons_lt_cons_iff.mpr (.inr ⟨rfl, hlt⟩))

/-- The bytes of a text in UTF-8. -/
def textBytes (s : String) : List UInt8 := s.toUTF8.data.toList

theorem textBytes_eq_flatMap (s : String) : textBytes s = s.toList.flatMap String.utf8EncodeChar := by
  have hbytes := String.toByteArray_ofList (l := s.toList)
  rw [String.ofList_toList] at hbytes
  rw [textBytes, String.toUTF8, hbytes, List.utf8Encode, List.toList_data_toByteArray]

/-- Texts of ASCII characters compare as their bytes do. -/
theorem flatMap_utf8EncodeChar_lt {xs ys : List Char} (hx : ∀ c ∈ xs, c.toNat < 128) (hy : ∀ c ∈ ys, c.toNat < 128)
    (h : xs < ys) : xs.flatMap String.utf8EncodeChar < ys.flatMap String.utf8EncodeChar := by
  have hsingle : ∀ c : Char, c.toNat < 128 → String.utf8EncodeChar c = [UInt8.ofNat c.toNat] := fun c hc =>
    if_pos (Nat.le_of_lt_succ hc)
  induction xs generalizing ys with
  | nil =>
    cases ys with
    | nil => cases h
    | cons y ys =>
      rw [List.flatMap_cons, hsingle y (hy y List.mem_cons_self)]
      exact List.nil_lt_cons _ _
  | cons x xs ih =>
    cases ys with
    | nil => cases h
    | cons y ys =>
      have hxlt := hx x List.mem_cons_self
      have hylt := hy y List.mem_cons_self
      rw [List.flatMap_cons, List.flatMap_cons, hsingle x hxlt, hsingle y hylt]
      refine List.cons_lt_cons_iff.mpr ?_
      rcases List.cons_lt_cons_iff.mp h with hlt | ⟨rfl, hlt⟩
      · have hnat : x.toNat < y.toNat := hlt
        refine .inl (UInt8.lt_iff_toNat_lt.mpr ?_)
        rw [UInt8.toNat_ofNat_of_lt' (Nat.lt_trans hxlt (by decide)),
          UInt8.toNat_ofNat_of_lt' (Nat.lt_trans hylt (by decide))]
        exact hnat
      · exact .inr ⟨rfl, ih (fun c hc => hx c (List.mem_cons_of_mem x hc)) (fun c hc => hy c (List.mem_cons_of_mem _ hc))
          hlt⟩

theorem Numeric.ascii {marks : List Char} {s : String} (h : Numeric marks s) (hmarks : ∀ c ∈ marks, c.toNat < 128) :
    ∀ c ∈ s.toList, c.toNat < 128 := by
  intro c hc
  rcases h c hc with hdigit | hmark
  · have hbounds := digitValue_bounds hdigit
    omega
  · exact hmarks c hmark

namespace Instant

/-- The columns of a stamp, from the year down to the fraction, come in the order of the instants. -/
theorem columns_of_precedes {a b : Instant} (ha : a.IsRegular) (h : a.precedes b) :
    a.date.year < b.date.year ∨ a.date.year = b.date.year ∧
      (a.date.month < b.date.month ∨ a.date.month = b.date.month ∧
      (a.date.day < b.date.day ∨ a.date.day = b.date.day ∧
      (a.secondOfDay / 3600 < b.secondOfDay / 3600 ∨ a.secondOfDay / 3600 = b.secondOfDay / 3600 ∧
      (a.secondOfDay / 60 % 60 < b.secondOfDay / 60 % 60 ∨ a.secondOfDay / 60 % 60 = b.secondOfDay / 60 % 60 ∧
      (a.secondOfDay % 60 + a.nanos / 1000000000 < b.secondOfDay % 60 + b.nanos / 1000000000 ∨
        a.secondOfDay % 60 + a.nanos / 1000000000 = b.secondOfDay % 60 + b.nanos / 1000000000 ∧
      a.fraction < b.fraction))))) := by
  obtain ⟨seconds, nanos, hvalid⟩ := a
  obtain ⟨seconds', nanos', hvalid'⟩ := b
  simp only [IsRegular, precedes, date, secondOfDay, fraction] at ha h ⊢
  rcases Int.lt_trichotomy (seconds / 86400) (seconds' / 86400) with hday | hday | hday
  · have hdate := Date.precedes_ofDay hday
    unfold Date.Precedes at hdate
    omega
  · rw [hday]
    omega
  · omega

theorem column_bounds (t : Instant) : t.date.month < 10 ^ 2 ∧ t.date.day < 10 ^ 2 ∧ t.secondOfDay / 3600 < 10 ^ 2 ∧
    t.secondOfDay / 60 % 60 < 10 ^ 2 ∧ t.secondOfDay % 60 + t.nanos / 1000000000 < 10 ^ 2 ∧ t.fraction < 10 ^ 9 := by
  have hbounds : t.date.month ≤ 12 ∧ t.date.day ≤ 31 := (Date.valid_ofDay (t.seconds / 86400)).bounds
  have hvalid := t.nanos_valid
  unfold secondOfDay fraction
  omega

/-- Up to the year 9999 all columns of a stamp have a fixed width. -/
theorem toList_fullStamp {t : Instant} (h : 0 ≤ t.date.year ∧ t.date.year ≤ 9999) : t.fullStamp.toList =
    (padded 4 t.date.year.toNat).toList ++ '-' :: ((padded 2 t.date.month).toList ++
      '-' :: ((padded 2 t.date.day).toList ++ 'T' :: ((padded 2 (t.secondOfDay / 3600)).toList ++
      ':' :: ((padded 2 (t.secondOfDay / 60 % 60)).toList ++
      ':' :: ((padded 2 (t.secondOfDay % 60 + t.nanos / 1000000000)).toList ++
      '.' :: ((padded 9 t.fraction).toList ++ 'Z' :: [])))))) := by
  have hyear : yearText t.date.year = padded 4 t.date.year.toNat := if_pos h
  simp [fullStamp, stampHead, hyear]

theorem fullStamp_lt_of_precedes {a b : Instant} (hregular : a.IsRegular)
    (ha : 0 ≤ a.date.year ∧ a.date.year ≤ 9999) (hb : 0 ≤ b.date.year ∧ b.date.year ≤ 9999) (h : a.precedes b) :
    a.fullStamp.toList < b.fullStamp.toList := by
  obtain ⟨hamonth, haday, hahour, haminute, hasecond, hafraction⟩ := a.column_bounds
  obtain ⟨hbmonth, hbday, hbhour, hbminute, hbsecond, hbfraction⟩ := b.column_bounds
  have hcolumns := columns_of_precedes hregular h
  rw [toList_fullStamp ha, toList_fullStamp hb]
  refine padded_column_lt (by decide) (by omega) (by omega) '-' (hcolumns.imp (by omega) (And.imp (by omega) fun h => ?_))
  refine padded_column_lt (by decide) hamonth hbmonth '-' (h.imp_right (And.imp_right fun h => ?_))
  refine padded_column_lt (by decide) haday hbday 'T' (h.imp_right (And.imp_right fun h => ?_))
  refine padded_column_lt (by decide) hahour hbhour ':' (h.imp_right (And.imp_right fun h => ?_))
  refine padded_column_lt (by decide) haminute hbminute ':' (h.imp_right (And.imp_right fun h => ?_))
  refine padded_column_lt (by decide) hasecond hbsecond '.' (h.imp_right (And.imp_right fun h => ?_))
  exact padded_column_lt (by decide) hafraction hbfraction 'Z' (.inl h)

theorem precedes_or_eq_or_precedes (a b : Instant) : a.precedes b ∨ a = b ∨ b.precedes a := by
  obtain ⟨seconds, nanos, hvalid⟩ := a
  obtain ⟨seconds', nanos', hvalid'⟩ := b
  simp only [precedes, Instant.mk.injEq]
  omega

theorem textBytes_fullStamp_lt {a b : Instant} (hregular : a.IsRegular) (ha : 0 ≤ a.date.year ∧ a.date.year ≤ 9999)
    (hb : 0 ≤ b.date.year ∧ b.date.year ≤ 9999) (h : a.precedes b) : textBytes a.fullStamp < textBytes b.fullStamp := by
  rw [textBytes_eq_flatMap, textBytes_eq_flatMap]
  exact flatMap_utf8EncodeChar_lt (a.numeric_fullStamp.ascii (by simp)) (b.numeric_fullStamp.ascii (by simp))
    (fullStamp_lt_of_precedes hregular ha hb h)

/-- Full stamps with four digits in the year sort as the instants that they show. -/
theorem textBytes_fullStamp_lt_iff {a b : Instant} (ha : 0 ≤ a.date.year ∧ a.date.year ≤ 9999)
    (hb : 0 ≤ b.date.year ∧ b.date.year ≤ 9999) :
    textBytes a.fullStamp < textBytes b.fullStamp ↔ a.shown.precedes b.shown := by
  rw [← a.date_shown] at ha
  rw [← b.date_shown] at hb
  rw [← a.fullStamp_shown, ← b.fullStamp_shown]
  refine ⟨fun hlt => ?_, textBytes_fullStamp_lt a.isRegular_shown ha hb⟩
  rcases precedes_or_eq_or_precedes a.shown b.shown with h | heq | h
  · exact h
  · exact absurd (heq ▸ hlt) (List.lt_irrefl _)
  · exact absurd hlt (List.lt_asymm (textBytes_fullStamp_lt b.isRegular_shown hb ha h))

end Instant

end LabStream
