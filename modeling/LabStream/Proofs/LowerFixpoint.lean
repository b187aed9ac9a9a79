import LabStream.Lower

namespace LabStream

namespace CaseRow

variable {row other : CaseRow} {code : Nat}

/-- The first and the last of the lower-case letters of a row. -/
def imageFirst (row : CaseRow) : Nat := (row.first + row.shift).toNat

def imageLast (row : CaseRow) : Nat := (row.last + row.shift).toNat

/-- Whether a code point is none of the lower-case letters of a row. -/
def misses (row : CaseRow) (code : Nat) : Bool :=
  Nat.blt row.imageLast code || Nat.blt code row.imageFirst

/-- Whether no lower-case letter of a row has a lower-case letter by another row: it lies outside of that
row, or on the letters between its own. -/
def avoids (row other : CaseRow) : Bool :=
  Nat.blt row.imageLast other.first || Nat.blt other.last row.imageFirst ||
    (Nat.beq other.step 2 && (Nat.beq row.step 2 || Nat.beq row.first row.last) &&
      Nat.beq ((row.imageFirst + other.first) % 2) 1)

/-- Whether the lower-case letters of a row stay what they are when they are lowered once more. -/
def settles (row : CaseRow) : Bool :=
  Nat.ble 0x61 row.imageFirst && (Nat.ble row.imageLast 0x7A || Nat.ble 0x80 row.imageFirst) &&
    (Nat.blt row.imageLast 0xD800 || Nat.blt 0xDFFF row.imageFirst && Nat.blt row.imageLast 0x110000) &&
    row.misses 'Σ'.toNat && row.misses 'İ'.toNat && caseRows.all row.avoids

theorem caseRows_settle : caseRows.all settles := by
  decide +kernel

theorem image_mem (hs : 0x61 ≤ row.imageFirst) (h : row.covers code) :
    row.imageFirst ≤ (code + row.shift).toNat ∧ (code + row.shift).toNat ≤ row.imageLast ∧
      (code + row.shift).toNat + row.first = row.imageFirst + code := by
  simp only [covers, Bool.and_eq_true, decide_eq_true_iff, beq_iff_eq] at h
  obtain ⟨⟨hfirst, hlast⟩, -⟩ := h
  unfold imageFirst imageLast at *
  omega

theorem toNat_image (hrow : row ∈ caseRows) (h : row.covers code) :
    (Char.ofNat (code + row.shift).toNat).toNat = (code + row.shift).toNat := by
  have hsettles := List.all_eq_true.mp caseRows_settle row hrow
  simp only [settles, Bool.and_eq_true, Bool.or_eq_true, Nat.ble_eq, Nat.blt_eq] at hsettles
  obtain ⟨⟨⟨⟨⟨hs, -⟩, hvalid⟩, -⟩, -⟩, -⟩ := hsettles
  obtain ⟨hlow, hhigh, -⟩ := image_mem hs h
  have hchar : (code + row.shift).toNat.isValidChar := by
    unfold Nat.isValidChar
    omega
  rw [Char.ofNat, dif_pos hchar]
  exact UInt32.toNat_ofNatLT

theorem not_covers_image (hs : 0x61 ≤ row.imageFirst) (ha : row.avoids other) (h : row.covers code) :
    other.covers (code + row.shift).toNat = false := by
  obtain ⟨hlow, hhigh, hsum⟩ := image_mem hs h
  simp only [covers, Bool.and_eq_true, decide_eq_true_iff, beq_iff_eq] at h
  obtain ⟨⟨hfirst, hlast⟩, hstep⟩ := h
  simp only [avoids, Bool.or_eq_true, Bool.and_eq_true, Nat.blt_eq, Nat.beq_eq] at ha
  rw [← Bool.not_eq_true]
  intro hc
  simp only [covers, Bool.and_eq_true, decide_eq_true_iff, beq_iff_eq] at hc
  obtain ⟨⟨hcfirst, hclast⟩, hcstep⟩ := hc
  rcases ha with (hbelow | habove) | ⟨⟨hother, hrow⟩, hodd⟩
  · omega
  · omega
  · rw [hother] at hcstep
    rcases hrow with hrow | hrow
    · rw [hrow] at hstep
      omega
    · omega

end CaseRow

/-- A character that lower-casing leaves as it is, wherever it stands. -/
structure IsLowered (c : Char) : Prop where
  lowerChar : lowerChar c = c
  ne_sigma : c ≠ 'Σ'
  ne_dotted : c ≠ 'İ'

theorem isLowered_ofNat_of_covers {row : CaseRow} {code : Nat} (hrow : row ∈ caseRows) (h : row.covers code) :
    IsLowered (Char.ofNat (code + row.shift).toNat) := by
  have hback := CaseRow.toNat_image hrow h
  have hsettles := List.all_eq_true.mp CaseRow.caseRows_settle row hrow
  simp only [CaseRow.settles, CaseRow.misses, Bool.and_eq_true, Bool.or_eq_true, Nat.ble_eq, Nat.blt_eq,
    List.all_eq_true] at hsettles
  obtain ⟨⟨⟨⟨⟨hs, hascii⟩, -⟩, hsigma⟩, hdotted⟩, havoids⟩ := hsettles
  obtain ⟨hlow, hhigh, -⟩ := CaseRow.image_mem hs h
  have hcode : lowerCode (code + row.shift).toNat = (code + row.shift).toNat := by
    have hnone : caseRows.find? (·.covers (code + row.shift).toNat) = none := by
      rw [List.find?_eq_none]
      intro other hother
      simp [CaseRow.not_covers_image hs (havoids other hother) h]
    rw [lowerCode, hnone]
  generalize (code + row.shift).toNat = image at *
  refine ⟨?_, ?_, ?_⟩
  · unfold lowerChar
    rw [hback, hcode]
    split
    next hsmall =>
      have hletters : ∀ n < 0x80, 0x61 ≤ n → (Char.ofNat n).toLower = Char.ofNat n := by decide
      exact hletters image hsmall (by omega)
    next => rfl
  · intro heq
    rw [heq] at hback
    omega
  · intro heq
    rw [heq] at hback
    omega

/-- A character past the first 128 that no row covers. -/
theorem isLowered_of_uncovered {c : Char} (hrows : caseRows.all fun row => !row.covers c.toNat)
    (hlarge : ¬c.toNat < 0x80) (hsigma : c ≠ 'Σ') (hdotted : c ≠ 'İ') : IsLowered c := by
  have hnone : caseRows.find? (·.covers c.toNat) = none := by
    rw [List.find?_eq_none]
    intro row hrow
    simpa using List.all_eq_true.mp hrows row hrow
  have hself : lowerChar c = c := by
    rw [lowerChar, if_neg hlarge, lowerCode, hnone]
    exact Char.ofNat_toNat c
  exact ⟨hself, hsigma, hdotted⟩

theorem isLowered_lowerChar {c : Char} (hsigma : c ≠ 'Σ') (hdotted : c ≠ 'İ') : IsLowered (lowerChar c) := by
  by_cases hsmall : c.toNat < 0x80
  · have hascii : ∀ n < 0x80, lowerChar (Char.ofNat n).toLower = (Char.ofNat n).toLower ∧
        (Char.ofNat n).toLower ≠ 'Σ' ∧ (Char.ofNat n).toLower ≠ 'İ' := by decide
    obtain ⟨hlower, hne, hne'⟩ := hascii c.toNat hsmall
    rw [Char.ofNat_toNat] at hlower hne hne'
    rw [lowerChar, if_pos hsmall]
    exact ⟨hlower, hne, hne'⟩
  · cases hrow : caseRows.find? (·.covers c.toNat) with
    | some row =>
      have hlowered := isLowered_ofNat_of_covers (List.mem_of_find?_eq_some hrow)
        (List.find?_some (p := fun row : CaseRow => row.covers c.toNat) hrow)
      simpa [lowerChar, hsmall, lowerCode, hrow] using hlowered
    | none =>
      have hrows : caseRows.all fun row => !row.covers c.toNat := by
        simpa [List.all_eq_true] using hrow
      have hself := isLowered_of_uncovered hrows hsmall hsigma hdotted
      rwa [hself.lowerChar]

theorem isLowered_of_mem_lowerAfter {before cs : List Char} {d : Char} (h : d ∈ lowerAfter before cs) :
    IsLowered d := by
  induction cs generalizing before with
  | nil => cases h
  | cons c cs ih =>
    simp only [lowerAfter, List.mem_append] at h
    rcases h with h | h
    · split at h
      next =>
        split at h
        · obtain rfl := List.mem_singleton.mp h
          exact isLowered_of_uncovered (by decide +kernel) (by decide) (by decide) (by decide)
        · obtain rfl := List.mem_singleton.mp h
          exact isLowered_of_uncovered (by decide +kernel) (by decide) (by decide) (by decide)
      next hsigma =>
        split at h
        next =>
          rw [List.mem_cons, List.mem_singleton] at h
          rcases h with rfl | rfl
          · exact ⟨by decide, by decide, by decide⟩
          · exact isLowered_of_uncovered (by decide +kernel) (by decide) (by decide) (by decide)
        next hdotted =>
          obtain rfl := List.mem_singleton.mp h
          exact isLowered_lowerChar hsigma hdotted
    · exact ih h

theorem lowerAfter_of_isLowered (before : List Char) {cs : List Char} (h : ∀ c ∈ cs, IsLowered c) :
    lowerAfter before cs = cs := by
  induction cs generalizing before with
  | nil => rfl
  | cons c cs ih =>
    have hc := h c List.mem_cons_self
    have hcs := ih (c :: before) fun d hd => h d (List.mem_cons_of_mem c hd)
    rw [lowerAfter, if_neg hc.ne_sigma, if_neg hc.ne_dotted, hc.lowerChar, hcs, List.singleton_append]

/-- Of the first 128 characters every one is lowered by itself. -/
theorem lowerAfter_of_ascii (before : List Char) {cs : List Char} (h : ∀ c ∈ cs, c.toNat < 0x80) :
    lowerAfter before cs = cs.map Char.toLower := by
  induction cs generalizing before with
  | nil => rfl
  | cons c cs ih =>
    have hc := h c List.mem_cons_self
    have hsigma : c ≠ 'Σ' := by
      rintro rfl
      exact absurd hc (by decide)
    have hdotted : c ≠ 'İ' := by
      rintro rfl
      exact absurd hc (by decide)
    have hcs := ih (c :: before) fun d hd => h d (List.mem_cons_of_mem c hd)
    rw [lowerAfter, if_neg hsigma, if_neg hdotted, lowerChar, if_pos hc, hcs, List.singleton_append, List.map_cons]

theorem toNat_lt_of_isAlphanum {c : Char} (h : c.isAlphanum) : c.toNat < 0x80 := by
  have hranges : (decide (65 ≤ c.val ∧ c.val ≤ 90) || (decide (97 ≤ c.val) && decide (c.val ≤ 122)) ||
      (decide (48 ≤ c.val) && decide (c.val ≤ 57))) = true := h
  have hval : c.val.toNat = c.toNat := rfl
  simp only [Bool.or_eq_true, Bool.and_eq_true, decide_eq_true_eq, UInt32.le_iff_toNat_le, UInt32.reduceToNat,
    hval] at hranges
  omega

theorem isAlphanum_toLower {c : Char} (h : c.isAlphanum) : c.toLower.isAlphanum := by
  have hascii : ∀ n < 0x80, (Char.ofNat n).isAlphanum → (Char.ofNat n).toLower.isAlphanum := by decide
  have hc := hascii c.toNat (toNat_lt_of_isAlphanum h)
  rw [Char.ofNat_toNat] at hc
  exact hc h

/-- Lower-case text stays as it is, final sigmas and dotted letters too. -/
theorem lowerText_lowerText (text : String) : lowerText (lowerText text) = lowerText text := by
  have h : lowerAfter [] (lowerAfter [] text.toList) = lowerAfter [] text.toList :=
    lowerAfter_of_isLowered [] fun _ => isLowered_of_mem_lowerAfter
  simp only [lowerText, String.toList_ofList, h]

end LabStream
