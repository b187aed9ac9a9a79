import LabStream.Proofs.LowerFixpoint

namespace LabStream

namespace CaseRow

variable {row : CaseRow} {code : Nat}

/-- Whether the letters of a row past the first 128 characters have their lower-case letters there too. The Kelvin
sign alone has not: its lower-case letter is a plain k. -/
def keepsApart (row : CaseRow) : Bool :=
  Nat.blt row.last 0x80 || Nat.ble 0x80 row.imageFirst ||
    Nat.beq row.imageFirst 'k'.toNat && Nat.beq row.imageLast 'k'.toNat

theorem caseRows_keepApart : caseRows.all keepsApart := by
  decide +kernel

theorem image_apart (hrow : row ∈ caseRows) (h : row.covers code) (hlarge : 0x80 ≤ code) :
    0x80 ≤ (code + row.shift).toNat ∨ (code + row.shift).toNat = 'k'.toNat := by
  have hsettles := List.all_eq_true.mp caseRows_settle row hrow
  have hapart := List.all_eq_true.mp caseRows_keepApart row hrow
  simp only [settles, Bool.and_eq_true, Nat.ble_eq] at hsettles
  simp only [keepsApart, Bool.and_eq_true, Bool.or_eq_true, Nat.ble_eq, Nat.blt_eq, Nat.beq_eq] at hapart
  obtain ⟨hlow, hhigh, -⟩ := image_mem hsettles.1.1.1.1.1 h
  simp only [covers, Bool.and_eq_true, decide_eq_true_iff] at h
  omega

end CaseRow

/-- What is lowered to one of the first 128 characters is one of them, but for the Kelvin sign. -/
theorem toNat_lt_of_lowerChar {c : Char} (h : (lowerChar c).toNat < 0x80) (hk : lowerChar c ≠ 'k') :
    c.toNat < 0x80 := by
  refine Nat.lt_of_not_le fun hlarge => ?_
  rw [lowerChar, if_neg (Nat.not_lt_of_le hlarge)] at h hk
  cases hrow : caseRows.find? (·.covers c.toNat) with
  | some row =>
    have hmem := List.mem_of_find?_eq_some hrow
    have hcovers := List.find?_some (p := fun row : CaseRow => row.covers c.toNat) hrow
    simp only [lowerCode, hrow] at h hk
    rw [CaseRow.toNat_image hmem hcovers] at h
    rcases CaseRow.image_apart hmem hcovers hlarge with hout | hkelvin
    · omega
    · exact hk (by rw [hkelvin, Char.ofNat_toNat])
  | none =>
    simp only [lowerCode, hrow, Char.ofNat_toNat] at h
    omega

/-- No other text is lowered to one of the first 128 characters without a k: a final sigma lies past them, and so
does the dot that a dotted capital I leaves behind. -/
theorem toNat_lt_of_lowerAfter {before cs : List Char}
    (h : ∀ d ∈ lowerAfter before cs, d.toNat < 0x80 ∧ d ≠ 'k') : ∀ c ∈ cs, c.toNat < 0x80 := by
  induction cs generalizing before with
  | nil => exact nofun
  | cons c cs ih =>
    simp only [lowerAfter, List.forall_mem_append] at h
    obtain ⟨himage, hrest⟩ := h
    refine List.forall_mem_cons.mpr ⟨?_, ih hrest⟩
    split at himage
    -- A capital sigma, a dotted capital I, and any other letter.
    next =>
      have hsigma := (himage _ (List.mem_singleton_self _)).1
      split at hsigma <;> exact absurd hsigma (by decide)
    next =>
      split at himage
      next => exact absurd (himage '\u0307' (List.mem_cons_of_mem _ List.mem_cons_self)).1 (by decide)
      next =>
        obtain ⟨hlower, hk⟩ := himage _ (List.mem_singleton_self _)
        exact toNat_lt_of_lowerChar hlower hk

theorem toNat_lt_of_toLower {c : Char} (h : c.toLower.toNat < 0x80) : c.toNat < 0x80 := by
  unfold Char.toLower at h
  split at h
  next hupper =>
    have hlast : c.val.toNat ≤ 'Z'.val.toNat := UInt32.le_iff_toNat_le.mp hupper.2
    exact Nat.lt_of_le_of_lt hlast (by decide)
  next => exact h

theorem lowerText_eq_lowerAscii {text : String} (h : ∀ c ∈ text.toList, c.toNat < 0x80) :
    lowerText text = lowerAscii text := by
  rw [lowerText, lowerAfter_of_ascii [] h, lowerAscii, ← String.toList_map, String.ofList_toList]

/-- Whether a word has none but the first 128 characters, and no k. -/
def foldsPlainly (word : String) : Bool := word.toList.all fun d => d.toNat < 0x80 && d != 'k'

theorem foldsPlainly_iff {word : String} : foldsPlainly word ↔ ∀ d ∈ word.toList, d.toNat < 0x80 ∧ d ≠ 'k' := by
  simp [foldsPlainly]

/-- Both ways of lower-casing make such a word of the same texts. -/
theorem lowerText_eq_iff {text word : String} (hword : foldsPlainly word) :
    lowerText text = word ↔ lowerAscii text = word := by
  rw [foldsPlainly_iff] at hword
  constructor
  · rintro rfl
    rw [lowerText, String.toList_ofList] at hword
    exact (lowerText_eq_lowerAscii (toNat_lt_of_lowerAfter hword)).symm
  · rintro rfl
    refine lowerText_eq_lowerAscii fun c hc => ?_
    have hlowered : c.toLower ∈ (lowerAscii text).toList := by
      rw [lowerAscii, String.toList_map]
      exact List.mem_map_of_mem hc
    exact toNat_lt_of_toLower (hword _ hlowered).1

/-- With a k they may differ: the Kelvin sign is not one of the first 128 characters. -/
example : lowerText "\u212Aill" = "kill" ∧ lowerAscii "\u212Aill" ≠ "kill" := by decide +kernel

end LabStream
