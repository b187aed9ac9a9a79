import LabStream.ServiceNames
import LabStream.Proofs.Lists

namespace LabStream

section

variable {stop : Char → Bool} {front run rest : List Char}

theorem runsOf_stops_append (h : ∀ c ∈ front, stop c) (rest : List Char) :
    runsOf stop (front ++ rest) = runsOf stop rest := by
  induction front with
  | nil => rfl
  | cons c front ih =>
    rw [List.cons_append, runsOf_cons_stop (h c List.mem_cons_self)]
    exact ih fun d hd => h d (List.mem_cons_of_mem c hd)

theorem runsOf_stops (h : ∀ c ∈ front, stop c) : runsOf stop front = [] := by
  simpa [runsOf] using runsOf_stops_append h []

/-- A run ends at the first stop after it. -/
theorem runsOf_run (hne : run ≠ []) (hrun : ∀ c ∈ run, stop c = false) (hrest : ∀ c ∈ rest.head?, stop c) :
    runsOf stop (run ++ rest) = run :: runsOf stop rest := by
  induction run with
  | nil => exact absurd rfl hne
  | cons c run ih =>
    have hc := hrun c List.mem_cons_self
    cases run with
    | nil =>
      cases rest with
      | nil => simp [runsOf, hc]
      | cons d rest => simp [runsOf, hc, hrest d rfl]
    | cons d run =>
      have hd := hrun d (List.mem_cons_of_mem c List.mem_cons_self)
      have hmore := ih (List.cons_ne_nil d run) fun e he => hrun e (List.mem_cons_of_mem c he)
      rw [List.cons_append] at hmore
      rw [List.cons_append, List.cons_append, runsOf, hmore]
      simp [hc, hd]

/-- A stop at the end changes nothing. -/
theorem runsOf_append_stop {c : Char} (h : stop c) (cs : List Char) : runsOf stop (cs ++ [c]) = runsOf stop cs := by
  induction cs with
  | nil => simp [runsOf, h]
  | cons d cs ih =>
    by_cases hd : stop d
    · rw [List.cons_append, runsOf_cons_stop hd, runsOf_cons_stop hd, ih]
    · cases cs with
      | nil => simp [runsOf, hd, h]
      | cons e cs =>
        rw [List.cons_append] at ih
        rw [List.cons_append, List.cons_append, runsOf, runsOf, ih]

/-- Where the first run is: after nothing but stops, up to the next one. -/
theorem of_runsOf_eq_cons {cs : List Char} {more : List (List Char)} (h : runsOf stop cs = run :: more) :
    ∃ front rest, cs = front ++ (run ++ rest) ∧ (∀ c ∈ front, stop c) ∧ (run ≠ [] ∧ ∀ c ∈ run, stop c = false) ∧
      (∀ c ∈ rest.head?, stop c) ∧ runsOf stop rest = more := by
  induction cs generalizing run more with
  | nil => cases h
  | cons c cs ih =>
    by_cases hc : stop c
    · rw [runsOf_cons_stop hc] at h
      obtain ⟨front, rest, rfl, hfront, hrun, hrest, hmore⟩ := ih h
      exact ⟨c :: front, rest, rfl, List.forall_mem_cons.mpr ⟨hc, hfront⟩, hrun, hrest, hmore⟩
    · obtain ⟨first, rest, hcs, hfirst, hrest⟩ := exists_run (fun d => !stop d) (c :: cs)
      simp only [Bool.not_eq_true', Bool.not_eq_false'] at hfirst hrest
      have hne : first ≠ [] := by
        rintro rfl
        rw [List.nil_append] at hcs
        exact hc (hrest c (hcs ▸ rfl))
      rw [hcs, runsOf_run hne hfirst hrest] at h
      obtain ⟨rfl, rfl⟩ := List.cons.inj h
      exact ⟨[], rest, hcs, List.forall_mem_nil _, ⟨hne, hfirst⟩, hrest, rfl⟩

end

namespace ServiceNames

theorem lines_ne_nil (cs : List Char) : lines cs ≠ [] := by
  cases cs with
  | nil => simp [lines]
  | cons c cs =>
    rw [lines]
    split
    · exact List.cons_ne_nil _ _
    · split <;> exact List.cons_ne_nil _ _

/-- A line feed cuts a text in two, wherever it stands. -/
theorem lines_append_lines (a b : List Char) : lines (a ++ '\n' :: b) = lines a ++ lines b := by
  induction a with
  | nil => simp [lines]
  | cons c a ih =>
    rw [List.cons_append, lines, lines, ih]
    obtain ⟨line, more, hlines⟩ := List.exists_cons_of_ne_nil (lines_ne_nil a)
    split <;> simp [hlines]

theorem lines_of_line {line : List Char} (h : '\n' ∉ line) : lines line = [line] := by
  induction line with
  | nil => rfl
  | cons c line ih =>
    have hc : c ≠ '\n' := (List.ne_of_not_mem_cons h).symm
    rw [lines, if_neg hc, ih fun hmem => h (List.mem_cons_of_mem c hmem)]

theorem lines_append {line : List Char} (h : '\n' ∉ line) (rest : List Char) :
    lines (line ++ '\n' :: rest) = line :: lines rest := by
  rw [lines_append_lines, lines_of_line h, List.singleton_append]

theorem length_lines (cs : List Char) : (lines cs).length = cs.count '\n' + 1 := by
  induction cs with
  | nil => rfl
  | cons c cs ih =>
    rw [lines]
    split
    next hc => simp [hc, ih]
    next hc =>
      have hcount : (c :: cs).count '\n' = cs.count '\n' := List.count_cons_of_ne hc
      cases hlines : lines cs with
      | nil => simp [hlines] at ih
      | cons line more =>
        rw [hlines] at ih
        rw [hcount]
        exact ih

end ServiceNames

end LabStream
