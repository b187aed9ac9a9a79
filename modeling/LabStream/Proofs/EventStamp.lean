import Mathlib.Order.Bounds.Defs
import Mathlib.Tactic.SplitIfs
import LabStream.Proofs.Reingestion
import LabStream.Proofs.StampOrder

namespace LabStream

/-- A line up to its first blank. -/
def firstColumn (line : String) : String := String.ofList (line.toList.takeWhile (· ≠ ' '))

/-- The text of the field `timestamp` of a line in JSON. -/
def stampField? (line : String) : Option String :=
  (Json.parse line).toOption.bind fun value => (value.field? "timestamp").bind Json.text?

/-- The digits after the point of a stamp. -/
def fractionDigits (stamp : String) : List Char := (stamp.toList.dropWhile (· ≠ '.')).tail.takeWhile Char.isDigit

namespace Instant

theorem dropWhile_stampHead (t : Instant) (rest : List Char) :
    (t.stampHead.toList ++ rest).dropWhile (· ≠ '.') = rest.dropWhile (· ≠ '.') := by
  refine List.dropWhile_append_of_pos fun c hc => decide_eq_true fun heq => ?_
  subst heq
  rcases t.numeric_stampHead _ hc with h | h <;> revert h <;> decide

theorem fractionDigits_whole (t : Instant) : fractionDigits (t.stampHead ++ "Z") = [] := by
  rw [fractionDigits, String.toList_append, dropWhile_stampHead]
  rfl

theorem fractionDigits_padded (t : Instant) (width n : Nat) :
    fractionDigits (t.stampHead ++ ("." ++ (padded width n ++ "Z"))) = (padded width n).toList := by
  have hdigits : ∀ c ∈ (padded width n).toList, c.isDigit := fun c hc => isDigit_of_mem_padded hc
  have hpoint : ("." ++ (padded width n ++ "Z")).toList = '.' :: ((padded width n).toList ++ ['Z']) := by simp
  rw [fractionDigits, String.toList_append, dropWhile_stampHead, hpoint, List.dropWhile_cons_of_neg (by simp),
    List.tail_cons, List.takeWhile_append_of_pos hdigits]
  simp

theorem length_fractionDigits_fullStamp (t : Instant) : (fractionDigits t.fullStamp).length = 9 := by
  rw [fullStamp, String.append_assoc, String.append_assoc, fractionDigits_padded]
  exact length_padded (by decide) t.column_bounds.2.2.2.2.2

theorem length_fractionDigits_briefStamp (t : Instant) : (fractionDigits t.briefStamp).length =
    if t.fraction = 0 then 0 else if t.fraction % 1000000 = 0 then 3 else if t.fraction % 1000 = 0 then 6 else 9 := by
  have hlt : t.fraction < 10 ^ 9 := t.column_bounds.2.2.2.2.2
  unfold briefStamp
  dsimp only
  split
  · rw [String.append_empty, fractionDigits_whole]
    rfl
  · split
    · rw [String.append_assoc, String.append_assoc, fractionDigits_padded, length_padded (by decide) (by omega)]
    · split
      · rw [String.append_assoc, String.append_assoc, fractionDigits_padded, length_padded (by decide) (by omega)]
      · rw [String.append_assoc, String.append_assoc, fractionDigits_padded, length_padded (by decide) hlt]

/-- A brief stamp has as few groups of three digits as its instant needs. -/
theorem isLeast_fractionDigits_briefStamp (t : Instant) :
    IsLeast {width | width ∈ [0, 3, 6, 9] ∧ 10 ^ (9 - width) ∣ t.nanos} (fractionDigits t.briefStamp).length := by
  have hfraction : t.fraction = t.nanos % 1000000000 := rfl
  rw [length_fractionDigits_briefStamp]
  constructor
  · split_ifs <;> exact ⟨by decide, Nat.dvd_of_mod_eq_zero (by omega)⟩
  · rintro width ⟨hwidth, hdvd⟩
    simp only [List.mem_cons, List.not_mem_nil, or_false] at hwidth
    rcases hwidth with rfl | rfl | rfl | rfl <;> simp at hdvd <;> split_ifs <;> omega

end Instant

namespace Event

theorem firstColumn_plain (e : Event) : firstColumn (e.line .plain) = e.timestamp.fullStamp := by
  have hblank : ∀ c ∈ e.timestamp.fullStamp.toList, decide (c ≠ ' ') = true := by
    refine fun c hc => decide_eq_true fun heq => ?_
    subst heq
    rcases e.timestamp.numeric_fullStamp _ hc with h | h <;> revert h <;> decide
  have hline : (e.line .plain).toList = e.timestamp.fullStamp.toList ++ ' ' :: (e.kind.name ++ " " ++ e.action ++ " " ++
      e.actorColumn ++ e.attributeColumn ++ "\n").toList := by
    simp [line, stampedLine, plainLine]
  rw [firstColumn, hline, List.takeWhile_append_of_pos hblank]
  simp

theorem stampField?_json (e : Event) : stampField? (e.line .json) = some e.timestamp.briefStamp := by
  have hparse : Json.parse (e.line .json) = .ok (.record (e.jsonFields e.timestamp.briefStamp)) := e.parse_jsonLine _
  have hfield := e.text_of_jsonFields e.timestamp.briefStamp ("timestamp", e.timestamp.briefStamp) List.mem_cons_self
  rw [stampField?, hparse]
  exact hfield

/-- The time of an event is read back from the first column of its plain line and from the field of its JSON
line, leap seconds and all years included; only a leap second in the middle of a minute, which no calendar has, is
read as the second after it. The plain line always shows nine digits of the fraction, the JSON line as few groups of
three as it needs; and with four digits in the year plain lines sort by the times that they show. -/
theorem stamps_exact :
    (∀ e : Event, Instant.ofStamp? (firstColumn (e.line .plain)) = some e.timestamp.shown ∧
      (fractionDigits (firstColumn (e.line .plain))).length = 9 ∧
      ∃ stamp, stampField? (e.line .json) = some stamp ∧ Instant.ofStamp? stamp = some e.timestamp.shown ∧
        IsLeast {width | width ∈ [0, 3, 6, 9] ∧ 10 ^ (9 - width) ∣ e.timestamp.nanos}
          (fractionDigits stamp).length) ∧
    (∀ e f : Event, (0 ≤ e.timestamp.date.year ∧ e.timestamp.date.year ≤ 9999) →
      (0 ≤ f.timestamp.date.year ∧ f.timestamp.date.year ≤ 9999) →
      (textBytes (firstColumn (e.line .plain)) < textBytes (firstColumn (f.line .plain)) ↔
        e.timestamp.shown.precedes f.timestamp.shown)) ∧
    ∀ t : Instant, t.shown = t ↔ t.nanos < 1000000000 ∨ t.seconds % 60 = 59 := by
  refine ⟨?_, ?_, fun _ => Instant.shown_eq_self_iff⟩
  · intro e
    rw [firstColumn_plain]
    exact ⟨e.timestamp.ofStamp?_fullStamp, e.timestamp.length_fractionDigits_fullStamp, _, e.stampField?_json,
      e.timestamp.ofStamp?_briefStamp, e.timestamp.isLeast_fractionDigits_briefStamp⟩
  · intro e f he hf
    rw [firstColumn_plain, firstColumn_plain]
    exact Instant.textBytes_fullStamp_lt_iff he hf

/-- A leap second sorts before the year that it puts off. -/
theorem stamps_exact_at_leap_second :
    let leap : Instant := ⟨1483228799, 1500000000, by decide⟩
    let next : Instant := ⟨1483228800, 0, by decide⟩
    leap.date.year = 2016 ∧ next.date.year = 2017 ∧
      textBytes (firstColumn ((make leap .traffic "sample").line .plain)) <
        textBytes (firstColumn ((make next .traffic "sample").line .plain)) :=
  ⟨by decide, by decide, (stamps_exact.2.1 _ _ (by decide) (by decide)).mpr (by decide)⟩

/-- A leap second in the middle of a minute is read as a later time, and sorts after the next second. -/
theorem stamps_inexact_within_minute :
    let leap : Instant := ⟨4, 1333333333, by decide⟩
    let next : Instant := ⟨5, 0, by decide⟩
    let line := (make leap .traffic "sample").line .plain
    Instant.ofStamp? (firstColumn line) ≠ some leap ∧
      (∀ stamp, stampField? ((make leap .traffic "sample").line .json) = some stamp →
        Instant.ofStamp? stamp ≠ some leap) ∧
      leap.precedes next ∧
        ¬textBytes (firstColumn line) < textBytes (firstColumn ((make next .traffic "sample").line .plain)) := by
  intro leap next line
  have hshown : some leap.shown ≠ some leap := by decide
  refine ⟨?_, fun stamp hstamp => ?_, by decide, ?_⟩
  · rw [firstColumn_plain]
    exact leap.ofStamp?_fullStamp ▸ hshown
  · rw [stampField?_json] at hstamp
    obtain rfl := Option.some.inj hstamp
    exact leap.ofStamp?_briefStamp ▸ hshown
  · rw [firstColumn_plain, firstColumn_plain]
    exact mt (Instant.textBytes_fullStamp_lt_iff (by decide) (by decide)).mp (by decide)

end Event

end LabStream
