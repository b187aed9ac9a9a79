import LabStream.EventLine
import LabStream.Proofs.JsonReading
import LabStream.Proofs.StampReading
import LabStream.Proofs.TextCuts

namespace LabStream

/-- The number of line feeds in a text. -/
def lineFeeds (s : String) : Nat := s.toList.count '\n'

theorem lineFeeds_append (s t : String) : lineFeeds (s ++ t) = lineFeeds s + lineFeeds t := by
  simp [lineFeeds]

theorem lineFeeds_eq_zero_iff {s : String} : lineFeeds s = 0 ↔ '\n' ∉ s.toList := List.count_eq_zero

theorem lineFeeds_join (texts : List String) : lineFeeds (String.join texts) = (texts.map lineFeeds).sum := by
  simp only [lineFeeds, String.toList_join, List.count_flatMap]
  rfl

/-- A separator without line feeds adds none. -/
theorem lineFeeds_intercalate {sep : String} (hsep : lineFeeds sep = 0) (texts : List String) :
    lineFeeds (sep.intercalate texts) = (texts.map lineFeeds).sum := by
  induction texts with
  | nil => rfl
  | cons text texts ih =>
    cases texts with
    | nil => simp
    | cons other texts =>
      rw [String.intercalate_cons_cons, lineFeeds_append, lineFeeds_append, ih, hsep, Nat.add_zero]
      rfl

theorem Instant.lineFeeds_fullStamp (t : Instant) : lineFeeds t.fullStamp = 0 := by
  refine lineFeeds_eq_zero_iff.mpr fun h => ?_
  rcases t.numeric_fullStamp _ h with h | h <;> revert h <;> decide

namespace Event

/-- The texts that a plain line shows besides the time. -/
def plainTexts (e : Event) : List String :=
  e.kind.name :: e.action :: e.actorColumn :: e.shownAttributes.toList.flatMap fun (name, value) => [name, value]

/-- A plain line without the line feed at its end. -/
def plainBody (e : Event) : String :=
  e.timestamp.fullStamp ++ " " ++ e.kind.name ++ " " ++ e.action ++ " " ++ e.actorColumn ++ e.attributeColumn

theorem line_plain (e : Event) : e.line .plain = e.plainBody ++ "\n" := rfl

theorem lineFeeds_pairs (pairs : List (String × String)) :
    ((pairs.map fun (name, value) => name ++ "=" ++ value).map lineFeeds).sum =
      ((pairs.flatMap fun (name, value) => [name, value]).map lineFeeds).sum := by
  have hequals : lineFeeds "=" = 0 := by decide
  induction pairs with
  | nil => rfl
  | cons pair pairs ih =>
    rw [List.map_cons, List.map_cons, List.sum_cons, ih, List.flatMap_cons, List.map_append, List.sum_append,
      lineFeeds_append, lineFeeds_append, hequals]
    rfl

theorem lineFeeds_attributeColumn (e : Event) : lineFeeds e.attributeColumn =
    ((e.shownAttributes.toList.flatMap fun (name, value) => [name, value]).map lineFeeds).sum := by
  have hopen : lineFeeds " (" = 0 := by decide
  have hclose : lineFeeds ")" = 0 := by decide
  unfold attributeColumn
  dsimp only
  split
  next hempty =>
    rw [List.isEmpty_iff.mp hempty]
    rfl
  next =>
    rw [lineFeeds_append, lineFeeds_append, hopen, hclose, lineFeeds_intercalate (by decide), lineFeeds_pairs,
      Nat.zero_add, Nat.add_zero]

/-- A plain line shows every line feed of its texts as it is. -/
theorem lineFeeds_plainBody (e : Event) : lineFeeds e.plainBody = (e.plainTexts.map lineFeeds).sum := by
  have hblank : lineFeeds " " = 0 := by decide
  simp only [plainBody, plainTexts, lineFeeds_append, lineFeeds_attributeColumn, Instant.lineFeeds_fullStamp, hblank,
    List.map_cons, List.sum_cons, Nat.zero_add, Nat.add_zero, Nat.add_assoc]

theorem plainTexts_clean_iff (e : Event) :
    lineFeeds e.plainBody = 0 ↔ ∀ text ∈ e.plainTexts, '\n' ∉ text.toList := by
  rw [lineFeeds_plainBody, List.sum_eq_zero_iff_forall_eq_nat, List.forall_mem_map]
  simp only [lineFeeds_eq_zero_iff]

/-- The text that is written for events in plain lines, one after the other. -/
def plainLog (events : List Event) : String := String.join (events.map fun e => e.line .plain)

theorem plainLog_cons (e : Event) (events : List Event) :
    (plainLog (e :: events)).toList = e.plainBody.toList ++ '\n' :: (plainLog events).toList := by
  simp [plainLog, String.toList_join, line_plain]

theorem lineFeeds_plainLog (events : List Event) :
    lineFeeds (plainLog events) = events.length + (events.map fun e => lineFeeds e.plainBody).sum := by
  have hend : lineFeeds "\n" = 1 := by decide
  rw [plainLog, lineFeeds_join]
  induction events with
  | nil => rfl
  | cons e events ih =>
    simp only [List.map_cons, List.sum_cons, List.length_cons, line_plain, lineFeeds_append, hend] at ih ⊢
    omega

theorem lines_plainLog {events : List Event} (h : ∀ e ∈ events, '\n' ∉ e.plainBody.toList) :
    ServiceNames.lines (plainLog events).toList = events.map (·.plainBody.toList) ++ [[]] := by
  induction events with
  | nil => rfl
  | cons e events ih =>
    have hrest := ih fun other hother => h other (List.mem_cons_of_mem e hother)
    rw [plainLog_cons, ServiceNames.lines_append (h e List.mem_cons_self), hrest]
    rfl

/-- A line is framed by the line feed at its end. -/
def Framed (line : String) : Prop := ∃ body : String, line = body ++ "\n" ∧ '\n' ∉ body.toList

theorem framed_plain_iff (e : Event) : Framed (e.line .plain) ↔ ∀ text ∈ e.plainTexts, '\n' ∉ text.toList := by
  rw [← e.plainTexts_clean_iff, lineFeeds_eq_zero_iff]
  constructor
  · rintro ⟨body, hline, hbody⟩
    obtain rfl : e.plainBody = body := (String.append_left_inj "\n").mp (e.line_plain.symm.trans hline)
    exact hbody
  · exact fun hbody => ⟨_, e.line_plain, hbody⟩

/-- A plain line ends in a line feed, and it has as many others as its texts have. So it is framed just if no
text in it has one, and the lines of a log are those of its events, one for each, just if all of these are framed. -/
theorem plain_line_framed_iff (events : List Event) :
    (∀ e ∈ events, e.line .plain = e.plainBody ++ "\n" ∧
      lineFeeds e.plainBody = (e.plainTexts.map lineFeeds).sum ∧
      (Framed (e.line .plain) ↔ ∀ text ∈ e.plainTexts, '\n' ∉ text.toList)) ∧
    (ServiceNames.lines (plainLog events).toList = events.map (·.plainBody.toList) ++ [[]] ↔
      ∀ e ∈ events, ∀ text ∈ e.plainTexts, '\n' ∉ text.toList) := by
  refine ⟨fun e _ => ⟨e.line_plain, e.lineFeeds_plainBody, e.framed_plain_iff⟩, ?_⟩
  simp only [← plainTexts_clean_iff]
  constructor
  · intro hlines e he
    -- The log has a line for each of its line feeds, so the events have none besides those at their ends.
    have hlength := congrArg List.length hlines
    have hfeeds := lineFeeds_plainLog events
    have hcount : (plainLog events).toList.count '\n' = lineFeeds (plainLog events) := rfl
    simp only [ServiceNames.length_lines, List.length_append, List.length_map, List.length_singleton] at hlength
    have hsum : (events.map fun e => lineFeeds e.plainBody).sum = 0 := by omega
    exact List.sum_eq_zero_iff_forall_eq_nat.mp hsum _ (List.mem_map_of_mem he)
  · intro h
    exact lines_plainLog fun e he => lineFeeds_eq_zero_iff.mp (h e he)

/-- An alias of an interface, say, may have a line feed, and the line with it is broken in two. -/
theorem plain_line_broken : ¬∀ e : Event, Framed (e.line .plain) := by
  intro h
  let e := ((make .epoch .interface "update").withActor "" "r1" "aaaaaaaaaaaaaaaaaaaa").withAttributes
    [("alias", "to spine\nport 3"), ("ifname", "eth1")]
  obtain ⟨body, hline, hbody⟩ := h e
  have hcount : lineFeeds (e.line .plain) = 2 := by decide +kernel
  rw [hline, lineFeeds_append, lineFeeds_eq_zero_iff.mpr hbody] at hcount
  cases hcount

end Event

end LabStream
