import Mathlib.Algebra.Order.Field.Rat
import Mathlib.Data.List.DropRight
import Mathlib.Data.List.SplitBy
import Mathlib.Tactic.Positivity
import Mathlib.Tactic.Ring
import LabStream.Window
import LabStream.Proofs.StampReading

namespace LabStream

/-- The units in which a length of time is given. -/
inductive TimeUnit where
  | hour
  | minute
  | second
  | milli
  | micro
  | nano
  deriving DecidableEq

namespace TimeUnit

def word : TimeUnit → List Char
  | hour => ['h']
  | minute => ['m']
  | second => ['s']
  | milli => ['m', 's']
  | micro => ['\u00b5', 's']
  | nano => ['n', 's']

def nanos : TimeUnit → Nat
  | hour => 3600 * nanosPerSecond
  | minute => 60 * nanosPerSecond
  | second => nanosPerSecond
  | milli => 1000000
  | micro => 1000
  | nano => 1

def ofWord? (word : List Char) : Option TimeUnit :=
  [hour, minute, second, milli, micro, nano].find? (·.word = word)

theorem ofWord?_word (unit : TimeUnit) : ofWord? unit.word = some unit := by
  cases unit <;> decide

theorem word_plain (unit : TimeUnit) : unit.word ≠ [] ∧ ∀ c ∈ unit.word, c.isDigit = false ∧ c ≠ '.' := by
  cases unit <;> simp [word]

end TimeUnit

/-- A decimal number of a unit, as it is written. -/
structure Measure where
  whole : List Char
  /-- The digits after the decimal point, if there is one. -/
  fraction : Option (List Char)
  unit : TimeUnit
  deriving DecidableEq

namespace Measure

def count (m : Measure) : ℚ :=
  digitsValue m.whole + m.fraction.elim 0 fun digits => (digitsValue digits : ℚ) / 10 ^ digits.length

def nanos (m : Measure) : ℚ := m.count * m.unit.nanos

def text (m : Measure) : List Char := m.whole ++ (m.fraction.elim [] ('.' :: ·) ++ m.unit.word)

/-- Takes the digits after a decimal point off a text, if there is one. -/
def takeFraction (cs : List Char) : Option (Option (List Char) × List Char) :=
  if cs.head? = some '.' then do
    let (run, cs) ← takeRun 1 cs.tail
    return (some run, cs)
  else some (none, cs)

def ofText? (cs : List Char) : Option Measure := do
  let (whole, cs) ← takeRun 1 cs
  let (fraction, cs) ← takeFraction cs
  return ⟨whole, fraction, ← TimeUnit.ofWord? cs⟩

/-- A measure goes on until a digit follows a letter. -/
def goesOn (a b : Char) : Bool := a.isDigit || a = '.' || !b.isDigit

/-- Reads measures that are written one after the other. -/
def listOf? (text : String) : Option (List Measure) := (text.toList.splitBy goesOn).mapM ofText?

/-- A measure whose number is written without superfluous zeros at its end. -/
structure Trim (m : Measure) : Prop where
  whole : m.whole ≠ [] ∧ ∀ c ∈ m.whole, c.isDigit
  fraction : ∀ digits ∈ m.fraction, (∀ c ∈ digits, c.isDigit) ∧ digitsValue digits ≠ 0 ∧ digits.getLast? ≠ some '0'

variable {m : Measure} {ms : List Measure}

theorem Trim.fraction_ne_nil (h : m.Trim) {digits : List Char} (hm : digits ∈ m.fraction) : digits ≠ [] := by
  rintro rfl
  exact (h.fraction [] hm).2.1 rfl

theorem Trim.ofText?_text (h : m.Trim) : ofText? m.text = some m := by
  obtain ⟨whole, fraction, unit⟩ := m
  obtain ⟨c, word, hword⟩ := List.exists_cons_of_ne_nil unit.word_plain.1
  obtain ⟨hdigit, hpoint⟩ := unit.word_plain.2 c (hword ▸ List.mem_cons_self)
  have hunit : ∀ d ∈ unit.word.head?, d.isDigit = false := by
    rw [hword]
    exact fun d hd => Option.some.inj hd ▸ hdigit
  have hlength := List.length_pos_iff.mpr h.whole.1
  cases fraction with
  | none =>
    have hplain : takeFraction unit.word = some (none, unit.word) := if_neg (by simp [hword, hpoint])
    simp [ofText?, text, takeRun_run hlength h.whole.2 hunit, hplain, TimeUnit.ofWord?_word]
  | some digits =>
    have hend : ∀ d ∈ ('.' :: (digits ++ unit.word)).head?, d.isDigit = false :=
      fun d hd => Option.some.inj hd ▸ rfl
    have hdigits := takeRun_run (List.length_pos_iff.mpr (h.fraction_ne_nil rfl)) (h.fraction digits rfl).1 hunit
    have hpointed : takeFraction ('.' :: (digits ++ unit.word)) = some (some digits, unit.word) := by
      simp [takeFraction, hdigits]
    simp [ofText?, text, takeRun_run hlength h.whole.2 hend, hpointed, TimeUnit.ofWord?_word]

theorem getLast_append_word (front : List Char) (unit : TimeUnit) (h : front ++ unit.word ≠ []) :
    (front ++ unit.word).getLast h ∈ unit.word := by
  rw [List.getLast_append_of_right_ne_nil _ _ unit.word_plain.1]
  exact List.getLast_mem _

/-- A digit or the point of a number goes on, and so does what no digit follows. -/
theorem Trim.isChain_text (h : m.Trim) : m.text.IsChain fun a b => goesOn a b := by
  have hnumber : ∀ a ∈ m.whole ++ m.fraction.elim [] ('.' :: ·), a.isDigit ∨ a = '.' := by
    obtain ⟨whole, fraction, unit⟩ := m
    refine List.forall_mem_append.mpr ⟨fun a ha => .inl (h.whole.2 a ha), ?_⟩
    cases fraction with
    | none => exact List.forall_mem_nil _
    | some digits => exact List.forall_mem_cons.mpr ⟨.inr rfl, fun a ha => .inl ((h.fraction digits rfl).1 a ha)⟩
  have hword : ∀ b ∈ m.unit.word, b.isDigit = false := fun b hb => (m.unit.word_plain.2 b hb).1
  have hon {a : Char} (ha : a.isDigit ∨ a = '.') (b : Char) : goesOn a b := by
    rcases ha with ha | rfl <;> simp [goesOn, *]
  rw [text, ← List.append_assoc]
  refine (List.pairwise_append.mpr ⟨?_, ?_, fun a ha b _ => hon (hnumber a ha) b⟩).isChain
  · exact List.pairwise_of_forall_mem_list fun a ha b _ => hon (hnumber a ha) b
  · exact List.pairwise_of_forall_mem_list fun a _ b hb => by simp [goesOn, hword b hb]

theorem Trim.text_ne_nil (h : m.Trim) : m.text ≠ [] := by simp [text, h.whole.1]

/-- A measure ends with a letter, and the next one begins with a digit. -/
theorem Trim.ends {n : Measure} (hm : m.Trim) (hn : n.Trim) :
    goesOn (m.text.getLast hm.text_ne_nil) (n.text.head hn.text_ne_nil) = false := by
  have hlast : m.text.getLast hm.text_ne_nil ∈ m.unit.word := by
    simp only [text, ← List.append_assoc]
    exact getLast_append_word _ _ _
  have hhead : n.text.head hn.text_ne_nil ∈ n.whole := by
    simp only [text]
    rw [List.head_append_of_ne_nil hn.whole.1]
    exact List.head_mem _
  obtain ⟨hdigit, hpoint⟩ := m.unit.word_plain.2 _ hlast
  simp [goesOn, hdigit, hpoint, hn.whole.2 _ hhead]

/-- Measures that are written one after the other are read again. -/
theorem listOf?_texts (h : ∀ m ∈ ms, m.Trim) : listOf? (String.ofList (ms.flatMap text)) = some ms := by
  have hne : [] ∉ ms.map text := by
    intro hmem
    obtain ⟨m, hm, htext⟩ := List.mem_map.mp hmem
    exact (h m hm).text_ne_nil htext
  have hwithin : ∀ cs ∈ ms.map text, cs.IsChain fun a b => goesOn a b := by
    intro cs hcs
    obtain ⟨m, hm, rfl⟩ := List.mem_map.mp hcs
    exact (h m hm).isChain_text
  have hbetween : (ms.map text).IsChain fun a b => ∃ ha hb, goesOn (a.getLast ha) (b.head hb) = false := by
    refine (List.pairwise_of_forall_mem_list fun a ha b hb => ?_).isChain
    obtain ⟨m, hm, rfl⟩ := List.mem_map.mp ha
    obtain ⟨n, hn, rfl⟩ := List.mem_map.mp hb
    exact ⟨(h m hm).text_ne_nil, (h n hn).text_ne_nil, (h m hm).ends (h n hn)⟩
  rw [listOf?, String.toList_ofList, List.flatMap_def, List.splitBy_flatten hne hwithin hbetween]
  clear hne hwithin hbetween
  induction ms with
  | nil => rfl
  | cons m ms ih =>
    obtain ⟨hm, hms⟩ := List.forall_mem_cons.mp h
    simp [List.mapM_cons, hm.ofText?_text, ih hms]

example : listOf? "1h0m30.05s" =
    some [⟨['1'], none, .hour⟩, ⟨['0'], none, .minute⟩, ⟨['3', '0'], some ['0', '5'], .second⟩] := by decide +kernel

/-- So many parts of a unit, of which ten to the `places` make one. -/
def ofParts (value places : Nat) (unit : TimeUnit) : Measure where
  whole := Nat.toDigits 10 (value / tenTo places)
  fraction :=
    if value % tenTo places = 0 then none else some (dropTrailingZeros (padded places (value % tenTo places)).toList)
  unit

theorem text_ofParts (value places : Nat) (unit : TimeUnit) :
    (ofParts value places unit).text = (unitText value places).toList ++ unit.word := by
  unfold unitText ofParts text
  split <;> simp [*, Nat.toString_eq_repr, Nat.toList_repr]

theorem dropTrailingZeros_append (cs : List Char) : ∃ k, dropTrailingZeros cs ++ List.replicate k '0' = cs := by
  have hzeros : cs.rtakeWhile (· == '0') = List.replicate _ '0' :=
    List.eq_replicate_iff.mpr ⟨rfl, fun c hc => by simpa using List.mem_rtakeWhile_imp hc⟩
  refine ⟨(cs.rtakeWhile (· == '0')).length, ?_⟩
  rw [← hzeros]
  exact List.rdropWhile_append_rtakeWhile

theorem getLast?_dropTrailingZeros (cs : List Char) : (dropTrailingZeros cs).getLast? ≠ some '0' := by
  intro h
  have hne : cs.rdropWhile (· == '0') ≠ [] := by
    intro hnil
    have hdrop : dropTrailingZeros cs = [] := hnil
    rw [hdrop] at h
    cases h
  have hlast := List.rdropWhile_last_not (· == '0') cs hne
  rw [Option.some.inj ((List.getLast?_eq_some_getLast hne).symm.trans h)] at hlast
  exact hlast rfl

theorem digitsValue_append_zeros (cs : List Char) (k : Nat) :
    digitsValue (cs ++ List.replicate k '0') = digitsValue cs * 10 ^ k := by
  rw [digitsValue_eq, Nat.ofDigitChars_append, Nat.ofDigitChars_replicate_zero, ← digitsValue_eq, Nat.mul_comm]

/-- The digits after the point say what is left over. -/
theorem digitsValue_fraction {rest places : Nat} (hpos : rest ≠ 0) (h : rest < 10 ^ places) :
    ∃ digits k, dropTrailingZeros (padded places rest).toList = digits ∧ digits.length + k = places ∧
      digitsValue digits * 10 ^ k = rest ∧ ∀ c ∈ digits, c.isDigit := by
  obtain ⟨k, hdigits⟩ := dropTrailingZeros_append (padded places rest).toList
  have hplaces : 0 < places := by
    rcases Nat.eq_zero_or_pos places with rfl | hplaces
    · exact absurd (Nat.lt_one_iff.mp h) hpos
    · exact hplaces
  have hlength := length_padded hplaces h
  rw [← hdigits, List.length_append, List.length_replicate] at hlength
  refine ⟨_, k, rfl, hlength, ?_, fun c hc => isDigit_of_mem_padded (hdigits ▸ List.mem_append_left _ hc)⟩
  rw [← digitsValue_append_zeros, hdigits, digitsValue_padded]

theorem ofParts_trim (value places : Nat) (unit : TimeUnit) : (ofParts value places unit).Trim := by
  refine ⟨⟨Nat.toDigits_ne_nil, isDigit_of_mem_toDigits⟩, fun digits hdigits => ?_⟩
  obtain ⟨hrest, hdigits⟩ := Option.ite_none_left_eq_some.mp hdigits
  obtain rfl := Option.some.inj hdigits
  obtain ⟨_, k, rfl, -, hvalue, hall⟩ := digitsValue_fraction hrest (Nat.mod_lt value (Nat.pow_pos (by decide)))
  refine ⟨hall, fun hzero => hrest ?_, getLast?_dropTrailingZeros _⟩
  rw [← hvalue, hzero, Nat.zero_mul]

/-- Nothing of the number is lost. -/
theorem count_ofParts (value places : Nat) (unit : TimeUnit) :
    (ofParts value places unit).count = value / 10 ^ places := by
  have hsplit : (value : ℚ) = 10 ^ places * (value / tenTo places : ℕ) + (value % tenTo places : ℕ) := by
    exact_mod_cast (Nat.div_add_mod value (10 ^ places)).symm
  have hten : (10 : ℚ) ^ places ≠ 0 := by positivity
  unfold count ofParts
  rw [digitsValue_toDigits]
  split
  next hrest =>
    rw [hsplit, hrest]
    simp
  next hrest =>
    obtain ⟨digits, k, hdigits, hlength, hvalue, -⟩ :=
      digitsValue_fraction hrest (Nat.mod_lt value (Nat.pow_pos (by decide)))
    have hvalue : ((value % tenTo places : ℕ) : ℚ) = digitsValue digits * 10 ^ k := by exact_mod_cast hvalue.symm
    have hlength : (10 : ℚ) ^ places = 10 ^ digits.length * 10 ^ k := by rw [← pow_add, hlength]
    rw [hdigits, Option.elim_some, hsplit, hvalue, add_div, mul_div_cancel_left₀ _ hten, hlength,
      mul_div_mul_right _ _ (by positivity)]

/-- Parts of nanoseconds make up a measure of as many nanoseconds. -/
theorem nanos_ofParts (value : Nat) {places : Nat} {unit : TimeUnit} (h : unit.nanos = 10 ^ places) :
    (ofParts value places unit).nanos = value := by
  have hunit : ((ofParts value places unit).unit.nanos : ℚ) = 10 ^ places := by exact_mod_cast h
  rw [nanos, count_ofParts, hunit, div_mul_cancel₀ _ (by positivity)]

theorem nanos_ofParts_zero (value : Nat) (unit : TimeUnit) :
    (ofParts value 0 unit).nanos = (value * unit.nanos : ℕ) := by
  rw [nanos, count_ofParts, pow_zero, div_one, Nat.cast_mul]
  rfl

end Measure

namespace Span

open LabStream.Measure

/-- The hours and minutes of so many seconds; no minutes without hours unless there are some. -/
def frontMeasures (seconds : Nat) : List Measure :=
  if seconds / 3600 > 0 then [ofParts (seconds / 3600) 0 .hour, ofParts (seconds % 3600 / 60) 0 .minute]
  else if seconds % 3600 / 60 > 0 then [ofParts (seconds % 3600 / 60) 0 .minute]
  else []

/-- The measures that the text of a length of time is made of. -/
def measures (d : Span) : List Measure :=
  if d.nanos = 0 then [ofParts 0 9 .second]
  else if d.nanos < 1000 then [ofParts d.nanos 0 .nano]
  else if d.nanos < 1000000 then [ofParts d.nanos 3 .micro]
  else if d.nanos < nanosPerSecond then [ofParts d.nanos 6 .milli]
  else frontMeasures d.wholeSeconds ++ [ofParts (d.wholeSeconds % 60 * nanosPerSecond + d.subNanos) 9 .second]

theorem frontMeasures_trim (seconds : Nat) : ∀ m ∈ frontMeasures seconds, m.Trim := by
  unfold frontMeasures
  split_ifs <;> simp [ofParts_trim]

theorem measures_trim (d : Span) : ∀ m ∈ d.measures, m.Trim := by
  unfold measures
  split_ifs
  iterate 4 exact List.forall_mem_singleton.mpr (ofParts_trim _ _ _)
  exact List.forall_mem_append.mpr ⟨frontMeasures_trim _, List.forall_mem_singleton.mpr (ofParts_trim _ _ _)⟩

theorem unitText_zero (value : Nat) : unitText value 0 = toString value := by
  simp [unitText, tenTo, Nat.mod_one]

theorem ofList_texts_append (ms : List Measure) (value places : Nat) (unit : TimeUnit) :
    String.ofList ((ms ++ [ofParts value places unit]).flatMap text) =
      String.ofList (ms.flatMap text) ++ unitText value places ++ String.ofList unit.word := by
  simp [text_ofParts, String.ofList_append, String.append_assoc]

theorem ofList_frontMeasures (seconds : Nat) : String.ofList ((frontMeasures seconds).flatMap text) =
    if seconds / 3600 > 0 then toString (seconds / 3600) ++ "h" ++ toString (seconds % 3600 / 60) ++ "m"
    else if seconds % 3600 / 60 > 0 then toString (seconds % 3600 / 60) ++ "m"
    else "" := by
  refine String.toList_injective ?_
  unfold frontMeasures
  split_ifs <;> simp [text_ofParts, unitText_zero, TimeUnit.word]

/-- The text of a length of time is that of its measures, one after the other. -/
theorem windowText_eq (d : Span) : d.windowText = String.ofList (d.measures.flatMap text) := by
  have hsingle (value places : Nat) (unit : TimeUnit) : String.ofList ([ofParts value places unit].flatMap text) =
      unitText value places ++ String.ofList unit.word := by
    rw [← List.nil_append [ofParts value places unit], ofList_texts_append]
    rfl
  unfold windowText measures
  split_ifs
  · rw [hsingle]
    decide +kernel
  · rw [hsingle, unitText_zero]
    rfl
  · rw [hsingle]
    rfl
  · rw [hsingle]
    rfl
  · rw [ofList_texts_append, ofList_frontMeasures]
    rfl

theorem sum_frontMeasures (seconds : Nat) : ((frontMeasures seconds).map Measure.nanos).sum =
    (seconds / 60 * TimeUnit.minute.nanos : ℕ) := by
  have hhour : TimeUnit.hour.nanos = 60 * TimeUnit.minute.nanos := by decide
  unfold frontMeasures
  split_ifs with hhours hminutes
  · have hparts : seconds / 3600 * 60 + seconds % 3600 / 60 = seconds / 60 := by omega
    rw [List.map_cons, List.map_singleton, List.sum_cons, List.sum_singleton, nanos_ofParts_zero, nanos_ofParts_zero,
      ← Nat.cast_add, hhour, ← Nat.mul_assoc, ← Nat.add_mul, hparts]
  · have hparts : seconds % 3600 / 60 = seconds / 60 := by omega
    rw [List.map_singleton, List.sum_singleton, nanos_ofParts_zero, hparts]
  · have hnone : seconds / 60 = 0 := by omega
    rw [hnone, Nat.zero_mul]
    rfl

/-- The measures add up to the length of time. -/
theorem sum_measures (d : Span) : (d.measures.map Measure.nanos).sum = d.nanos := by
  unfold measures
  split_ifs with hzero
  · rw [List.map_singleton, List.sum_singleton, nanos_ofParts 0 rfl, hzero]
  · rw [List.map_singleton, List.sum_singleton, nanos_ofParts _ rfl]
  · rw [List.map_singleton, List.sum_singleton, nanos_ofParts _ rfl]
  · rw [List.map_singleton, List.sum_singleton, nanos_ofParts _ rfl]
  · have hwhole : d.wholeSeconds / 60 * TimeUnit.minute.nanos +
        (d.wholeSeconds % 60 * nanosPerSecond + d.subNanos) = d.nanos := by
      have hminute : TimeUnit.minute.nanos = 60 * nanosPerSecond := rfl
      have hseconds : d.nanos = nanosPerSecond * d.wholeSeconds + d.subNanos := (Nat.div_add_mod _ _).symm
      have hsplit := Nat.div_add_mod d.wholeSeconds 60
      calc d.wholeSeconds / 60 * TimeUnit.minute.nanos + (d.wholeSeconds % 60 * nanosPerSecond + d.subNanos)
          = nanosPerSecond * (60 * (d.wholeSeconds / 60) + d.wholeSeconds % 60) + d.subNanos := by
            rw [hminute]
            ring
        _ = d.nanos := by rw [hsplit, hseconds]
    rw [List.map_append, List.sum_append, sum_frontMeasures, List.map_singleton, List.sum_singleton,
      nanos_ofParts _ rfl, ← Nat.cast_add, hwhole]

theorem count_ofParts_lt {value places : Nat} (h : value < 60 * 10 ^ places) (unit : TimeUnit) :
    (ofParts value places unit).count < 60 := by
  rw [count_ofParts, div_lt_iff₀ (by positivity)]
  exact_mod_cast h

/-- What stands after hours or minutes is below sixty. -/
theorem measures_below_sixty (d : Span) :
    d.measures.Pairwise fun m n => m.unit = .hour ∨ m.unit = .minute → n.count < 60 := by
  unfold measures
  split_ifs
  iterate 4 exact List.pairwise_singleton _ _
  have hminutes : (ofParts (d.wholeSeconds % 3600 / 60) 0 .minute).count < 60 := count_ofParts_lt (by omega) _
  have hseconds : (ofParts (d.wholeSeconds % 60 * nanosPerSecond + d.subNanos) 9 .second).count < 60 := by
    have hsub : d.subNanos < nanosPerSecond := Nat.mod_lt _ (by decide)
    have hmod : d.wholeSeconds % 60 < 60 := Nat.mod_lt _ (by decide)
    refine count_ofParts_lt ?_ _
    calc d.wholeSeconds % 60 * nanosPerSecond + d.subNanos
        < d.wholeSeconds % 60 * nanosPerSecond + nanosPerSecond := Nat.add_lt_add_left hsub _
      _ = (d.wholeSeconds % 60 + 1) * nanosPerSecond := (Nat.succ_mul _ _).symm
      _ ≤ 60 * nanosPerSecond := Nat.mul_le_mul_right _ hmod
  refine List.pairwise_append.mpr ⟨?_, List.pairwise_singleton _ _, fun m _ n hn _ => ?_⟩
  · unfold frontMeasures
    split_ifs
    · exact List.pairwise_pair.mpr fun _ => hminutes
    · exact List.pairwise_singleton _ _
    · exact .nil
  · obtain rfl := List.mem_singleton.mp hn
    exact hseconds

theorem measures_below_second (d : Span) : (d.nanos < nanosPerSecond → d.measures.length = 1) ∧
    (d.measures.filter fun m => m.unit.nanos < nanosPerSecond).length ≤ 1 := by
  have hsingle (value places : Nat) (unit : TimeUnit) :
      ([ofParts value places unit].filter fun m => m.unit.nanos < nanosPerSecond).length ≤ 1 :=
    List.length_filter_le _ _
  have hfront (seconds : Nat) : (frontMeasures seconds).filter (fun m => m.unit.nanos < nanosPerSecond) = [] := by
    have hcoarse : ¬ TimeUnit.hour.nanos < nanosPerSecond ∧ ¬ TimeUnit.minute.nanos < nanosPerSecond := by decide
    unfold frontMeasures
    split_ifs <;> simp [ofParts, hcoarse]
  unfold measures
  split_ifs with _ _ _ hsecond
  iterate 4 exact ⟨fun _ => rfl, hsingle _ _ _⟩
  refine ⟨fun h => absurd h hsecond, ?_⟩
  rw [List.filter_append, hfront, List.nil_append]
  exact hsingle _ _ _

/-- The text of a length of time gives it back exactly, so no other length has the text. After hours or minutes
every number is below sixty, below a second there is one unit only, and a fraction is there if it is not zero, and
without zeros at its end. -/
theorem windowText_exact :
    (∀ d : Span, ∃ measures, Measure.listOf? d.windowText = some measures ∧
      (measures.map Measure.nanos).sum = d.nanos ∧
      (measures.Pairwise fun m n => m.unit = .hour ∨ m.unit = .minute → n.count < 60) ∧
      (d.nanos < nanosPerSecond → measures.length = 1) ∧
      (measures.filter fun m => m.unit.nanos < nanosPerSecond).length ≤ 1 ∧
      ∀ m ∈ measures, ∀ digits ∈ m.fraction, digitsValue digits ≠ 0 ∧ digits.getLast? ≠ some '0') ∧
    ∀ d e : Span, d.windowText = e.windowText → d = e := by
  have hread (d : Span) : Measure.listOf? d.windowText = some d.measures := by
    rw [windowText_eq, listOf?_texts d.measures_trim]
  refine ⟨fun d => ⟨d.measures, hread d, sum_measures d, measures_below_sixty d, (measures_below_second d).1,
    (measures_below_second d).2, fun m hm digits hdigits => ((measures_trim d m hm).fraction digits hdigits).2⟩,
    fun d e h => ?_⟩
  have hsame : d.measures = e.measures := Option.some.inj ((hread d).symm.trans (h ▸ hread e))
  have hnanos : (d.nanos : ℚ) = e.nanos := by rw [← sum_measures d, ← sum_measures e, hsame]
  cases d
  cases e
  exact congrArg Span.mk (Nat.cast_injective hnanos)

theorem windowText_exact_of_hour : (ofMillis 3630050).windowText = "1h0m30.05s" ∧
    (∃ measures, Measure.listOf? "1h0m30.05s" = some measures ∧ (measures.map Measure.nanos).sum = 3630050000000) ∧
    ∀ d : Span, d.windowText = "1h0m30.05s" → d = ofMillis 3630050 := by
  have htext : (ofMillis 3630050).windowText = "1h0m30.05s" := by decide +kernel
  obtain ⟨hexact, honly⟩ := windowText_exact
  obtain ⟨measures, hread, hsum, -⟩ := hexact (ofMillis 3630050)
  refine ⟨htext, ⟨measures, htext ▸ hread, hsum.trans ?_⟩, fun d hd => honly d _ (hd.trans htext.symm)⟩
  norm_num [ofMillis]

end Span

end LabStream
