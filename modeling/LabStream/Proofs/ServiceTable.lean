import LabStream.Proofs.TextCuts

namespace LabStream

/-- A number that is read may have a plus sign and zeros in front. -/
theorem readNatural_eq_some_iff {limit n : Nat} {cs : List Char} : readNatural limit cs = some n ↔
    ∃ sign digits, cs = sign ++ digits ∧ (sign = [] ∨ sign = ['+']) ∧ (digits ≠ [] ∧ ∀ c ∈ digits, c.isDigit) ∧
      digitsValue digits = n ∧ n ≤ limit := by
  have hread (digits : List Char) : (if digits.isEmpty || !digits.all Char.isDigit then none
      else if digitsValue digits ≤ limit then some (digitsValue digits) else none) = some n ↔
      (digits ≠ [] ∧ ∀ c ∈ digits, c.isDigit) ∧ digitsValue digits = n ∧ n ≤ limit := by
    have hplain : ¬ (digits.isEmpty || !digits.all Char.isDigit) ↔ digits ≠ [] ∧ ∀ c ∈ digits, c.isDigit := by simp
    rw [Option.ite_none_left_eq_some, Option.ite_none_right_eq_some, hplain, Option.some.injEq]
    constructor
    · rintro ⟨hdigits, hle, rfl⟩
      exact ⟨hdigits, rfl, hle⟩
    · rintro ⟨hdigits, rfl, hle⟩
      exact ⟨hdigits, hle, rfl⟩
  unfold readNatural
  split
  next rest =>
    rw [hread]
    constructor
    · rintro ⟨hdigits, hvalue, hle⟩
      exact ⟨['+'], rest, rfl, .inr rfl, hdigits, hvalue, hle⟩
    · rintro ⟨sign, digits, hcs, rfl | rfl, hdigits, hvalue, hle⟩
      · have hplus := hdigits.2 '+' (by rw [← List.nil_append digits, ← hcs]; exact List.mem_cons_self)
        exact absurd hplus (by decide)
      · obtain rfl := List.cons.inj hcs |>.2
        exact ⟨hdigits, hvalue, hle⟩
  next hplus =>
    rw [hread]
    constructor
    · rintro ⟨hdigits, hvalue, hle⟩
      exact ⟨[], cs, rfl, .inl rfl, hdigits, hvalue, hle⟩
    · rintro ⟨sign, digits, hcs, rfl | rfl, hdigits, hvalue, hle⟩
      · obtain rfl : cs = digits := hcs
        exact ⟨hdigits, hvalue, hle⟩
      · exact absurd hcs (hplus digits)

/-- The word for a transport protocol after a port. -/
def Transport.word : Transport → List Char
  | tcp => "tcp".toList
  | udp => "udp".toList

namespace ServiceNames

theorem transportOf_eq_some_iff {word : List Char} {t : Transport} : transportOf word = some t ↔ word = t.word := by
  unfold transportOf
  split_ifs with htcp hudp
  · subst htcp
    cases t <;> decide
  · subst hudp
    cases t <;> decide
  · cases t <;> simp [Transport.word] at * <;> assumption

/-- A port with its protocol, as in `22/tcp`. -/
inductive Place : List Char → Transport → Nat → Prop
  | intro {sign digits : List Char} (hsign : sign = [] ∨ sign = ['+'])
      (hdigits : digits ≠ [] ∧ ∀ c ∈ digits, c.isDigit) (hlimit : digitsValue digits ≤ 65535) (t : Transport) :
      Place (sign ++ digits ++ '/' :: t.word) t (digitsValue digits)

/-- The lines that list an entry: a name, blanks, and a port with its protocol; then nothing, a blank or a
comment. -/
inductive Lists : List Char → ServiceEntry → Prop
  | intro {front name gap place rest : List Char} {t : Transport} {port : Nat} (hfront : ∀ c ∈ front, isBlank c)
      (hname : name ≠ [] ∧ ∀ c ∈ name, isBlank c = false ∧ c ≠ '#') (hgap : gap ≠ [] ∧ ∀ c ∈ gap, isBlank c)
      (hplace : Place place t port) (hrest : ∀ c ∈ rest.head?, isBlank c ∨ c = '#') :
      Lists (front ++ (name ++ (gap ++ (place ++ rest)))) ⟨t, port, String.ofList name⟩

theorem plain_of_isDigit {c : Char} (h : c.isDigit) : isBlank c = false ∧ c ≠ '#' ∧ c ≠ '/' := by
  have hascii : ∀ n < 58, (Char.ofNat n).isDigit →
      isBlank (Char.ofNat n) = false ∧ Char.ofNat n ≠ '#' ∧ Char.ofNat n ≠ '/' := by decide
  have hc := hascii c.toNat (Nat.lt_succ_of_le (Char.isDigit_iff_toNat.mp h).2)
  rw [Char.ofNat_toNat] at hc
  exact hc h

theorem plain_of_mem_sign {sign digits : List Char} (hsign : sign = [] ∨ sign = ['+'])
    (hdigits : ∀ c ∈ digits, c.isDigit) {c : Char} (hc : c ∈ sign ++ digits) :
    isBlank c = false ∧ c ≠ '#' ∧ c ≠ '/' := by
  rcases List.mem_append.mp hc with hc | hc
  · rcases hsign with rfl | rfl
    · cases hc
    · obtain rfl := List.mem_singleton.mp hc
      decide
  · exact plain_of_isDigit (hdigits c hc)

theorem Place.plain {place : List Char} {t : Transport} {port : Nat} (h : Place place t port) :
    place ≠ [] ∧ ∀ c ∈ place, isBlank c = false ∧ c ≠ '#' := by
  obtain ⟨hsign, hdigits, -, t⟩ := h
  have hword : ('/' :: t.word).all fun c => isBlank c = false ∧ c ≠ '#' := by
    cases t <;> decide
  refine ⟨by simp, fun c hc => ?_⟩
  rcases List.mem_append.mp hc with hc | hc
  · exact (plain_of_mem_sign hsign hdigits.2 hc).imp_right And.left
  · exact of_decide_eq_true (List.all_eq_true.mp hword c hc)

/-- A port with its protocol is read at the slash. -/
theorem place_iff {place : List Char} {t : Transport} {port : Nat} : Place place t port ↔
    readNatural 65535 (place.takeWhile (· ≠ '/')) = some port ∧
      ∃ slash word, place.dropWhile (· ≠ '/') = slash :: word ∧ transportOf word = some t := by
  constructor
  · rintro @⟨sign, digits, hsign, hdigits, hlimit, t⟩
    have hfront : '/' ∉ sign ++ digits := fun hc => (plain_of_mem_sign hsign hdigits.2 hc).2.2 rfl
    have hslash : ∀ c ∈ ('/' :: t.word).head?, c = '/' := fun c hc => (Option.some.inj hc).symm
    rw [takeWhile_until hfront hslash, dropWhile_until hfront hslash]
    exact ⟨readNatural_eq_some_iff.mpr ⟨sign, digits, rfl, hsign, hdigits, rfl, hlimit⟩,
      '/', t.word, rfl, transportOf_eq_some_iff.mpr rfl⟩
  · rintro ⟨hport, slash, word, hword, ht⟩
    obtain ⟨sign, digits, hfront, hsign, hdigits, rfl, hlimit⟩ := readNatural_eq_some_iff.mp hport
    obtain rfl := transportOf_eq_some_iff.mp ht
    have hslash := List.head?_dropWhile_not (· ≠ '/') place
    have hplace := List.takeWhile_append_dropWhile (p := (· ≠ '/')) (l := place)
    rw [hword] at hslash
    rw [hfront, hword, show slash = '/' by simpa using hslash] at hplace
    exact hplace ▸ .intro hsign hdigits hlimit t

/-- The first words of a line, before any comment, are those of an entry. -/
def Shows (line : List Char) (e : ServiceEntry) : Prop :=
  ∃ name place more, blankWords (line.takeWhile (· ≠ '#')) = name :: place :: more ∧
    Place place e.transport e.port ∧ e.name = String.ofList name

theorem entry?_eq_some_iff_shows {line : List Char} {e : ServiceEntry} : entry? line = some e ↔ Shows line e := by
  unfold entry?
  split
  next name place more hwords =>
    obtain ⟨transport, port, text⟩ := e
    simp only [Shows, place_iff, Option.bind_eq_bind, Option.bind_eq_some_iff]
    constructor
    · rintro ⟨port', hport, hword⟩
      split at hword
      next => cases hword
      next slash word hdrop =>
        obtain ⟨transport', ht, he⟩ := Option.bind_eq_some_iff.mp hword
        obtain ⟨rfl, rfl, rfl⟩ := ServiceEntry.mk.inj (Option.some.inj he)
        exact ⟨name, place, more, hwords, ⟨hport, slash, word, hdrop, ht⟩, rfl⟩
    · rintro ⟨name', place', more', heq, ⟨hport, slash, word, hdrop, ht⟩, rfl⟩
      obtain ⟨rfl, hplace⟩ := List.cons.inj (hwords.symm.trans heq)
      obtain ⟨rfl, -⟩ := List.cons.inj hplace
      refine ⟨port, hport, ?_⟩
      rw [hdrop]
      simp [ht]
  next hwords =>
    constructor
    · nofun
    · rintro ⟨name, place, more, heq, -⟩
      exact absurd heq (hwords name place more)

theorem ne_hash_of_isBlank {c : Char} (h : isBlank c) : c ≠ '#' := by
  rintro rfl
  exact absurd h (by decide)

theorem Shows.lists {line : List Char} {e : ServiceEntry} (h : Shows line e) : Lists line e := by
  obtain ⟨name, place, more, hwords, hplace, hname⟩ := h
  obtain ⟨shown, remark, rfl, hshown, hremark⟩ := exists_run (· ≠ '#') line
  rw [takeWhile_run hshown hremark] at hwords
  obtain ⟨front, tail, rfl, hfront, hrun, htail, hwords⟩ := of_runsOf_eq_cons hwords
  obtain ⟨gap, rest, rfl, hgap, -, hrest, -⟩ := of_runsOf_eq_cons hwords
  obtain ⟨transport, port, text⟩ := e
  obtain rfl : text = String.ofList name := hname
  have hgapped : gap ≠ [] := by
    rintro rfl
    obtain ⟨c, cs, rfl⟩ := List.exists_cons_of_ne_nil hplace.plain.1
    have hblank := htail c rfl
    rw [(hplace.plain.2 c List.mem_cons_self).1] at hblank
    cases hblank
  have hline : front ++ (name ++ (gap ++ (place ++ rest))) ++ remark =
      front ++ (name ++ (gap ++ (place ++ (rest ++ remark)))) := by simp only [List.append_assoc]
  rw [hline]
  refine .intro hfront ⟨hrun.1, fun c hc => ⟨hrun.2 c hc, ?_⟩⟩ ⟨hgapped, hgap⟩ hplace fun c hc => ?_
  · exact of_decide_eq_true (hshown c (List.mem_append_right _ (List.mem_append_left _ hc)))
  · rw [List.head?_append] at hc
    rcases Option.or_eq_some_iff.mp hc with hc | ⟨-, hc⟩
    · exact .inl (hrest c hc)
    · exact .inr (by simpa using hremark c hc)

theorem Lists.shows {line : List Char} {e : ServiceEntry} (h : Lists line e) : Shows line e := by
  obtain @⟨front, name, gap, place, rest, t, port, hfront, hname, hgap, hplace, hrest⟩ := h
  have hkept {cs : List Char} (h : ∀ c ∈ cs, c ≠ '#') (tail : List Char) :
      (cs ++ tail).takeWhile (· ≠ '#') = cs ++ tail.takeWhile (· ≠ '#') :=
    List.takeWhile_append_of_pos fun c hc => decide_eq_true (h c hc)
  have hshown : (front ++ (name ++ (gap ++ (place ++ rest)))).takeWhile (· ≠ '#') =
      front ++ (name ++ (gap ++ (place ++ rest.takeWhile (· ≠ '#')))) := by
    rw [hkept fun c hc => ne_hash_of_isBlank (hfront c hc), hkept fun c hc => (hname.2 c hc).2,
      hkept fun c hc => ne_hash_of_isBlank (hgap.2 c hc), hkept fun c hc => (hplace.plain.2 c hc).2]
  have hstart (tail : List Char) : ∀ c ∈ (gap ++ tail).head?, isBlank c := by
    obtain ⟨d, ds, rfl⟩ := List.exists_cons_of_ne_nil hgap.1
    exact fun c hc => Option.some.inj hc ▸ hgap.2 d List.mem_cons_self
  have htail : ∀ c ∈ (rest.takeWhile (· ≠ '#')).head?, isBlank c := by
    cases rest with
    | nil => simp
    | cons d rest =>
      rcases hrest d rfl with hd | rfl
      · simp [ne_hash_of_isBlank hd, hd]
      · simp
  have hwords : blankWords (front ++ (name ++ (gap ++ (place ++ rest.takeWhile (· ≠ '#'))))) =
      name :: place :: blankWords (rest.takeWhile (· ≠ '#')) := by
    rw [blankWords, runsOf_stops_append hfront, runsOf_run hname.1 (fun c hc => (hname.2 c hc).1) (hstart _),
      runsOf_stops_append hgap.2, runsOf_run hplace.plain.1 (fun c hc => (hplace.plain.2 c hc).1) htail, blankWords]
  exact ⟨name, place, _, hshown ▸ hwords, hplace, rfl⟩

/-- The lines from which an entry is read are those that list it. -/
theorem entry?_eq_some_iff {line : List Char} {e : ServiceEntry} : entry? line = some e ↔ Lists line e :=
  entry?_eq_some_iff_shows.trans ⟨Shows.lists, Lists.shows⟩

/-- The name that a line has for a port. -/
def nameIn (t : Transport) (port : Nat) (line : List Char) : Option String := do
  let e ← entry? line
  if e.transport = t ∧ e.port = port then some e.name else none

variable {t : Transport} {port : Nat}

theorem nameIn_eq_some_iff {line : List Char} {name : String} :
    nameIn t port line = some name ↔ Lists line ⟨t, port, name⟩ := by
  rw [← entry?_eq_some_iff, nameIn, Option.bind_eq_bind, Option.bind_eq_some_iff]
  constructor
  · rintro ⟨⟨transport, port', name'⟩, he, hname⟩
    obtain ⟨⟨rfl, rfl⟩, hsame⟩ := Option.ite_none_right_eq_some.mp hname
    obtain rfl : name' = name := Option.some.inj hsame
    exact he
  · exact fun he => ⟨_, he, by simp⟩

theorem nameIn_eq_none_iff {line : List Char} :
    nameIn t port line = none ↔ ∀ name, ¬ Lists line ⟨t, port, name⟩ := by
  simp only [Option.eq_none_iff_forall_ne_some, ne_eq, nameIn_eq_some_iff]

theorem lookup_add (names : ServiceNames) (e : ServiceEntry) : (names.add e).lookup t port =
    (names.lookup t port).or (if e.transport = t ∧ e.port = port then some e.name else none) := by
  have hinsert (map : Std.ExtTreeMap Nat String) :
      (map.insertIfNew e.port e.name)[port]? = map[port]?.or (if e.port = port then some e.name else none) := by
    rw [Std.ExtTreeMap.getElem?_insertIfNew]
    by_cases hport : e.port = port
    · subst hport
      cases hmap : map[e.port]? <;> simp [Std.ExtTreeMap.mem_iff_isSome_getElem?, hmap]
    · simp [hport]
  obtain ⟨transport, port', name⟩ := e
  cases transport <;> cases t <;> simp [add, lookup, hinsert]

/-- What is there already stays, so the first line that has a name counts. -/
theorem lookup_foldl_add (names : ServiceNames) (ls : List (List Char)) :
    ((ls.filterMap entry?).foldl add names).lookup t port =
      (names.lookup t port).or (ls.findSome? (nameIn t port)) := by
  induction ls generalizing names with
  | nil => simp
  | cons line ls ih =>
    rw [List.findSome?_cons]
    cases he : entry? line with
    | none =>
      have hname : nameIn t port line = none := by simp [nameIn, he]
      rw [List.filterMap_cons_none he, ih, hname]
    | some e =>
      have hname : nameIn t port line = if e.transport = t ∧ e.port = port then some e.name else none := by
        simp [nameIn, he]
      rw [List.filterMap_cons_some he, List.foldl_cons, ih, lookup_add, Option.or_assoc, hname]
      split <;> simp

theorem lookup_ofText (text : String) :
    (ofText text).lookup t port = (lines text.toList).findSome? (nameIn t port) := by
  rw [ofText, lookup_foldl_add]
  cases t <;> simp [lookup, empty]

theorem entry?_congr {line other : List Char}
    (h : blankWords (line.takeWhile (· ≠ '#')) = blankWords (other.takeWhile (· ≠ '#'))) :
    entry? line = entry? other := by
  unfold entry?
  rw [h]

/-- A remark at the end of a line is no part of its entry. -/
theorem entry?_remark (line remark : List Char) : entry? (line ++ '#' :: remark) = entry? line := by
  obtain ⟨shown, rest, rfl, hshown, hrest⟩ := exists_run (· ≠ '#') line
  have hend : ∀ c ∈ (rest ++ '#' :: remark).head?, decide (c ≠ '#') = false := by
    cases rest with
    | nil => simp
    | cons c rest => exact hrest
  refine entry?_congr (congrArg blankWords ?_)
  rw [List.append_assoc, takeWhile_run hshown hend, takeWhile_run hshown hrest]

theorem entry?_blank {c : Char} (h : isBlank c) (line : List Char) : entry? (line ++ [c]) = entry? line := by
  obtain ⟨shown, rest, rfl, hshown, hrest⟩ := exists_run (· ≠ '#') line
  refine entry?_congr ?_
  rw [takeWhile_run hshown hrest]
  cases rest with
  | nil =>
    have hkept : ([c] : List Char).takeWhile (· ≠ '#') = [c] := by simp [ne_hash_of_isBlank h]
    rw [List.append_nil, List.takeWhile_append_of_pos hshown, hkept, blankWords, runsOf_append_stop h, blankWords]
  | cons d rest =>
    have hend : ∀ a ∈ (d :: (rest ++ [c])).head?, decide (a ≠ '#') = false := hrest
    rw [List.append_assoc, List.cons_append, takeWhile_run hshown hend]

/-- Two parts of a table make a table in which the first part counts before the second one. -/
theorem lookup_append (a b : String) : (ofText (a ++ "\n" ++ b)).lookup t port =
    ((ofText a).lookup t port).or ((ofText b).lookup t port) := by
  have hcut : (a ++ "\n" ++ b).toList = a.toList ++ '\n' :: b.toList := by simp
  rw [lookup_ofText, lookup_ofText, lookup_ofText, hcut, lines_append_lines, List.findSome?_append]

theorem lookup_ofText_line {line : String} (h : '\n' ∉ line.toList) :
    (ofText line).lookup t port = nameIn t port line.toList := by
  rw [lookup_ofText, lines_of_line h, List.findSome?_singleton]

/-- What is added to the last line changes nothing if no line is changed by it. -/
theorem lookup_append_tail {tail : String} (hline : '\n' ∉ tail.toList)
    (h : ∀ line, entry? (line ++ tail.toList) = entry? line) (text : String) :
    (ofText (text ++ tail)).lookup t port = (ofText text).lookup t port := by
  have hlast {line : List Char} (hfeed : '\n' ∉ line) :
      (lines (line ++ tail.toList)).findSome? (nameIn t port) = (lines line).findSome? (nameIn t port) := by
    have hwhole : '\n' ∉ line ++ tail.toList := by simp [hfeed, hline]
    rw [lines_of_line hwhole, lines_of_line hfeed, List.findSome?_singleton, List.findSome?_singleton, nameIn, h,
      nameIn]
  rw [lookup_ofText, lookup_ofText, String.toList_append]
  rcases last_of_kind (· = '\n') text.toList with hnone | ⟨early, c, late, htext, rfl, hlate⟩
  · exact hlast fun hmem => hnone _ hmem rfl
  · rw [htext, List.append_assoc, List.cons_append, lines_append_lines, lines_append_lines, List.findSome?_append,
      List.findSome?_append, hlast fun hmem => hlate _ hmem rfl]

theorem lookup_remark {remark : String} (h : '\n' ∉ remark.toList) (text : String) :
    (ofText (text ++ "#" ++ remark)).lookup t port = (ofText text).lookup t port := by
  have htail : ("#" ++ remark).toList = '#' :: remark.toList := by simp
  rw [String.append_assoc]
  refine lookup_append_tail (by simp [htail, h]) (fun line => ?_) text
  rw [htail, entry?_remark]

theorem lookup_return (text : String) : (ofText (text ++ "\r")).lookup t port = (ofText text).lookup t port := by
  have htail : "\r".toList = ['\r'] := rfl
  refine lookup_append_tail (by decide) (fun line => ?_) text
  rw [htail, entry?_blank (by decide)]

theorem not_lists_of_blank {line : List Char} (h : ∀ c ∈ line, isBlank c) (e : ServiceEntry) : ¬ Lists line e := by
  have hshown : ∀ c ∈ line.takeWhile (· ≠ '#'), isBlank c := fun c hc => h c (List.takeWhile_subset _ hc)
  have hnone : entry? line = none := by
    unfold entry?
    rw [blankWords, runsOf_stops hshown]
  rw [← entry?_eq_some_iff, hnone]
  nofun

theorem not_lists_remark {front : List Char} (h : ∀ c ∈ front, isBlank c) (remark : List Char) (e : ServiceEntry) :
    ¬ Lists (front ++ '#' :: remark) e := by
  rw [← entry?_eq_some_iff, entry?_remark, entry?_eq_some_iff]
  exact not_lists_of_blank h e

/-- The name of an entry is a word. -/
theorem Lists.name {line : List Char} {e : ServiceEntry} (h : Lists line e) :
    e.name ≠ "" ∧ ∀ c ∈ e.name.toList, isBlank c = false ∧ c ≠ '#' := by
  obtain ⟨-, hname, -, -, -⟩ := h
  simpa using hname

/-- A table of services is the sum of its lines, in which what comes first counts. So the first line that lists a
name for a port decides, and lines that list none, remarks and carriage returns at the ends of lines change nothing.
Every name is a word. -/
theorem left_biased_sum (t : Transport) (port : Nat) :
    let name? (text : String) := (ofText text).lookup t port
    (∀ a b, name? (a ++ "\n" ++ b) = (name? a).or (name? b)) ∧
    (∀ text name, name? text = some name ↔ ∃ before line after, lines text.toList = before ++ line :: after ∧
      Lists line ⟨t, port, name⟩ ∧ ∀ earlier ∈ before, ∀ other, ¬ Lists earlier ⟨t, port, other⟩) ∧
    (∀ line : String, '\n' ∉ line.toList → (∀ name, ¬ Lists line.toList ⟨t, port, name⟩) → ∀ a b,
      name? (a ++ "\n" ++ line ++ "\n" ++ b) = name? (a ++ "\n" ++ b) ∧ name? (line ++ "\n" ++ b) = name? b ∧
        name? (a ++ "\n" ++ line) = name? a) ∧
    (∀ front remark : List Char, (∀ c ∈ front, isBlank c) → ∀ e, ¬ Lists front e ∧ ¬ Lists (front ++ '#' :: remark) e) ∧
    (∀ remark : String, '\n' ∉ remark.toList → ∀ a b, name? (a ++ "#" ++ remark) = name? a ∧
      name? (a ++ "#" ++ remark ++ "\n" ++ b) = name? (a ++ "\n" ++ b)) ∧
    (∀ a b, name? (a ++ "\r\n" ++ b) = name? (a ++ "\n" ++ b)) ∧
    ∀ text name, name? text = some name → name ≠ "" ∧ ∀ c ∈ name.toList, isBlank c = false ∧ c ≠ '#' := by
  intro name?
  have hfirst (text name : String) : name? text = some name ↔
      ∃ before line after, lines text.toList = before ++ line :: after ∧ Lists line ⟨t, port, name⟩ ∧
        ∀ earlier ∈ before, ∀ other, ¬ Lists earlier ⟨t, port, other⟩ := by
    simp only [name?, lookup_ofText, List.findSome?_eq_some_iff, nameIn_eq_some_iff, nameIn_eq_none_iff]
  have hreturn (a b : String) : a ++ "\r\n" ++ b = a ++ "\r" ++ "\n" ++ b := by
    have hend : "\r\n" = "\r" ++ "\n" := rfl
    rw [hend, ← String.append_assoc]
  refine ⟨lookup_append, hfirst, fun line hline hnone a b => ?_, fun front remark hfront e =>
    ⟨not_lists_of_blank hfront e, not_lists_remark hfront remark e⟩, fun remark hremark a b => ?_, fun a b => ?_,
    fun text name hname => ?_⟩
  · have hsilent : name? line = none := (lookup_ofText_line hline).trans (nameIn_eq_none_iff.mpr hnone)
    simp only [name?, lookup_append, hsilent, Option.or_none, Option.none_or, and_self]
  · exact ⟨lookup_remark hremark a, by simp only [name?, lookup_append, lookup_remark hremark]⟩
  · simp only [name?, hreturn, lookup_append, lookup_return]
  · obtain ⟨-, line, -, -, hlists, -⟩ := (hfirst text name).mp hname
    exact hlists.name

/-- A second name for a port does not count, a malformed line, a remark and a line of nothing else change nothing. -/
theorem left_biased_sum_of_two_names :
    let name? (text : String) := (ofText text).lookup .tcp 179
    let table := "bgp 179/tcp\nbgp-alt 179/tcp"
    name? table = some "bgp" ∧ name? (table ++ "#" ++ " routing") = some "bgp" ∧
      name? ("ssh 22/tcp" ++ "\n" ++ "broken notaport/tcp" ++ "\n" ++ table) = some "bgp" ∧
      (∀ name, ¬ Lists (" ".toList ++ '#' :: "bgp 179/tcp".toList) ⟨.tcp, 179, name⟩) ∧
      ∀ c ∈ "bgp".toList, isBlank c = false ∧ c ≠ '#' := by
  intro name? table
  obtain ⟨hsum, hfirst, hmalformed, hsilent, hremark, -, hname⟩ := left_biased_sum .tcp 179
  have hlists : Lists "bgp 179/tcp".toList ⟨.tcp, 179, "bgp"⟩ := entry?_eq_some_iff.mp (by decide +kernel)
  have hlines : lines table.toList = [] ++ "bgp 179/tcp".toList :: ["bgp-alt 179/tcp".toList] := by decide +kernel
  have hfound : name? table = some "bgp" := (hfirst table "bgp").mpr ⟨[], _, _, hlines, hlists, List.forall_mem_nil _⟩
  have hbroken : ∀ name, ¬ Lists "broken notaport/tcp".toList ⟨.tcp, 179, name⟩ :=
    nameIn_eq_none_iff.mp (by decide +kernel)
  have hother : name? "ssh 22/tcp" = none :=
    (lookup_ofText_line (by decide)).trans (by decide +kernel)
  refine ⟨hfound, (hremark " routing" (by decide) table "").1.trans hfound, ?_,
    fun name => (hsilent " ".toList "bgp 179/tcp".toList (List.forall_mem_singleton.mpr (by decide)) _).2,
    (hname table "bgp" hfound).2⟩
  calc name? ("ssh 22/tcp" ++ "\n" ++ "broken notaport/tcp" ++ "\n" ++ table)
      = name? ("ssh 22/tcp" ++ "\n" ++ table) := (hmalformed _ (by decide) hbroken "ssh 22/tcp" table).1
    _ = (name? "ssh 22/tcp").or (name? table) := hsum "ssh 22/tcp" table
    _ = some "bgp" := by rw [hother, hfound, Option.none_or]

end ServiceNames

end LabStream
