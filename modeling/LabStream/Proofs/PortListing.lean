import LabStream.Port
import LabStream.Proofs.Lists
import LabStream.Proofs.LowerFixpoint
import LabStream.Proofs.StampReading

namespace LabStream

namespace Port

instance : Std.TransCmp order :=
  inferInstanceAs (Std.TransCmp (compareLex (compareOn containerPort) (compareLex (compareOn protocol)
    (compareLex (compareOn hostPort) (compareOn hostIp)))))

/-- The order looks at the fields as they are, so ports that tie are equal. -/
instance : Std.LawfulEqCmp order where
  eq_of_compare {a b} h := by
    simp only [order, Ordering.then_eq_eq, Std.LawfulEqCmp.compare_eq_iff_eq] at h
    obtain ⟨hcontainer, hprotocol, hhost, hip⟩ := h
    cases a
    cases b
    simp_all

def shownProtocol (p : Port) : String := lowerText (trimBlanks p.protocol)

def shownHost (p : Port) : String := if p.hostIp.isEmpty then "0.0.0.0" else p.hostIp

/-- What a port says: one of neither side says nothing, one that is not published says nothing of a host, and no
address is any address. -/
def normal? (p : Port) : Option Port :=
  if p.hostPort > 0 then some { p with hostIp := p.shownHost, protocol := p.shownProtocol }
  else if p.containerPort = 0 then none
  else some { p with hostIp := "", protocol := p.shownProtocol }

/-- A port with an address and a protocol of plain characters. -/
structure Plain (p : Port) : Prop where
  hostIp : ∀ c ∈ p.hostIp.toList, c.isAlphanum ∨ c = '.' ∨ c = ':'
  protocol : ∀ c ∈ (trimBlanks p.protocol).toList, c.isAlphanum

instance : DecidablePred Plain := fun p =>
  decidable_of_iff (p.hostIp.toList.all (fun c => c.isAlphanum || c = '.' || c = ':') ∧
      (trimBlanks p.protocol).toList.all Char.isAlphanum)
    ⟨fun h => ⟨by simpa [or_assoc] using h.1, by simpa using h.2⟩,
      fun h => ⟨by simpa [or_assoc] using h.hostIp, by simpa using h.protocol⟩⟩

/-- Reads an address off a text, and the colon after it. -/
def takeHost (cs : List Char) : List Char × List Char :=
  if cs.head? = some '[' then (cs.tail.takeWhile (· ≠ ']'), (cs.tail.dropWhile (· ≠ ']')).drop 2)
  else (cs.takeWhile (· ≠ ':'), (cs.dropWhile (· ≠ ':')).drop 1)

/-- Reads a port off a text. Only a published one has a colon. -/
def ofText (cs : List Char) : Port :=
  if ':' ∈ cs then
    let (host, cs) := takeHost cs
    let tail := cs.dropWhile Char.isDigit
    ⟨String.ofList host, digitsValue (cs.takeWhile Char.isDigit), digitsValue ((tail.dropWhile (· ≠ '-')).drop 2),
      String.ofList ((tail.takeWhile (· ≠ '-')).drop 1)⟩
  else ⟨"", 0, digitsValue (cs.takeWhile Char.isDigit), String.ofList ((cs.dropWhile Char.isDigit).drop 1)⟩

/-- Reads the ports off a listing. -/
def ofListing (listing : String) : List Port := ((listing.toList.splitOn ';').filter (· ≠ [])).map ofText

variable {p : Port}

theorem Plain.shownProtocol (h : p.Plain) : ∀ c ∈ p.shownProtocol.toList, c.isAlphanum := by
  rw [Port.shownProtocol, lowerText, String.toList_ofList,
    lowerAfter_of_ascii [] fun c hc => toNat_lt_of_isAlphanum (h.protocol c hc)]
  intro d hd
  obtain ⟨c, hc, rfl⟩ := List.mem_map.mp hd
  exact isAlphanum_toLower (h.protocol c hc)

theorem Plain.shownHost (h : p.Plain) : ∀ c ∈ p.shownHost.toList, c.isAlphanum ∨ c = '.' ∨ c = ':' := by
  unfold Port.shownHost
  split
  · simp
  · exact h.hostIp

theorem toList_suffix (p : Port) :
    p.suffix.toList = if p.shownProtocol.isEmpty then [] else '/' :: p.shownProtocol.toList := by
  rw [suffix, ← shownProtocol]
  by_cases h : p.shownProtocol.isEmpty <;> simp [h]

theorem drop_suffix (p : Port) : p.suffix.toList.drop 1 = p.shownProtocol.toList := by
  rw [toList_suffix]
  split <;> simp_all

theorem eq_slash_of_mem_head?_suffix {c : Char} (h : c ∈ p.suffix.toList.head?) : c = '/' := by
  rw [toList_suffix] at h
  split at h
  · cases h
  · exact (Option.some.inj h).symm

theorem Plain.suffix (h : p.Plain) : ∀ c ∈ p.suffix.toList, c.isAlphanum ∨ c = '/' := by
  rw [toList_suffix]
  split
  · simp
  · exact List.forall_mem_cons.mpr ⟨.inr rfl, fun c hc => .inl (h.shownProtocol c hc)⟩

theorem toList_hostText (p : Port) :
    p.hostText.toList =
      if ':' ∈ p.shownHost.toList then '[' :: (p.shownHost.toList ++ [']']) else p.shownHost.toList := by
  unfold hostText shownHost
  by_cases hempty : p.hostIp.isEmpty
  · simp [hempty]
  · by_cases hcolon : ':' ∈ p.hostIp.toList <;> simp [hempty, hcolon]

/-- The way to the port of the container, when there is one. -/
def arrow (p : Port) : List Char := if p.containerPort > 0 then '-' :: '>' :: Nat.toDigits 10 p.containerPort else []

theorem text?_of_published (h : 0 < p.hostPort) : ∃ text, p.text? = some text ∧
    text.toList = p.hostText.toList ++ ':' :: (Nat.toDigits 10 p.hostPort ++ (p.suffix.toList ++ p.arrow)) := by
  by_cases hc : 0 < p.containerPort
  · exact ⟨_, by rw [text?, if_pos h, if_pos hc], by simp [arrow, hc, Nat.toString_eq_repr, Nat.toList_repr]⟩
  · exact ⟨_, by rw [text?, if_pos h, if_neg hc], by simp [arrow, hc, Nat.toString_eq_repr, Nat.toList_repr]⟩

theorem text?_of_unpublished (h : ¬ 0 < p.hostPort) (hc : p.containerPort ≠ 0) : ∃ text, p.text? = some text ∧
    text.toList = Nat.toDigits 10 p.containerPort ++ p.suffix.toList :=
  ⟨_, by rw [text?, if_neg h, if_neg hc], by simp [Nat.toString_eq_repr, Nat.toList_repr]⟩

theorem digitsValue_arrow (p : Port) : digitsValue (p.arrow.drop 2) = p.containerPort := by
  unfold arrow
  split
  · exact digitsValue_toDigits _
  · have : p.containerPort = 0 := by omega
    rw [this]
    rfl

theorem eq_dash_of_mem_head?_arrow (p : Port) : ∀ c ∈ p.arrow.head?, c = '-' := by
  unfold arrow
  split <;> simp

/-- No digit follows the port of the host. -/
theorem isDigit_head?_tail (p : Port) : ∀ c ∈ (p.suffix.toList ++ p.arrow).head?, c.isDigit = false := by
  intro c hc
  rw [List.head?_append] at hc
  rcases Option.or_eq_some_iff.mp hc with h | ⟨-, h⟩
  · rw [eq_slash_of_mem_head?_suffix h]
    rfl
  · rw [eq_dash_of_mem_head?_arrow p c h]
    rfl

theorem Plain.takeHost_hostText (h : p.Plain) (rest : List Char) :
    takeHost (p.hostText.toList ++ ':' :: rest) = (p.shownHost.toList, rest) := by
  rw [toList_hostText]
  split
  next =>
    have hinside : ']' ∉ p.shownHost.toList := fun hm => absurd (h.shownHost _ hm) (by decide)
    have hend : ∀ c ∈ (']' :: ':' :: rest).head?, c = ']' := fun c hc => (Option.some.inj hc).symm
    have hcut : '[' :: (p.shownHost.toList ++ [']']) ++ ':' :: rest =
        '[' :: (p.shownHost.toList ++ ']' :: ':' :: rest) := by simp
    rw [hcut, takeHost, if_pos List.head?_cons, List.tail_cons, takeWhile_until hinside hend,
      dropWhile_until hinside hend]
    rfl
  next hcolon =>
    have hend : ∀ c ∈ (':' :: rest).head?, c = ':' := fun c hc => (Option.some.inj hc).symm
    have hbracket : (p.shownHost.toList ++ ':' :: rest).head? ≠ some '[' := by
      cases hhost : p.shownHost.toList with
      | nil => simp
      | cons c cs =>
        have hc := h.shownHost c (hhost ▸ List.mem_cons_self)
        rintro heq
        rw [Option.some.inj heq] at hc
        exact absurd hc (by decide)
    rw [takeHost, if_neg hbracket, takeWhile_until hcolon hend, dropWhile_until hcolon hend]
    rfl

/-- The text of a plain port says all that the port says. -/
theorem Plain.ofText_text? (h : p.Plain) : (p.text?.map fun text => ofText text.toList) = p.normal? := by
  by_cases hpublished : 0 < p.hostPort
  · obtain ⟨text, htext, hcs⟩ := text?_of_published hpublished
    have hcolon : ':' ∈ text.toList := by simp [hcs]
    have hdash : '-' ∉ p.suffix.toList := fun hm => absurd (h.suffix _ hm) (by decide)
    rw [htext, Option.map_some, normal?, if_pos hpublished, ofText, if_pos hcolon, hcs, h.takeHost_hostText]
    simp only [takeWhile_run isDigit_of_mem_toDigits (isDigit_head?_tail p),
      dropWhile_run isDigit_of_mem_toDigits (isDigit_head?_tail p),
      takeWhile_until hdash (eq_dash_of_mem_head?_arrow p), dropWhile_until hdash (eq_dash_of_mem_head?_arrow p),
      digitsValue_toDigits, digitsValue_arrow, drop_suffix, String.ofList_toList]
  · by_cases hc : p.containerPort = 0
    · rw [text?, normal?, if_neg hpublished, if_neg hpublished, if_pos hc, if_pos hc, Option.map_none]
    · obtain ⟨text, htext, hcs⟩ := text?_of_unpublished hpublished hc
      have hcolon : ':' ∉ text.toList := by
        rw [hcs, List.mem_append, not_or]
        exact ⟨fun hm => absurd (isDigit_of_mem_toDigits _ hm) (by decide),
          fun hm => absurd (h.suffix _ hm) (by decide)⟩
      have htail : ∀ c ∈ p.suffix.toList.head?, c.isDigit = false := by
        intro c hc
        rw [eq_slash_of_mem_head?_suffix hc]
        rfl
      rw [htext, Option.map_some, normal?, if_neg hpublished, if_neg hc, ofText, if_neg hcolon, hcs]
      simp only [takeWhile_run isDigit_of_mem_toDigits htail, dropWhile_run isDigit_of_mem_toDigits htail,
        digitsValue_toDigits, drop_suffix, String.ofList_toList, Nat.eq_zero_of_not_pos hpublished]

theorem Plain.toList_text? (h : p.Plain) {text : String} (htext : p.text? = some text) :
    text.toList ≠ [] ∧ ';' ∉ text.toList := by
  have hdigits (n : Nat) : ';' ∉ Nat.toDigits 10 n := fun hm => absurd (isDigit_of_mem_toDigits _ hm) (by decide)
  have hsuffix : ';' ∉ p.suffix.toList := fun hm => absurd (h.suffix _ hm) (by decide)
  have hhost : ';' ∉ p.shownHost.toList := fun hm => absurd (h.shownHost _ hm) (by decide)
  by_cases hpublished : 0 < p.hostPort
  · obtain ⟨text', htext', hcs⟩ := text?_of_published hpublished
    obtain rfl : text = text' := Option.some.inj (htext.symm.trans htext')
    have harrow : ';' ∉ p.arrow := by
      unfold arrow
      split <;> simp [hdigits]
    have hhostText : ';' ∉ p.hostText.toList := by
      rw [toList_hostText]
      split <;> simp [hhost]
    simp [hcs, hhostText, hdigits, hsuffix, harrow]
  · by_cases hc : p.containerPort = 0
    · simp [text?, hpublished, hc] at htext
    · obtain ⟨text', htext', hcs⟩ := text?_of_unpublished hpublished hc
      obtain rfl : text = text' := Option.some.inj (htext.symm.trans htext')
      simp [hcs, hdigits, hsuffix, Nat.toDigits_ne_nil]

/-- A listing of no texts is empty, so it is told from one of texts by leaving out what is empty. -/
theorem ofListing_intercalate {texts : List String} (h : ∀ text ∈ texts, text.toList ≠ [] ∧ ';' ∉ text.toList) :
    ofListing (";".intercalate texts) = texts.map fun text => ofText text.toList := by
  have hfull : (texts.map String.toList).filter (· ≠ []) = texts.map String.toList := by
    refine List.filter_eq_self.mpr fun cs hcs => ?_
    obtain ⟨text, hm, rfl⟩ := List.mem_map.mp hcs
    exact decide_eq_true (h text hm).1
  have hsplit : ((";".intercalate texts).toList.splitOn ';').filter (· ≠ []) = texts.map String.toList := by
    cases texts with
    | nil => simp
    | cons text texts =>
      have hmark : ";".toList = [';'] := rfl
      have hmarks : ∀ cs ∈ (text :: texts).map String.toList, ';' ∉ cs := by
        intro cs hcs
        obtain ⟨text, hm, rfl⟩ := List.mem_map.mp hcs
        exact (h text hm).2
      rw [String.toList_intercalate, hmark, List.splitOn_intercalate _ hmarks (by simp), hfull]
  rw [ofListing, hsplit, List.map_map]
  rfl

/-- The ports of a listing, in the order of the listing. -/
theorem ofListing_listing {ports : List Port} (h : ∀ p ∈ ports, p.Plain) : ofListing (listing ports) =
    (ports.mergeSort fun a b => (order a b).isLE).filterMap normal? := by
  have hsorted : ∀ p ∈ ports.mergeSort fun a b => (order a b).isLE, p.Plain :=
    fun p hp => h p (List.mem_mergeSort.mp hp)
  unfold listing
  generalize ports.mergeSort (fun a b => (order a b).isLE) = sorted at hsorted
  rw [ofListing_intercalate, List.map_filterMap]
  · exact List.filterMap_congr fun p hp => (hsorted p hp).ofText_text?
  · intro text hm
    obtain ⟨p, hp, htext⟩ := List.mem_filterMap.mp hm
    exact (hsorted p hp).toList_text? htext

example : ofListing "0.0.0.0:2222/tcp->22;161/udp;[::]:8443/tcp->443" =
    [⟨"0.0.0.0", 2222, 22, "tcp"⟩, ⟨"", 0, 161, "udp"⟩, ⟨"::", 8443, 443, "tcp"⟩] := by
  decide +kernel

/-- One listing for all orders of the same ports. Two lists of plain ports with one listing say the same: what is
said can be read off the listing, each port as often as it stands in the list. -/
theorem listing_canonical :
    (∀ ports others : List Port, ports.Perm others → listing ports = listing others) ∧
    (∀ ports : List Port, (∀ p ∈ ports, p.Plain) → (ofListing (listing ports)).Perm (ports.filterMap normal?)) ∧
    ∀ ports others : List Port, (∀ p ∈ ports, p.Plain) → (∀ p ∈ others, p.Plain) →
      listing ports = listing others → (ports.filterMap normal?).Perm (others.filterMap normal?) := by
  have hread (ports : List Port) (h : ∀ p ∈ ports, p.Plain) :
      (ofListing (listing ports)).Perm (ports.filterMap normal?) := by
    rw [ofListing_listing h]
    exact (List.mergeSort_perm _ _).filterMap _
  refine ⟨fun ports others h => ?_, hread, fun ports others h h' heq => ?_⟩
  · rw [listing, listing, mergeSort_eq_of_perm h]
  · exact (hread ports h).symm.trans (heq ▸ hread others h')

/-- Two spellings of the same ports, and a port of neither side. -/
theorem listing_canonical_respelled :
    listing [⟨"", 0, 0, "tcp"⟩, ⟨"", 2222, 22, " TCP"⟩] = listing [⟨"0.0.0.0", 2222, 22, "tcp"⟩] ∧
      ([⟨"", 0, 0, "tcp"⟩, ⟨"", 2222, 22, " TCP"⟩].filterMap normal?).Perm
        ([⟨"0.0.0.0", 2222, 22, "tcp"⟩].filterMap normal?) := by
  have hsame : listing [⟨"", 0, 0, "tcp"⟩, ⟨"", 2222, 22, " TCP"⟩] = listing [⟨"0.0.0.0", 2222, 22, "tcp"⟩] := by
    rw [listing, listing, List.mergeSort_of_pairwise (by decide +kernel), List.mergeSort_singleton]
    decide +kernel
  exact ⟨hsame, listing_canonical.2.2 _ _ (by decide +kernel) (by decide +kernel) hsame⟩

end Port

end LabStream
