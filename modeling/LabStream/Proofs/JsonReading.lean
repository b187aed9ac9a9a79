import LabStream.JsonShape

namespace LabStream

theorem intercalate_map_cons {α β : Type} (sep : β) (f : α → List β) (a : α) (items : List α) :
    [sep].intercalate ((a :: items).map f) = f a ++ items.flatMap fun b => sep :: f b := by
  induction items generalizing a with
  | nil => simp
  | cons b items ih => simpa [List.intercalate_cons_cons] using ih b

namespace JsonToken

/-- Characters between other tokens that are read as a run of tokens, whatever comes after them. -/
def Scans (cs : List Char) (tokens : List JsonToken) : Prop :=
  ∀ rest, scanFrom .idle (cs ++ rest) = tokens ++ scanFrom .idle rest

theorem Scans.append {cs ds : List Char} {tokens more : List JsonToken} (hc : Scans cs tokens)
    (hd : Scans ds more) : Scans (cs ++ ds) (tokens ++ more) := by
  intro rest
  rw [List.append_assoc, hc, hd, List.append_assoc]

theorem Scans.cons {c : Char} {cs : List Char} {token : JsonToken} {tokens : List JsonToken}
    (hc : Scans [c] [token]) (hcs : Scans cs tokens) : Scans (c :: cs) (token :: tokens) :=
  hc.append hcs

theorem Scans.mark {c : Char} (h : isMark c) : Scans [c] [.mark c] := by
  intro rest
  have hc : c ∈ ['[', ']', '{', '}', ',', ':'] := by simpa [isMark] using h
  simp only [List.mem_cons, List.not_mem_nil, or_false] at hc
  rcases hc with rfl | rfl | rfl | rfl | rfl | rfl <;> rfl

theorem hexQuad?_small : ∀ n < 32,
    hexQuad? ['0', '0', Nat.digitChar (n / 16), Nat.digitChar (n % 16)] = some n := by
  decide

/-- An escaped character is read back, wherever it stands in a text. -/
theorem scanFrom_escapedChar (c : Char) (acc rest : List Char) :
    scanFrom (.inText acc true) (Json.escapedChar c ++ rest) = scanFrom (.inText (c :: acc) true) rest := by
  unfold Json.escapedChar
  split
  case h_8 hquote hslash _ _ _ _ _ =>
    have hquote : c ≠ '"' := hquote
    have hslash : c ≠ '\\' := hslash
    split
    next hsmall =>
      have hquad := hexQuad?_small c.toNat hsmall
      have hhigh : isHigh c.toNat = false := by simp [isHigh]; omega
      have hlow : isLow c.toNat = false := by simp [isLow]; omega
      have hback : afterQuad acc true none c.toNat = .inText (c :: acc) true := by
        simp [afterQuad, hhigh, hlow]
      simp [scanFrom, advance, hquad, hback]
    next hlarge => simp [scanFrom, advance, hquote, hslash, hlarge]
  all_goals rfl

theorem scanFrom_escaped (cs acc rest : List Char) :
    scanFrom (.inText acc true) (cs.flatMap Json.escapedChar ++ '"' :: rest) =
      text (String.ofList (acc.reverse ++ cs)) :: scanFrom .idle rest := by
  induction cs generalizing acc with
  | nil => simp [scanFrom, advance, closed]
  | cons c cs ih =>
    rw [List.flatMap_cons, List.append_assoc, scanFrom_escapedChar, ih]
    simp

/-- A text between quotes is read back, whatever characters it holds. -/
theorem Scans.text (s : String) : Scans (Json.textChars s) [.text s] := by
  intro rest
  have hopen : scanFrom .idle (Json.textChars s ++ rest) =
      scanFrom (.inText [] true) (s.toList.flatMap Json.escapedChar ++ '"' :: rest) := by
    rw [Json.textChars, List.cons_append, List.append_assoc]
    rfl
  rw [hopen, scanFrom_escaped]
  simp

/-- Parts with commas between them. -/
theorem Scans.joined {α : Type} {items : List α} {chars : α → List Char} {tokens : α → List JsonToken}
    (h : ∀ a ∈ items, Scans (chars a) (tokens a)) :
    Scans (Json.joined (items.map chars)) ([JsonToken.mark ','].intercalate (items.map tokens)) := by
  induction items with
  | nil => exact fun _ => rfl
  | cons a items ih =>
    have ha := h a List.mem_cons_self
    have hitems := ih fun b hb => h b (List.mem_cons_of_mem a hb)
    cases items with
    | nil => simpa [Json.joined] using ha
    | cons b items =>
      have hcomma : Scans [','] [JsonToken.mark ','] := .mark rfl
      simpa [Json.joined, List.intercalate_cons_cons] using ha.append (hcomma.append hitems)

end JsonToken

namespace Json

/-- Texts, with lists and records of them up to a depth. -/
inductive Textual : Nat → Json → Prop where
  | text {depth : Nat} (s : String) : Textual depth (.text s)
  | list {depth : Nat} {items : List Json} : (∀ v ∈ items, Textual depth v) →
    Textual (depth + 1) (.list items)
  | record {depth : Nat} {fields : List (String × Json)} : (∀ f ∈ fields, Textual depth f.2) →
    Textual (depth + 1) (.record fields)

mutual
/-- The tokens that a textual value is written in. -/
def tokens : Json → List JsonToken
  | text s => [.text s]
  | list items => .mark '[' :: ([JsonToken.mark ','].intercalate (itemTokens items) ++ [.mark ']'])
  | record fields => .mark '{' :: ([JsonToken.mark ','].intercalate (fieldTokens fields) ++ [.mark '}'])
  | _ => []

def itemTokens : List Json → List (List JsonToken)
  | [] => []
  | value :: rest => tokens value :: itemTokens rest

def fieldTokens : List (String × Json) → List (List JsonToken)
  | [] => []
  | (name, value) :: rest => (.text name :: .mark ':' :: tokens value) :: fieldTokens rest
end

theorem itemChars_eq (items : List Json) : itemChars items = items.map chars := by
  induction items with
  | nil => rfl
  | cons v items ih => rw [itemChars, ih, List.map_cons]

theorem fieldChars_eq (fields : List (String × Json)) :
    fieldChars fields = fields.map fun f => textChars f.1 ++ ':' :: f.2.chars := by
  induction fields with
  | nil => rfl
  | cons f fields ih => rw [fieldChars, ih, List.map_cons]

theorem itemTokens_eq (items : List Json) : itemTokens items = items.map tokens := by
  induction items with
  | nil => rfl
  | cons v items ih => rw [itemTokens, ih, List.map_cons]

theorem fieldTokens_eq (fields : List (String × Json)) :
    fieldTokens fields = fields.map fun f => .text f.1 :: .mark ':' :: f.2.tokens := by
  induction fields with
  | nil => rfl
  | cons f fields ih => rw [fieldTokens, ih, List.map_cons]

namespace Textual

variable {depth : Nat} {v : Json}

theorem mono (h : v.Textual depth) {deeper : Nat} (hle : depth ≤ deeper) : v.Textual deeper := by
  induction h generalizing deeper with
  | text s => exact .text s
  | list _ ih =>
    obtain ⟨deeper, rfl⟩ : ∃ n, deeper = n + 1 := ⟨deeper - 1, by omega⟩
    exact .list fun v hv => ih v hv (by omega)
  | record _ ih =>
    obtain ⟨deeper, rfl⟩ : ∃ n, deeper = n + 1 := ⟨deeper - 1, by omega⟩
    exact .record fun f hf => ih f hf (by omega)

theorem scans (h : v.Textual depth) : JsonToken.Scans v.chars v.tokens := by
  induction h with
  | text s => exact .text s
  | list _ ih =>
    have hopen : JsonToken.Scans ['['] [.mark '['] := .mark rfl
    have hclose : JsonToken.Scans [']'] [.mark ']'] := .mark rfl
    rw [chars, tokens, itemChars_eq, itemTokens_eq]
    exact hopen.cons ((JsonToken.Scans.joined ih).append hclose)
  | record _ ih =>
    have hopen : JsonToken.Scans ['{'] [.mark '{'] := .mark rfl
    have hclose : JsonToken.Scans ['}'] [.mark '}'] := .mark rfl
    have hcolon : JsonToken.Scans [':'] [.mark ':'] := .mark rfl
    rw [chars, tokens, fieldChars_eq, fieldTokens_eq]
    refine hopen.cons ((JsonToken.Scans.joined fun f hf => ?_).append hclose)
    exact (JsonToken.Scans.text f.1).append (hcolon.cons (ih f hf))

theorem tokens_eq_cons (h : v.Textual depth) :
    ∃ token more, v.tokens = token :: more ∧ token ≠ .mark ']' := by
  cases h <;> simp [tokens]

end Textual

end Json

namespace JsonShape

open JsonToken

/-- A value that the reader takes off its tokens, given as much fuel. -/
def Reads (depth : Nat) (v : Json) : Prop :=
  ∀ fuel rest, v.tokens.length ≤ fuel → read fuel depth .anything (v.tokens ++ rest) = .ok (v, rest)

variable {depth : Nat}

/-- The items after the first one. -/
theorem readItems_more {items : List Json} (h : ∀ v ∈ items, Reads depth v) (fuel : Nat) (found : List Json)
    (rest : List JsonToken) (hfuel : (items.flatMap fun v => mark ',' :: v.tokens).length < fuel) :
    readItems fuel depth .anything false found
      (items.flatMap (fun v => mark ',' :: v.tokens) ++ mark ']' :: rest) =
        .ok (.list (found.reverse ++ items), rest) := by
  induction items generalizing fuel found with
  | nil =>
    obtain ⟨fuel, rfl⟩ : ∃ n, fuel = n + 1 := ⟨fuel - 1, by simp at hfuel; omega⟩
    simp [readItems]
  | cons v items ih =>
    have hv := h v List.mem_cons_self
    have hitems := fun u hu => h u (List.mem_cons_of_mem v hu)
    simp only [List.flatMap_cons, List.cons_append, List.length_cons, List.length_append] at hfuel
    obtain ⟨fuel, rfl⟩ : ∃ n, fuel = n + 1 := ⟨fuel - 1, by omega⟩
    have hread := hv fuel (items.flatMap (fun v => mark ',' :: v.tokens) ++ mark ']' :: rest) (by omega)
    have hmore := ih hitems fuel (v :: found) (by omega)
    rw [List.flatMap_cons, List.append_assoc, List.cons_append, readItems]
    · simp only [expect, Bool.false_eq_true, if_false, if_true, bind, Except.bind, hread]
      rw [hmore]
      simp
    · simp

theorem reads_list {items : List Json} (h : ∀ v ∈ items, Reads depth v)
    (hhead : ∀ v ∈ items, ∃ token more, v.tokens = token :: more ∧ token ≠ mark ']') : Reads (depth + 1) (.list items) := by
  intro fuel rest hfuel
  simp only [Json.tokens, Json.itemTokens_eq, List.length_cons, List.length_append, List.length_nil] at hfuel
  obtain ⟨fuel, rfl⟩ : ∃ n, fuel = n + 2 := ⟨fuel - 2, by omega⟩
  have hopen : read (fuel + 2) (depth + 1) .anything ((Json.list items).tokens ++ rest) =
      readItems (fuel + 1) depth .anything true []
        ([mark ','].intercalate (items.map Json.tokens) ++ mark ']' :: rest) := by
    rw [Json.tokens, Json.itemTokens_eq, List.cons_append, List.append_assoc, read]
    rfl
  rw [hopen]
  cases items with
  | nil => simp [readItems]
  | cons v items =>
    obtain ⟨token, more, htokens, hne⟩ := hhead v List.mem_cons_self
    have hlength : 0 < v.tokens.length := by simp [htokens]
    rw [intercalate_map_cons, List.length_append] at hfuel
    have hread := h v List.mem_cons_self fuel
      (items.flatMap (fun v => mark ',' :: v.tokens) ++ mark ']' :: rest) (by omega)
    have hmore := readItems_more (fun u hu => h u (List.mem_cons_of_mem v hu)) fuel [v] rest (by omega)
    rw [intercalate_map_cons, List.append_assoc, readItems]
    · simp only [if_true, pure, Except.pure, bind, Except.bind, hread]
      rw [hmore]
      rfl
    · intro _ heq
      rw [htokens, List.cons_append] at heq
      exact hne (List.cons.inj heq).1

/-- The fields after the first one. -/
theorem readTable_more {fields : List (String × Json)} (h : ∀ f ∈ fields, Reads depth f.2) (fuel : Nat)
    (found : List (String × Json)) (rest : List JsonToken)
    (hfuel : (fields.flatMap fun f => mark ',' :: text f.1 :: mark ':' :: f.2.tokens).length < fuel) :
    readTable fuel depth .anything false found
      (fields.flatMap (fun f => mark ',' :: text f.1 :: mark ':' :: f.2.tokens) ++ mark '}' :: rest) =
        .ok (.record (found.reverse ++ fields), rest) := by
  induction fields generalizing fuel found with
  | nil =>
    obtain ⟨fuel, rfl⟩ : ∃ n, fuel = n + 1 := ⟨fuel - 1, by simp at hfuel; omega⟩
    simp [readTable]
  | cons f fields ih =>
    have hf := h f List.mem_cons_self
    have hfields := fun g hg => h g (List.mem_cons_of_mem f hg)
    simp only [List.flatMap_cons, List.cons_append, List.length_cons, List.length_append] at hfuel
    obtain ⟨fuel, rfl⟩ : ∃ n, fuel = n + 1 := ⟨fuel - 1, by omega⟩
    have hread := hf fuel
      (fields.flatMap (fun f => mark ',' :: text f.1 :: mark ':' :: f.2.tokens) ++ mark '}' :: rest) (by omega)
    have hmore := ih hfields fuel (f :: found) (by omega)
    rw [List.flatMap_cons, List.append_assoc, List.cons_append, readTable]
    · simp only [expect, readName, Bool.false_eq_true, if_false, if_true, bind, Except.bind, hread,
        pure, Except.pure, List.cons_append, Option.getD_some]
      rw [hmore]
      simp
    · simp
    · intro h
      cases h

theorem reads_record {fields : List (String × Json)} (h : ∀ f ∈ fields, Reads depth f.2) :
    Reads (depth + 1) (.record fields) := by
  intro fuel rest hfuel
  simp only [Json.tokens, Json.fieldTokens_eq, List.length_cons, List.length_append, List.length_nil] at hfuel
  obtain ⟨fuel, rfl⟩ : ∃ n, fuel = n + 2 := ⟨fuel - 2, by omega⟩
  have hopen : read (fuel + 2) (depth + 1) .anything ((Json.record fields).tokens ++ rest) =
      readTable (fuel + 1) depth .anything true []
        ([mark ','].intercalate (fields.map fun f => text f.1 :: mark ':' :: f.2.tokens) ++ mark '}' :: rest) := by
    rw [Json.tokens, Json.fieldTokens_eq, List.cons_append, List.append_assoc, read]
    rfl
  rw [hopen]
  cases fields with
  | nil => simp [readTable]
  | cons f fields =>
    rw [intercalate_map_cons, List.length_append] at hfuel
    simp only [List.length_cons] at hfuel
    have hread := h f List.mem_cons_self fuel
      (fields.flatMap (fun f => mark ',' :: text f.1 :: mark ':' :: f.2.tokens) ++ mark '}' :: rest) (by omega)
    have hmore := readTable_more (fun g hg => h g (List.mem_cons_of_mem f hg)) fuel [f] rest (by omega)
    rw [intercalate_map_cons, List.append_assoc, readTable]
    · simp only [if_true, pure, Except.pure, bind, Except.bind, readName, expect, List.cons_append, hread,
        Option.getD_some]
      rw [hmore]
      rfl
    · simp
    · intro h
      cases h

end JsonShape

namespace Json

theorem Textual.reads {depth : Nat} {v : Json} (h : v.Textual depth) : JsonShape.Reads depth v := by
  induction h with
  | text s =>
    intro fuel rest hfuel
    cases fuel with
    | zero => simp [tokens] at hfuel
    | succ fuel => rw [tokens, List.singleton_append, JsonShape.read]
  | list hitems ih => exact JsonShape.reads_list ih fun v hv => (hitems v hv).tokens_eq_cons
  | record _ ih => exact JsonShape.reads_record ih

/-- A textual value is read back from its text, with or without blanks after it. -/
theorem parse_render_append {v : Json} (h : v.Textual JsonShape.depthLimit) (blanks : List Char)
    (hblanks : JsonToken.scanFrom .idle blanks = []) : parse (v.render ++ String.ofList blanks) = .ok v := by
  have hscan : JsonToken.scan (v.render ++ String.ofList blanks) = v.tokens := by
    have h := h.scans blanks
    rw [hblanks, List.append_nil] at h
    simpa [JsonToken.scan, render] using h
  have hread := h.reads (2 * v.tokens.length + 2) [] (by omega)
  rw [List.append_nil] at hread
  simp only [parse, JsonShape.parse, hscan, hread, bind, Except.bind, pure, Except.pure]

/-- No line of text is broken by a character of a text: all control characters are escaped. -/
theorem newline_not_mem_escapedChar (c : Char) : '\n' ∉ escapedChar c := by
  unfold escapedChar
  split
  case h_8 _ _ hnewline _ _ _ _ =>
    have hnewline : c ≠ '\n' := hnewline
    split
    next hsmall =>
      have hdigit : ∀ n < 16, '\n' ≠ Nat.digitChar n := by decide
      have hhigh := hdigit (c.toNat / 16) (by omega)
      have hlow := hdigit (c.toNat % 16) (by omega)
      simp [hhigh, hlow]
    next => simpa using hnewline.symm
  all_goals decide

theorem newline_not_mem_textChars (s : String) : '\n' ∉ textChars s := by
  have hchars : ∀ c ∈ s.toList, '\n' ∉ escapedChar c := fun c _ => newline_not_mem_escapedChar c
  simpa [textChars] using hchars

theorem newline_not_mem_joined {α : Type} {items : List α} {chars : α → List Char}
    (h : ∀ a ∈ items, '\n' ∉ chars a) : '\n' ∉ joined (items.map chars) := by
  cases items with
  | nil => simp [joined]
  | cons a items =>
    have hitems : ∀ b ∈ items, '\n' ∉ chars b := fun b hb => h b (List.mem_cons_of_mem a hb)
    have ha := h a List.mem_cons_self
    rw [joined, intercalate_map_cons]
    simpa [ha] using hitems

theorem Textual.newline_not_mem {depth : Nat} {v : Json} (h : v.Textual depth) : '\n' ∉ v.chars := by
  induction h with
  | text s => exact newline_not_mem_textChars s
  | list _ ih =>
    have hitems := newline_not_mem_joined ih
    simpa [chars, itemChars_eq] using hitems
  | @record _ fields _ ih =>
    have hfields : '\n' ∉ joined (fields.map fun f => textChars f.1 ++ ':' :: f.2.chars) :=
      newline_not_mem_joined fun f hf => by simp [newline_not_mem_textChars f.1, ih f hf]
    simpa [chars, fieldChars_eq] using hfields

end Json

end LabStream
