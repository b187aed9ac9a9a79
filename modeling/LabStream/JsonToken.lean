import LabStream.Json

namespace LabStream

/-- Why a JSON text is not read: it ends too early, or it is wrong. -/
inductive JsonFault where
  | unfinished
  | malformed
  deriving DecidableEq

/-- The words and marks of a JSON text. A token that cannot be finished says what kind it was;
nothing is read after it. -/
inductive JsonToken where
  | mark (c : Char)
  | null
  | bool (value : Bool)
  | whole (value : Int)
  | real (text : String)
  | text (value : String)
  | strayText
  | brokenText (fault : JsonFault)
  | broken (fault : JsonFault)
  deriving DecidableEq

namespace JsonToken

def isMark (c : Char) : Bool := ['[', ']', '{', '}', ',', ':'].contains c

def isSpace (c : Char) : Bool := [' ', '\n', '\t', '\r'].contains c

def isNumberChar (c : Char) : Bool := c.isDigit || ['-', '+', '.', 'e', 'E'].contains c

/-- The whole number of a sign and digits, when it fits in 64 bits. Minus zero has no such form. -/
def fitting (negative : Bool) (digits : List Char) : Option Int :=
  let n := digitsValue digits
  if negative then if 0 < n ∧ n ≤ twoTo 63 then some (-n) else none
  else if n < twoTo 64 then some n else none

/-- A run of number characters: sign, digits without a leading zero, fraction, exponent. A run
that breaks off is unfinished only where the text ends. -/
def ofNumber (run : List Char) (atEnd : Bool) : JsonToken :=
  let short := broken (if atEnd then .unfinished else .malformed)
  let (negative, body) := match run with
    | '-' :: rest => (true, rest)
    | _ => (false, run)
  let digits := body.takeWhile Char.isDigit
  let tail := body.dropWhile Char.isDigit
  if digits.isEmpty then if tail.isEmpty then short else broken .malformed
  else if digits.head? = some '0' ∧ digits.length > 1 then broken .malformed
  else
    let asReal := real (String.ofList run)
    let exponentPart : List Char → JsonToken := fun cs =>
      let cs := match cs with
        | '+' :: rest => rest
        | '-' :: rest => rest
        | _ => cs
      if cs.isEmpty then short
      else if cs.all Char.isDigit then asReal
      else broken .malformed
    match tail with
    | [] => match fitting negative digits with
      | some n => whole n
      | none => asReal
    | '.' :: rest =>
      let places := rest.takeWhile Char.isDigit
      match rest.dropWhile Char.isDigit with
      | [] => if places.isEmpty then short else asReal
      | c :: more =>
        if places.isEmpty then broken .malformed
        else if c = 'e' ∨ c = 'E' then exponentPart more
        else broken .malformed
    | c :: rest => if c = 'e' ∨ c = 'E' then exponentPart rest else broken .malformed

/-- A run of letters: one of the three literals, or the beginning of one where the text ends. -/
def ofWord (run : List Char) (atEnd : Bool) : JsonToken :=
  if run = "null".toList then null
  else if run = "true".toList then bool true
  else if run = "false".toList then bool false
  else if atEnd && ["null", "true", "false"].any (fun w => run.isPrefixOf w.toList) then
    broken .unfinished
  else broken .malformed

/-- What the reader of tokens is in the middle of. Texts and runs are kept in reverse; `sound` says
that a text holds no half of a surrogate pair, `high` is a first half that awaits the second. -/
inductive Mode where
  | idle
  | inText (acc : List Char) (sound : Bool)
  | slash (acc : List Char) (sound : Bool)
  | hex (acc : List Char) (sound : Bool) (high : Option Nat) (digits : List Char)
  | second (acc : List Char) (sound : Bool) (high : Nat)
  | secondSlash (acc : List Char) (sound : Bool) (high : Nat)
  | inNumber (run : List Char)
  | inWord (run : List Char)

def hexQuad? (digits : List Char) : Option Nat :=
  digits.foldl (fun n c => do return 16 * (← n) + (← hexValue? c)) (some 0)

def isHigh (n : Nat) : Bool := 0xD800 ≤ n && n ≤ 0xDBFF

def isLow (n : Nat) : Bool := 0xDC00 ≤ n && n ≤ 0xDFFF

def afterQuad (acc : List Char) (sound : Bool) (high : Option Nat) (n : Nat) : Mode :=
  match high with
  | some h =>
    if isLow n then .inText (Char.ofNat (0x10000 + (h - 0xD800) * 0x400 + (n - 0xDC00)) :: acc) sound
    else .inText acc false
  | none =>
    if isHigh n then .second acc sound n
    else if isLow n then .inText acc false
    else .inText (Char.ofNat n :: acc) sound

def simpleEscape? (c : Char) : Option Char :=
  match c with
  | '"' => some '"'
  | '\\' => some '\\'
  | '/' => some '/'
  | 'b' => some '\x08'
  | 'f' => some '\x0c'
  | 'n' => some '\n'
  | 'r' => some '\r'
  | 't' => some '\t'
  | _ => none

/-- The token that stands when the text ends in a mode, if any. -/
def atEnd : Mode → List JsonToken
  | .idle => []
  | .inNumber run => [ofNumber run.reverse true]
  | .inWord run => [ofWord run.reverse true]
  | _ => [brokenText .unfinished]

/-- The mode in which a character outside all tokens begins, and the token it is by itself. -/
def begin (c : Char) : Except JsonToken Mode :=
  if c = '"' then .ok (.inText [] true)
  else if c.isDigit || c = '-' then .ok (.inNumber [c])
  else if c.isAlpha then .ok (.inWord [c])
  else .error (if isMark c then mark c else broken .malformed)

/-- A closed text; one that holds half a surrogate pair is no string. -/
def closed (acc : List Char) (sound : Bool) : JsonToken :=
  if sound then text (String.ofList acc.reverse) else strayText

/-- One character in a mode: the tokens it completes and the next mode, or the end of reading. -/
def advance (mode : Mode) (c : Char) : List JsonToken × Option Mode :=
  let fresh := fun (done : List JsonToken) =>
    if isSpace c then (done, some .idle)
    else match begin c with
      | .ok next => (done, some next)
      | .error (mark m) => (done ++ [mark m], some .idle)
      | .error token => (done ++ [token], none)
  match mode with
  | .idle => fresh []
  | .inText acc sound =>
    if c = '"' then ([closed acc sound], some .idle)
    else if c = '\\' then ([], some (.slash acc sound))
    else if c.toNat < 0x20 then ([brokenText .malformed], none)
    else ([], some (.inText (c :: acc) sound))
  | .slash acc sound =>
    if c = 'u' then ([], some (.hex acc sound none []))
    else match simpleEscape? c with
      | some e => ([], some (.inText (e :: acc) sound))
      | none => ([brokenText .malformed], none)
  | .hex acc sound high digits =>
    let digits := digits ++ [c]
    if digits.length < 4 then ([], some (.hex acc sound high digits))
    else match hexQuad? digits with
      | some n => ([], some (afterQuad acc sound high n))
      | none => ([brokenText .malformed], none)
  | .second acc sound high =>
    if c = '\\' then ([], some (.secondSlash acc sound high))
    else if c = '"' then ([strayText], some .idle)
    else if c.toNat < 0x20 then ([brokenText .malformed], none)
    else ([], some (.inText (c :: acc) false))
  | .secondSlash acc sound high =>
    if c = 'u' then ([], some (.hex acc sound (some high) []))
    else match simpleEscape? c with
      | some e => ([], some (.inText (e :: acc) false))
      | none => ([brokenText .malformed], none)
  | .inNumber run =>
    if isNumberChar c then ([], some (.inNumber (c :: run)))
    else match ofNumber run.reverse false with
      | broken fault => ([broken fault], none)
      | token => fresh [token]
  | .inWord run =>
    if c.isAlphanum then ([], some (.inWord (c :: run)))
    else match ofWord run.reverse false with
      | broken fault => ([broken fault], none)
      | token => fresh [token]

def scanFrom (mode : Mode) : List Char → List JsonToken
  | [] => atEnd mode
  | c :: rest =>
    match advance mode c with
    | (done, some next) => done ++ scanFrom next rest
    | (done, none) => done

def scan (text : String) : List JsonToken := scanFrom .idle text.toList

end JsonToken

end LabStream
