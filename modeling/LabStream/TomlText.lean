import LabStream.Calendar
import LabStream.Numeral
import LabStream.Toml

namespace LabStream

namespace TomlText

def isSpace (c : Char) : Bool := c = ' ' || c = '\t'

def skipSpace (cs : List Char) : List Char := cs.dropWhile isSpace

def isShown (c : Char) : Bool := c = '\t' || (c.toNat ≥ 0x20 && c.toNat ≠ 0x7F)

def isBare (c : Char) : Bool := c.isAlphanum || c = '_' || c = '-'

def newline? : List Char → Option (List Char)
  | '\n' :: rest => some rest
  | '\r' :: '\n' :: rest => some rest
  | _ => none

/-- The rest after a comment, if one begins here; a comment shows no control character. -/
def skipComment (cs : List Char) : Option (List Char) :=
  match cs with
  | '#' :: rest =>
    let after := rest.dropWhile isShown
    if after.isEmpty || (newline? after).isSome then some after else none
  | _ => some cs

/-- Skips blanks, comments and line ends. -/
def skipLines : Nat → List Char → Option (List Char)
  | 0, _ => none
  | fuel + 1, cs => do
    let cs ← skipComment (skipSpace cs)
    match newline? cs with
    | some rest => skipLines fuel rest
    | none => some cs

def hexChar? (digits : List Char) : Option Char := do
  let n ← digits.foldl (fun n c => do return 16 * (← n) + (← hexValue? c)) (some 0)
  if n < 0xD800 ∨ (0xDFFF < n ∧ n ≤ 0x10FFFF) then some (Char.ofNat n) else none

/-- The character that an escape stands for, after its backslash. -/
def escape? : List Char → Option (Char × List Char)
  | [] => none
  | c :: rest =>
    let coded := fun n =>
      if rest.length < n then none
      else (hexChar? (rest.take n)).map fun found => (found, rest.drop n)
    match c with
    | 'b' => some ('\x08', rest)
    | 't' => some ('\t', rest)
    | 'n' => some ('\n', rest)
    | 'f' => some ('\x0c', rest)
    | 'r' => some ('\r', rest)
    | 'e' => some ('\x1b', rest)
    | '"' => some ('"', rest)
    | '\\' => some ('\\', rest)
    | 'x' => coded 2
    | 'u' => coded 4
    | 'U' => coded 8
    | _ => none

/-- The rest of a string on one line, after its opening quote. -/
def basic : Nat → List Char → List Char → Option (String × List Char)
  | 0, _, _ => none
  | _, _, [] => none
  | fuel + 1, acc, c :: rest =>
    if c = '"' then some (String.ofList acc.reverse, rest)
    else if c = '\\' then do
      let (found, rest) ← escape? rest
      basic fuel (found :: acc) rest
    else if isShown c then basic fuel (c :: acc) rest
    else none

/-- The rest of a string without escapes, after its opening quote. -/
def literal (cs : List Char) : Option (String × List Char) :=
  let body := cs.takeWhile fun c => c ≠ '\'' && isShown c
  match cs.drop body.length with
  | '\'' :: rest => some (String.ofList body, rest)
  | _ => none

/-- Quotes that close a long string; up to two more belong to the string. -/
def closing? (quote : Char) (cs : List Char) : Option (List Char × List Char) :=
  let run := (cs.takeWhile (· = quote)).take 5
  if run.length < 3 then none
  else some (List.replicate (run.length - 3) quote, cs.drop run.length)

/-- Skips blanks and line ends after a backslash that ends a line. -/
def skipFolded (cs : List Char) : Option (List Char) := do
  let rest ← newline? (skipSpace cs)
  return rest.dropWhile fun c => isSpace c || c = '\n' || c = '\r'

def long (quote : Char) (escapes : Bool) : Nat → List Char → List Char → Option (String × List Char)
  | 0, _, _ => none
  | _, _, [] => none
  | fuel + 1, acc, c :: rest =>
    if c = quote then
      match closing? quote (c :: rest) with
      | some (more, rest) => some (String.ofList (acc.reverse ++ more), rest)
      | none => long quote escapes fuel (c :: acc) rest
    else if escapes && c = '\\' then
      match skipFolded rest with
      | some rest => long quote escapes fuel acc rest
      | none => do
        let (found, rest) ← escape? rest
        long quote escapes fuel (found :: acc) rest
    else if c = '\n' || isShown c then long quote escapes fuel (c :: acc) rest
    else if c = '\r' && rest.head? = some '\n' then long quote escapes fuel ('\n' :: acc) (rest.drop 1)
    else none

/-- A long string after its three opening quotes; a line end right after them is no part of it. -/
def longString (quote : Char) (cs : List Char) : Option (String × List Char) :=
  let body := (newline? cs).getD cs
  long quote (quote = '"') (body.length + 1) [] body

def keyPart (cs : List Char) : Option (String × List Char) :=
  match cs with
  | '"' :: rest => basic (rest.length + 1) [] rest
  | '\'' :: rest => literal rest
  | _ =>
    let word := cs.takeWhile isBare
    if word.isEmpty then none else some (String.ofList word, cs.drop word.length)

def key : Nat → List Char → Option (List String × List Char)
  | 0, _ => none
  | fuel + 1, cs => do
    let (part, rest) ← keyPart (skipSpace cs)
    match skipSpace rest with
    | '.' :: more =>
      let (parts, rest) ← key fuel more
      return (part :: parts, rest)
    | rest => return ([part], rest)

/-- Digits with single underscores between them; nothing else may follow an underscore. -/
def digitRun (isDigit : Char → Bool) (cs : List Char) : Option (List Char) :=
  if cs.isEmpty || !cs.all (fun c => isDigit c || c = '_') then none
  else if cs.head? = some '_' || cs.getLast? = some '_' then none
  else if (cs.zip (cs.drop 1)).any (fun (a, b) => a = '_' && b = '_') then none
  else some (cs.filter (· ≠ '_'))

def valueIn (base : Nat) (digits : List Char) : Nat :=
  digits.foldl (fun n c => base * n + (hexValue? c).getD 0) 0

def plainDigits (cs : List Char) : Option (List Char) := do
  let digits ← digitRun Char.isDigit cs
  if digits.length > 1 ∧ digits.head? = some '0' then none else some digits

def hasBase (isDigit : Char → Bool) (base : Nat) (cs : List Char) : Option TomlValue := do
  let n := valueIn base (← digitRun isDigit cs)
  if n < twoTo 128 then some (.whole n) else none

def signed (cs : List Char) : Bool × List Char :=
  match cs with
  | '-' :: rest => (true, rest)
  | '+' :: rest => (false, rest)
  | _ => (false, cs)

def integer? (cs : List Char) : Option TomlValue :=
  match cs with
  | '0' :: 'x' :: rest => hasBase (fun c => (hexValue? c).isSome) 16 rest
  | '0' :: 'o' :: rest => hasBase (fun c => '0' ≤ c && c ≤ '7') 8 rest
  | '0' :: 'b' :: rest => hasBase (fun c => c = '0' || c = '1') 2 rest
  | _ => do
    let (negative, body) := signed cs
    let n := digitsValue (← plainDigits body)
    if negative then if n ≤ twoTo 127 then some (.whole (-n)) else none
    else if n < twoTo 128 then some (.whole n) else none

def overflows (digits : List Char) (exponent : Int) : Bool :=
  let digits := digits.dropWhile (· = '0')
  if digits.isEmpty then false
  else
    let top := digits.length + exponent
    if top > 400 then true
    else if top < 300 then false
    else
      let bound := twoTo 1024 - twoTo 970
      let n := digitsValue digits
      if exponent ≥ 0 then n * tenTo exponent.toNat ≥ bound else n ≥ bound * tenTo (-exponent).toNat

/-- The exponent that a number ends with, zero if there is none. -/
def exponent? : List Char → Option Int
  | [] => some 0
  | _ :: tail => do
    let (negative, digits) := signed tail
    let n := digitsValue (← digitRun Char.isDigit digits)
    some (if negative then -n else n)

def float? (cs : List Char) : Option TomlValue :=
  let body := (signed cs).2
  if body = "inf".toList ∨ body = "nan".toList then some .float
  else do
    let mantissa := body.takeWhile fun c => c ≠ 'e' && c ≠ 'E'
    let tail := body.drop mantissa.length
    let whole ← plainDigits (mantissa.takeWhile (· ≠ '.'))
    let places ← match mantissa.dropWhile (· ≠ '.') with
      | [] => some []
      | _ :: places => digitRun Char.isDigit places
    if !mantissa.contains '.' && tail.isEmpty then none
    else
      let exponent ← exponent? tail
      if overflows (whole ++ places) (exponent - places.length) then none else some .float

/-- A number of exactly `count` digits between two bounds. -/
def field (count low high : Nat) (cs : List Char) : Option (Nat × List Char) :=
  let digits := cs.take count
  if digits.length < count || !digits.all Char.isDigit then none
  else
    let n := digitsValue digits
    if low ≤ n ∧ n ≤ high then some (n, cs.drop count) else none

def mark (c : Char) : List Char → Option (List Char)
  | d :: rest => if c = d then some rest else none
  | [] => none

def isLeap (year : Nat) : Bool := year % 4 = 0 && (year % 100 ≠ 0 || year % 400 = 0)

def daysIn (year month : Nat) : Nat :=
  if month = 2 then if isLeap year then 29 else 28
  else if month = 4 || month = 6 || month = 9 || month = 11 then 30
  else 31

def date? (cs : List Char) : Option (List Char) := do
  let (year, cs) ← field 4 0 9999 cs
  let (month, cs) ← field 2 1 12 (← mark '-' cs)
  let (_, cs) ← field 2 1 (daysIn year month) (← mark '-' cs)
  return cs

/-- A time of day; seconds may be left out, and only seconds may have a fraction. -/
def time? (cs : List Char) : Option (List Char) := do
  let (_, cs) ← field 2 0 23 cs
  let (_, cs) ← field 2 0 59 (← mark ':' cs)
  match cs with
  | ':' :: cs =>
    let (_, cs) ← field 2 0 60 cs
    match cs with
    | '.' :: cs =>
      let places := cs.takeWhile Char.isDigit
      if places.isEmpty then none else return cs.drop places.length
    | _ => return cs
  | _ => return cs

def offset? (cs : List Char) : Option (List Char) :=
  match cs with
  | [] => some []
  | c :: rest =>
    if c = 'Z' ∨ c = 'z' then some rest
    else if c = '+' ∨ c = '-' then do
      let (_, rest) ← field 2 0 23 rest
      let (_, rest) ← field 2 0 59 (← mark ':' rest)
      return rest
    else none

/-- A date, a time of day, or both, with or without an offset. -/
def moment? (cs : List Char) : Option TomlValue :=
  let whole := match date? cs with
    | some [] => some []
    | some (c :: rest) =>
      if c = 'T' ∨ c = 't' ∨ c = ' ' then (time? rest).bind offset? else none
    | none => time? cs
  if whole = some [] then some .moment else none

/-- A value that is neither string, list nor table. -/
def scalar? (cs : List Char) : Option TomlValue :=
  if cs = "true".toList then some (.bool true)
  else if cs = "false".toList then some (.bool false)
  else ((moment? cs).orElse fun _ => integer? cs).orElse fun _ => float? cs

def isScalarChar (c : Char) : Bool := isBare c || c = '+' || c = '.' || c = ':'

/-- The run of characters of a scalar. A blank belongs to it between a date and a time. -/
def scalarRun (cs : List Char) : List Char :=
  let run := cs.takeWhile isScalarChar
  match cs.drop run.length with
  | ' ' :: c :: rest =>
    if date? run = some [] ∧ c.isDigit then run ++ ' ' :: (c :: rest).takeWhile isScalarChar else run
  | _ => run

def depthLimit : Nat := 80

mutual
/-- Reads a value; `depth` counts the brackets that may still open. -/
def value (fuel depth : Nat) (cs : List Char) : Option (TomlValue × List Char) :=
  match fuel with
  | 0 => none
  | fuel + 1 =>
    match cs with
    | '"' :: '"' :: '"' :: rest => (longString '"' rest).map fun (s, rest) => (.text s, rest)
    | '"' :: rest => (basic (rest.length + 1) [] rest).map fun (s, rest) => (.text s, rest)
    | '\'' :: '\'' :: '\'' :: rest => (longString '\'' rest).map fun (s, rest) => (.text s, rest)
    | '\'' :: rest => (literal rest).map fun (s, rest) => (.text s, rest)
    | '[' :: rest =>
      match depth with
      | 0 => none
      | depth + 1 => items fuel depth [] rest
    | '{' :: rest =>
      match depth with
      | 0 => none
      | depth + 1 => fields fuel depth [] rest
    | _ => do
      let run := scalarRun cs
      return (← scalar? run, cs.drop run.length)

/-- Reads the items of a list; `found` holds them in reverse. -/
def items (fuel depth : Nat) (found : List TomlValue) (cs : List Char) : Option (TomlValue × List Char) :=
  match fuel with
  | 0 => none
  | fuel + 1 => do
    let cs ← skipLines (cs.length + 1) cs
    match cs with
    | ']' :: rest => return (.list false found.reverse, rest)
    | _ =>
      let (v, rest) ← value fuel depth cs
      match ← skipLines (rest.length + 1) rest with
      | ',' :: rest => items fuel depth (v :: found) rest
      | ']' :: rest => return (.list false (v :: found).reverse, rest)
      | _ => none

def fields (fuel depth : Nat) (found : TomlEntries) (cs : List Char) : Option (TomlValue × List Char) :=
  match fuel with
  | 0 => none
  | fuel + 1 => do
    let cs ← skipLines (cs.length + 1) cs
    match cs with
    | '}' :: rest => return (.table .inlined found, rest)
    | _ =>
      let (path, rest) ← key (cs.length + 1) cs
      let rest ← mark '=' rest
      let (v, rest) ← value fuel depth (skipSpace rest)
      let found ← TomlValue.assign path.dropLast (path.getLast?.getD "") v .headed found
      match ← skipLines (rest.length + 1) rest with
      | ',' :: rest => fields fuel depth found rest
      | '}' :: rest => return (.table .inlined found, rest)
      | _ => none
end

def headerOf (path : List String) : List String × String := (path.dropLast, path.getLast?.getD "")

/-- Reads what stands on a line, after its blanks. -/
def line (cs : List Char) : Option (TomlLine × List Char) :=
  match cs with
  | '[' :: '[' :: rest => do
    let (path, rest) ← key (rest.length + 1) rest
    let rest ← mark ']' (← mark ']' rest)
    return (.item (headerOf path).1 (headerOf path).2, rest)
  | '[' :: rest => do
    let (path, rest) ← key (rest.length + 1) rest
    let rest ← mark ']' rest
    return (.header (headerOf path).1 (headerOf path).2, rest)
  | _ => do
    let (path, rest) ← key (cs.length + 1) cs
    let rest ← mark '=' rest
    let (v, rest) ← value (2 * rest.length + 2) depthLimit (skipSpace rest)
    return (.entry (headerOf path).1 (headerOf path).2 v, rest)

def document : Nat → TomlDocument → List Char → Option TomlDocument
  | 0, _, _ => none
  | fuel + 1, doc, cs => do
    match ← skipLines (cs.length + 1) cs with
    | [] => return doc
    | cs =>
      let (found, rest) ← line cs
      let doc ← doc.add found
      let rest ← skipComment (skipSpace rest)
      match newline? rest with
      | some rest => document fuel doc rest
      | none => if rest.isEmpty then return doc else none

end TomlText

/-- The entries of a document, unless it breaks a rule. A byte order mark in front is skipped. -/
def TomlValue.parse? (text : String) : Option TomlEntries :=
  let cs := match text.toList with
    | '\ufeff' :: rest => rest
    | cs => cs
  (TomlText.document (cs.length + 1) .empty cs).map (·.root)

end LabStream
