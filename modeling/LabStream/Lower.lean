import LabStream.CaseTable

namespace LabStream

/-- The code point of the lower-case letter, or the code itself when it has none. -/
def lowerCode (code : Nat) : Nat :=
  match caseRows.find? (·.covers code) with
  | some row => (code + row.shift).toNat
  | none => code

def lowerChar (c : Char) : Char :=
  if c.toNat < 0x80 then c.toLower else Char.ofNat (lowerCode c.toNat)

def isCased (c : Char) : Bool := inRanges casedRanges c.toNat

def isCaseIgnorable (c : Char) : Bool := inRanges caseIgnorableRanges c.toNat

/-- Whether a cased letter comes first once the case-ignorable characters are skipped. -/
def meetsCased (cs : List Char) : Bool :=
  ((cs.dropWhile isCaseIgnorable).head?.map isCased).getD false

/-- Lower-casing of `cs`, given the characters before it in reverse. A capital sigma becomes the
final one at the end of a word; a dotted capital I keeps its dot as a combining mark. -/
def lowerAfter (before : List Char) : List Char → List Char
  | [] => []
  | c :: rest =>
    let image :=
      if c = 'Σ' then [if meetsCased before && !meetsCased rest then 'ς' else 'σ']
      else if c = 'İ' then ['i', '\u0307']
      else [lowerChar c]
    image ++ lowerAfter (c :: before) rest

def lowerText (text : String) : String := String.ofList (lowerAfter [] text.toList)

def lowerAscii (text : String) : String := text.map Char.toLower

end LabStream
