import LabStream.CaseTable

namespace LabStream

def blankRanges : List CodeRange :=
  [(0x9, 0xD), (0x20, 0x20), (0x85, 0x85), (0xA0, 0xA0), (0x1680, 0x1680), (0x2000, 0x200A),
   (0x2028, 0x2029), (0x202F, 0x202F), (0x205F, 0x205F), (0x3000, 0x3000)]

def isBlank (c : Char) : Bool := inRanges blankRanges c.toNat

def trimBlankList (cs : List Char) : List Char :=
  ((cs.dropWhile isBlank).reverse.dropWhile isBlank).reverse

def trimBlanks (text : String) : String := String.ofList (trimBlankList text.toList)

/-- The maximal runs of characters that satisfy no `stop`, empty runs left out. -/
def runsOf (stop : Char → Bool) : List Char → List (List Char)
  | [] => []
  | c :: rest =>
    if stop c then runsOf stop rest
    else match rest, runsOf stop rest with
      | [], _ => [[c]]
      | d :: _, runs =>
        if stop d then [c] :: runs
        else match runs with
          | [] => [[c]]
          | run :: more => (c :: run) :: more

/-- The words of a line, cut at blanks. -/
def blankWords (cs : List Char) : List (List Char) := runsOf isBlank cs

theorem runsOf_cons_stop {stop : Char → Bool} {c : Char} (h : stop c = true) (rest : List Char) :
    runsOf stop (c :: rest) = runsOf stop rest := by
  simp [runsOf, h]

end LabStream
