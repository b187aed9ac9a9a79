namespace LabStream

/-- The length of the character that a byte begins, with the bounds on its second byte. -/
def utf8Lead (b : UInt8) : Option (Nat × UInt8 × UInt8) :=
  if b < 0x80 then some (1, 0, 0)
  else if 0xC2 ≤ b && b ≤ 0xDF then some (2, 0x80, 0xBF)
  else if b == 0xE0 then some (3, 0xA0, 0xBF)
  else if b == 0xED then some (3, 0x80, 0x9F)
  else if 0xE1 ≤ b && b ≤ 0xEF then some (3, 0x80, 0xBF)
  else if b == 0xF0 then some (4, 0x90, 0xBF)
  else if 0xF1 ≤ b && b ≤ 0xF3 then some (4, 0x80, 0xBF)
  else if b == 0xF4 then some (4, 0x80, 0x8F)
  else none

def isUtf8Tail (b : UInt8) : Bool := 0x80 ≤ b && b ≤ 0xBF

/-- How many of the bytes after a lead byte belong to its character. -/
def utf8Follow (length : Nat) (low high : UInt8) (rest : List UInt8) : Nat :=
  match rest with
  | [] => 0
  | b :: more =>
    if length ≤ 1 then 0
    else if low ≤ b && b ≤ high then 1 + ((more.take (length - 2)).takeWhile isUtf8Tail).length
    else 0

/-- The bits of a lead byte that belong to the code point. -/
def utf8Head (length : Nat) (b : UInt8) : Nat :=
  match length with
  | 1 => b.toNat
  | 2 => b.toNat % 32
  | 3 => b.toNat % 16
  | _ => b.toNat % 8

/-- The characters of a list of bytes. Every longest run of bytes that begins a character without
finishing it stands as `none`, and so does every byte that begins none. -/
def utf8Units (bytes : List UInt8) : List (Option Char) :=
  match bytes with
  | [] => []
  | b :: rest =>
    match utf8Lead b with
    | none => none :: utf8Units rest
    | some (length, low, high) =>
      let follow := utf8Follow length low high rest
      let unit :=
        if follow + 1 = length then
          some (Char.ofNat ((rest.take follow).foldl (fun n c => 64 * n + c.toNat % 64) (utf8Head length b)))
        else none
      unit :: utf8Units (rest.drop follow)
termination_by bytes.length
decreasing_by all_goals (simp only [List.length_cons, List.length_drop]; omega)

/-- The text of bytes that are well formed. -/
def utf8Text? (bytes : List UInt8) : Option String :=
  let units := utf8Units bytes
  if units.all Option.isSome then some (String.ofList (units.filterMap id)) else none

/-- The text of any bytes, with a replacement character for what is not well formed. -/
def utf8TextLossy (bytes : List UInt8) : String :=
  String.ofList ((utf8Units bytes).map fun unit => unit.getD '\ufffd')

end LabStream
