import LabStream.HiddenTable

namespace LabStream

def hexText (n : Nat) : String := String.ofList (Nat.toDigits 16 n)

def quotedChar (c : Char) : String :=
  match c with
  | '\x00' => "\\0"
  | '\t' => "\\t"
  | '\n' => "\\n"
  | '\r' => "\\r"
  | '"' => "\\\""
  | '\\' => "\\\\"
  | _ => if inRanges hiddenRanges c.toNat then "\\u\x7b" ++ hexText c.toNat ++ "\x7d" else c.toString

/-- A text between double quotes, with what cannot be seen spelt out. -/
def quoted (text : String) : String :=
  "\"" ++ String.join (text.toList.map quotedChar) ++ "\""

end LabStream
