import LabStream.Numeral

namespace LabStream

/-- A JSON value. Whole numbers keep their value, all other numbers only their text; the fields
of a record keep their order and may repeat a name. -/
inductive Json where
  | null
  | bool (value : Bool)
  | whole (value : Int)
  | real (text : String)
  | text (value : String)
  | list (items : List Json)
  | record (fields : List (String × Json))

namespace Json

/-- The last field of a name. -/
def field? (value : Json) (name : String) : Option Json :=
  match value with
  | record fields => (fields.reverse.find? (·.1 == name)).map (·.2)
  | _ => none

/-- The last field of a name, where `null` counts as no field. -/
def present? (value : Json) (name : String) : Option Json :=
  match value.field? name with
  | some null => none
  | found => found

def text? : Json → Option String
  | text value => some value
  | _ => none

def whole? : Json → Option Int
  | whole value => some value
  | _ => none

def bool? : Json → Option Bool
  | bool value => some value
  | _ => none

def items : Json → List Json
  | list items => items
  | _ => []

def fields : Json → List (String × Json)
  | record fields => fields
  | _ => []

def ofNat (n : Nat) : Json := whole n

def ofOption {α : Type} (encode : α → Json) : Option α → Json
  | some a => encode a
  | none => null

def texts (items : List String) : Json := list (items.map text)

def escapedChar (c : Char) : List Char :=
  match c with
  | '"' => ['\\', '"']
  | '\\' => ['\\', '\\']
  | '\n' => ['\\', 'n']
  | '\r' => ['\\', 'r']
  | '\t' => ['\\', 't']
  | '\x08' => ['\\', 'b']
  | '\x0c' => ['\\', 'f']
  | _ =>
    if c.toNat < 0x20 then
      ['\\', 'u', '0', '0', Nat.digitChar (c.toNat / 16), Nat.digitChar (c.toNat % 16)]
    else [c]

/-- A string between quotes, with control characters and the quote escaped. -/
def textChars (value : String) : List Char :=
  '"' :: (value.toList.flatMap escapedChar ++ ['"'])

def joined (parts : List (List Char)) : List Char := [','].intercalate parts

mutual
def chars : Json → List Char
  | null => ['n', 'u', 'l', 'l']
  | bool true => ['t', 'r', 'u', 'e']
  | bool false => ['f', 'a', 'l', 's', 'e']
  | whole value => (toString value).toList
  | real value => value.toList
  | text value => textChars value
  | list items => '[' :: (joined (itemChars items) ++ [']'])
  | record fields => '{' :: (joined (fieldChars fields) ++ ['}'])

def itemChars : List Json → List (List Char)
  | [] => []
  | value :: rest => chars value :: itemChars rest

def fieldChars : List (String × Json) → List (List Char)
  | [] => []
  | (name, value) :: rest => (textChars name ++ ':' :: chars value) :: fieldChars rest
end

def render (value : Json) : String := String.ofList value.chars

end Json

end LabStream
