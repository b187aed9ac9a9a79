import LabStream.Json

namespace LabStream

namespace Json

/-! Fields of records that may be left out. What is missing, or of another kind, counts as empty. -/

def textOf (value : Json) : String := value.text?.getD ""

def natOf (value : Json) : Nat := (value.whole?.getD 0).toNat

def item (value : Json) (i : Nat) : Json := value.items.getD i null

def fieldAt (value : Json) (name : String) : Json := (value.field? name).getD null

def textAt? (value : Json) (name : String) : Option String := (value.field? name).bind text?

def textAt (value : Json) (name : String) : String := (value.textAt? name).getD ""

def natAt? (value : Json) (name : String) : Option Nat := (value.present? name).map natOf

def natAt (value : Json) (name : String) : Nat := (value.natAt? name).getD 0

def flagAt? (value : Json) (name : String) : Option Bool := (value.field? name).bind bool?

def flagAt (value : Json) (name : String) : Bool := (value.flagAt? name).getD false

def itemsAt (value : Json) (name : String) : List Json := (value.fieldAt name).items

def fieldsAt (value : Json) (name : String) : List (String × Json) := (value.fieldAt name).fields

def textsAt (value : Json) (name : String) : List String := (value.itemsAt name).map textOf

end Json

end LabStream
