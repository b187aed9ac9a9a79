import LabStream.Lower

namespace LabStream

/-- Where an event comes from. Runtime events of other types keep their lower-case name. -/
inductive EventKind where
  | container
  | interface
  | traffic
  | other (name : String)
  deriving DecidableEq

namespace EventKind

def ofLower (name : String) : EventKind :=
  if name = "container" then container
  else if name = "interface" then interface
  else if name = "traffic" then traffic
  else other name

def ofName (name : String) : EventKind := ofLower (lowerText name)

def name : EventKind → String
  | container => "container"
  | interface => "interface"
  | traffic => "traffic"
  | other name => name

def isOther : EventKind → Bool
  | other _ => true
  | _ => false

end EventKind

end LabStream
