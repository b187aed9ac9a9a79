import LabStream.Surroundings

namespace LabStream

namespace Enrichment

/-- The attributes that are filled in when an event does not have them. -/
def gapNames : List String := ["mgmt_ipv4", "mgmt_ipv6", "ports"]

def isMissing (attrs : Attributes) (name : String) : Bool := (attrs.valueOf name).isEmpty

/-- The listing that may fill the gaps of an event, if it has gaps and names its container. -/
def filter? (attrs : Attributes) (fullId name : String) : Option ContainerFilter :=
  if !gapNames.any (isMissing attrs) then none
  else if !fullId.isEmpty then some (.byId fullId)
  else if !name.isEmpty then some (.byName name)
  else none

/-- Whether an id names a container, in full, in part or in short. -/
def hasId (fullId : String) (c : Container) : Bool :=
  c.id == fullId || c.id.startsWith fullId || c.shortId == fullId

/-- The listed container that an event is about: by id, else by name, else the first one. -/
def select (containers : List Container) (fullId name : String) : Option Container :=
  let byId := if fullId.isEmpty then none else containers.find? (hasId fullId)
  let byName := if name.isEmpty then none else containers.find? (·.names.contains name)
  (byId.or byName).or containers.head?

/-- Fills one gap with a value that is not empty. -/
def fillOne (attrs : Attributes) (name value : String) : Attributes :=
  if isMissing attrs name then attrs.insertFilled name value else attrs

def fillFrom (attrs : Attributes) (c : Container) : Attributes :=
  fillOne (fillOne (fillOne attrs "mgmt_ipv4" c.mgmtIpv4) "mgmt_ipv6" c.mgmtIpv6) "ports"
    (Port.listing c.ports)

def fill (attrs : Attributes) (fullId name : String) (found : Except RuntimeFault (List Container)) :
    Attributes :=
  match found with
  | .error _ => attrs
  | .ok containers =>
    match select containers fullId name with
    | none => attrs
    | some c => fillFrom attrs c

end Enrichment

end LabStream
