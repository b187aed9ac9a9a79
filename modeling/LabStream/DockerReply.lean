import LabStream.JsonShape
import LabStream.RuntimeFault
import LabStream.Surroundings

namespace LabStream

structure DockerRequest where
  path : String
  /-- Whether containers that do not run are asked for too. -/
  all : Bool
  filters : Option (List (String × String))
  deriving DecidableEq

namespace DockerRequest

def filtersOf (f : ContainerFilter) : List (String × String) :=
  [("label", f.label), ("id", f.id), ("name", f.name)].filterMap fun (name, value) =>
    value.map fun v => (name, v)

def list (f : ContainerFilter) : DockerRequest := ⟨"/containers/json", true, some (filtersOf f)⟩

def inspect (id : String) : DockerRequest := ⟨"/containers/" ++ id ++ "/json", false, none⟩

def events (label : String) : DockerRequest := ⟨"/events", false, some [("label", label)]⟩

end DockerRequest

structure DockerReply where
  status : Nat
  body : String
  deriving DecidableEq

namespace DockerReply

/-- Replies that never carry a body. -/
def isBare (status : Nat) : Bool := status = 204 || status = 304

def isAccepted (status : Nat) : Bool := (200 ≤ status && status < 300) || status = 304

def refusal : JsonShape := .record [("message", true, .string)]

/-- The body of a reply, or why it is none: the message in it, else all of it. -/
def text (r : DockerReply) : Except RuntimeFault String :=
  let body := if isBare r.status then "" else r.body
  if isAccepted r.status then .ok body
  else if body.isEmpty then .error (.refused r.status "")
  else match refusal.parse body with
    | .ok value => .error (.refused r.status (((value.field? "message").bind Json.text?).getD ""))
    | .error .malformed => .error (.refused r.status body)
    | .error .unfinished => .error .undecoded

def value (r : DockerReply) (shape : JsonShape) : Except RuntimeFault Json := do
  match shape.parse (← r.text) with
  | .ok value => .ok value
  | .error _ => .error .undecoded

end DockerReply

end LabStream
