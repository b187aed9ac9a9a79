namespace LabStream

inductive RuntimeFault where
  | refused (status : Nat) (message : String)
  | undecoded
  | noProcess (id : String)
  | notReady (id : String)
  deriving DecidableEq

def RuntimeFault.message : RuntimeFault → String
  | refused status message =>
    "docker: Docker responded with status code " ++ toString status ++ ": " ++ message
  | undecoded => "docker: <decode>"
  | noProcess id => "container " ++ id ++ " has no running process"
  | notReady id => "namespace path not ready for container " ++ id

end LabStream
