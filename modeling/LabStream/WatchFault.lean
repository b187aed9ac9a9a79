import LabStream.RuntimeFault

namespace LabStream

inductive WatchFault where
  | namespace (detail : String)
  | netlink (detail : String)
  | runtime (fault : RuntimeFault)
  deriving DecidableEq

def WatchFault.message : WatchFault → String
  | .namespace detail => "namespace: " ++ detail
  | .netlink detail => "netlink: " ++ detail
  | .runtime fault => "resolve namespace: " ++ fault.message

end LabStream
