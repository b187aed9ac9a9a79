import LabStream.RuntimeFault
import LabStream.TrafficFault

namespace LabStream

inductive StreamFault where
  | unsupportedFormat (name : String)
  | runtimeNotInitialized (name : String)
  | noBackend
  /-- The channel cannot hold that many events. It is a breakdown, no answer to anybody. -/
  | channelTooLarge
  | runtime (fault : RuntimeFault)
  | traffic (fault : TrafficFault)
  deriving DecidableEq

def StreamFault.message : StreamFault → String
  | unsupportedFormat name => "unsupported format " ++ quoted name ++ " (expected plain or json)"
  | runtimeNotInitialized name => "runtime " ++ quoted name ++ " is not initialized"
  | noBackend => "config: traffic sampling requested without a counter backend"
  | channelTooLarge => "no channel holds that many events"
  | runtime fault => "runtime: " ++ fault.message
  | traffic fault => "traffic: " ++ fault.message

end LabStream
