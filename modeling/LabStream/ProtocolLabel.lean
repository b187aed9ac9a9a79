import LabStream.ServiceNames

namespace LabStream

/-- The label of a port of a transport protocol: its service, or the port itself. -/
def portLabel (names : ServiceNames) (transport : Transport) (word : String) (port : Nat) : String :=
  match names.lookup transport port with
  | some service => service ++ "/" ++ word
  | none => word ++ "/" ++ toString port ++ "/" ++ word

/-- The label of a protocol bucket; unknown buckets have none. -/
def protocolLabel (names : ServiceNames) (bucket port : Nat) : Option String :=
  match bucket with
  | 1 => some "ipv4"
  | 2 => some "ipv6"
  | 3 => some "arp"
  | 4 => some "icmp"
  | 5 => some "icmpv6"
  | 6 => some (portLabel names .tcp "tcp" port)
  | 7 => some (portLabel names .udp "udp" port)
  | 8 => some "bgp/tcp"
  | 9 => some "stp"
  | 10 => some "lldp"
  | 11 => some "other_l2"
  | _ => none

end LabStream
