import LabStream.Container
import LabStream.LinkRates

namespace LabStream

def linkAttributes (c : Container) (labLabel : String) (s : Snapshot) : Attributes :=
  let fixed := Attributes.ofPairs
    [("ifname", s.name), ("index", toString s.index), ("mtu", toString s.mtu), ("state", s.state),
     ("type", s.kind), ("origin", "netlink")]
  [("alias", s.altName), ("mac", s.mac), ("lab", c.labels.valueOf labLabel), ("name", c.firstName)].foldl
    (fun attrs (name, value) => attrs.insertFilled name value) fixed

def linkEvent (c : Container) (labLabel action : String) (s : Snapshot) (now : Instant) : Event :=
  ((Event.make now .interface action).withActor c.shortId c.firstName c.id).withAttributes
    (linkAttributes c labLabel s).toList

def metricsEvent (c : Container) (labLabel : String) (s : Snapshot) (m : LinkMetrics) (now : Instant) :
    Event :=
  (linkEvent c labLabel "stats" s now).withAttributes
    [("rx_bytes", toString m.current.rxBytes), ("tx_bytes", toString m.current.txBytes),
     ("rx_packets", toString m.current.rxPackets), ("tx_packets", toString m.current.txPackets),
     ("rx_bps", floatText m.rxBits), ("tx_bps", floatText m.txBits),
     ("rx_pps", floatText m.rxPackets), ("tx_pps", floatText m.txPackets),
     ("interval_seconds", floatText m.interval.inSeconds)]

end LabStream
