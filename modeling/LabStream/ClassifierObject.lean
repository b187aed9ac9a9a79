namespace LabStream

structure ObjectMap where
  name : String
  type : Nat
  keySize : Nat
  valueSize : Nat
  deriving DecidableEq

/-- A program in an object file, with the section it is in. -/
structure ObjectProgram where
  name : String
  place : String
  deriving DecidableEq

structure ClassifierObject where
  programs : List ObjectProgram
  maps : List ObjectMap
  deriving DecidableEq

namespace ObjectProgram

/-- Sections that may have any name after their first part. -/
def freeSections : List String :=
  ["kprobe", "kretprobe", "uprobe", "uprobe.s", "uretprobe", "uretprobe.s", "tp_btf", "tracepoint", "tp",
   "socket", "sk_msg", "sockops", "classifier", "lirc_mode2", "perf_event", "raw_tp", "raw_tracepoint",
   "lsm", "lsm.s", "fentry", "fentry.s", "fexit", "fexit.s", "sk_lookup", "iter", "iter.s",
   "flow_dissector"]

/-- The second parts that other sections may have; an empty one means that there may be none. -/
def boundSections : List (String × List String) :=
  [("xdp", ["", "cpumap", "devmap"]), ("xdp.frags", ["", "cpumap", "devmap"]),
   ("sk_skb", ["stream_parser", "stream_verdict"]), ("cgroup_skb", ["ingress", "egress"]),
   ("cgroup", ["skb", "sock", "sock_create", "sock_release", "sysctl", "dev", "getsockopt", "setsockopt",
     "bind4", "bind6", "post_bind4", "post_bind6", "connect4", "connect6", "getpeername4",
     "getpeername6", "getsockname4", "getsockname6", "sendmsg4", "sendmsg6", "recvmsg4", "recvmsg6"])]

def placeParts (p : ObjectProgram) : List String := (p.place.toList.splitOn '/').map String.ofList

def isKnown (p : ObjectProgram) : Bool :=
  match p.placeParts with
  | [] => false
  | [kind] =>
    freeSections.contains kind || boundSections.any fun (name, parts) => name = kind && parts.contains ""
  | kind :: part :: _ =>
    freeSections.contains kind ||
      boundSections.any fun (name, parts) => name = kind && part ≠ "" && parts.contains part

def isClassifier (p : ObjectProgram) : Bool := p.placeParts.head? = some "classifier"

end ObjectProgram

namespace ObjectMap

def loadableTypes : List Nat := [1, 2, 3, 4, 5, 6, 7, 9, 10, 11, 14, 15, 16, 17, 18, 22, 23, 25, 27, 30]

/-- The map types with keys and values of any size, each key once. -/
def hashTypes : List Nat := [1, 9]

end ObjectMap

namespace ClassifierObject

def isLoadable (o : ClassifierObject) : Bool :=
  o.programs.all ObjectProgram.isKnown && o.maps.all (fun m => ObjectMap.loadableTypes.contains m.type)

def program? (o : ClassifierObject) (name : String) : Option ObjectProgram :=
  o.programs.find? (·.name = name)

def map? (o : ClassifierObject) (name : String) : Option ObjectMap := o.maps.find? (·.name = name)

end ClassifierObject

end LabStream
