import LabStream.EventLine
import LabStream.Quoted
import LabStream.Span
import LabStream.TomlText
import LabStream.Utf8

namespace LabStream

inductive SettingsFault where
  | malformed
  | blankLabLabel
  | blankRuntime
  | badFormat (name : String)
  | zeroCapacity
  | zeroStatsInterval
  | zeroTimeout
  | emptyBpffsRoot
  | emptyObjectDir
  | emptyServicesFile
  | file (path detail : String)
  deriving DecidableEq

def SettingsFault.message : SettingsFault → String
  | malformed => "malformed document"
  | blankLabLabel => "stream.lab_label must be non-empty"
  | blankRuntime => "stream.runtime must be non-empty"
  | badFormat name => "stream.format must be plain or json, got " ++ quoted name
  | zeroCapacity => "stream.channel_capacity must be > 0, got 0"
  | zeroStatsInterval => "interfaces.stats_interval_ms must be > 0, got 0"
  | zeroTimeout => "runtime.timeout_secs must be > 0, got 0"
  | emptyBpffsRoot => "traffic.bpffs_root must be non-empty"
  | emptyObjectDir => "traffic.object_dir must be non-empty"
  | emptyServicesFile => "traffic.services_file must be non-empty"
  | file path detail => "config " ++ path ++ ": " ++ detail

structure StreamOptions where
  format : String
  runtime : String
  labLabel : String
  initialState : Bool
  interfaceStats : Bool
  statsInterval : Span
  traffic : Bool
  trafficInterval : Span
  servicesFile : String
  capacity : Nat
  deriving DecidableEq

def StreamOptions.standard : StreamOptions :=
  ⟨"plain", "docker", "containerlab", false, false, .ofSeconds 1, false, .ofSeconds 5,
    "/etc/services", 128⟩

structure TrafficPaths where
  bpffsRoot : String
  objectDir : String
  deriving DecidableEq

structure Settings where
  format : String
  runtime : String
  labLabel : String
  initialState : Bool
  capacity : Nat
  interfaceStats : Bool
  statsMillis : Nat
  traffic : Bool
  trafficMillis : Nat
  bpffsRoot : String
  objectDir : String
  servicesFile : String
  dockerSocket : String
  timeoutSeconds : Nat
  deriving DecidableEq

namespace Settings

def standard : Settings :=
  ⟨"plain", "docker", "containerlab", false, 128, false, 1000, false, 5000,
    "/sys/fs/bpf/lab_events_traffic", "/usr/local/lib/lab-events", "/etc/services", "", 30⟩

/-- Stores one value, if it has the right type. -/
abbrev Setter := TomlValue → Settings → Option Settings

def textSetter (store : Settings → String → Settings) : Setter
  | .text s, settings => some (store settings s)
  | _, _ => none

def boolSetter (store : Settings → Bool → Settings) : Setter
  | .bool b, settings => some (store settings b)
  | _, _ => none

/-- Numbers are whole, not negative and fit in 64 bits. -/
def numberSetter (store : Settings → Nat → Settings) : Setter
  | .whole n, settings => if 0 ≤ n ∧ n < twoTo 64 then some (store settings n.toNat) else none
  | _, _ => none

/-- The keys of every section, in the order in which a list gives their values. -/
def sections : List (String × List (String × Setter)) :=
  [("stream",
    [("format", textSetter fun s v => { s with format := v }),
     ("runtime", textSetter fun s v => { s with runtime := v }),
     ("lab_label", textSetter fun s v => { s with labLabel := v }),
     ("include_initial_state", boolSetter fun s v => { s with initialState := v }),
     ("channel_capacity", numberSetter fun s v => { s with capacity := v })]),
   ("interfaces",
    [("include_stats", boolSetter fun s v => { s with interfaceStats := v }),
     ("stats_interval_ms", numberSetter fun s v => { s with statsMillis := v })]),
   ("traffic",
    [("enabled", boolSetter fun s v => { s with traffic := v }),
     ("interval_ms", numberSetter fun s v => { s with trafficMillis := v }),
     ("bpffs_root", textSetter fun s v => { s with bpffsRoot := v }),
     ("object_dir", textSetter fun s v => { s with objectDir := v }),
     ("services_file", textSetter fun s v => { s with servicesFile := v })]),
   ("runtime",
    [("docker_socket", textSetter fun s v => { s with dockerSocket := v }),
     ("timeout_secs", numberSetter fun s v => { s with timeoutSeconds := v })])]

/-- Applies the setters of a section to its table, or to a list of values in order. A date counts
as a table without any known key. -/
def readSection (setters : List (String × Setter)) (value : TomlValue) (settings : Settings) :
    Option Settings :=
  match value with
  | .table _ entries =>
    setters.foldlM (fun settings (key, set) =>
      match TomlValue.find? entries key with
      | some v => set v settings
      | none => some settings) settings
  | .list _ items => (setters.zip items).foldlM (fun settings ((_, set), v) => set v settings) settings
  | .moment => some settings
  | _ => none

/-- The settings of a document; sections and keys that are not known do not count. -/
def ofEntries? (entries : TomlEntries) : Option Settings :=
  sections.foldlM (fun settings (name, setters) =>
    match TomlValue.find? entries name with
    | some value => readSection setters value settings
    | none => some settings) standard

/-- The first rule that settings break, if any. -/
def fault? (s : Settings) : Option SettingsFault :=
  if (trimBlanks s.labLabel).isEmpty then some .blankLabLabel
  else if (trimBlanks s.runtime).isEmpty then some .blankRuntime
  else if (LineFormat.ofName? s.format).isNone then some (.badFormat s.format)
  else if s.capacity = 0 then some .zeroCapacity
  else if s.statsMillis = 0 then some .zeroStatsInterval
  else if s.timeoutSeconds = 0 then some .zeroTimeout
  else if s.traffic ∧ s.bpffsRoot.isEmpty then some .emptyBpffsRoot
  else if s.traffic ∧ s.objectDir.isEmpty then some .emptyObjectDir
  else if s.traffic ∧ s.servicesFile.isEmpty then some .emptyServicesFile
  else none

def validate (s : Settings) : Except SettingsFault Settings :=
  match s.fault? with
  | some fault => .error fault
  | none => .ok s

def ofText (text : String) : Except SettingsFault Settings :=
  match (TomlValue.parse? text).bind ofEntries? with
  | some s => s.validate
  | none => .error .malformed

inductive FileContents where
  | missing
  | directory
  | bytes (contents : List UInt8)

/-- The settings of a file. A file that nobody asked for may be missing. -/
def ofFile (path : String) (asked : Bool) : FileContents → Except SettingsFault Settings
  | .missing =>
    if asked then .error (.file path "No such file or directory (os error 2)") else standard.validate
  | .directory => .error (.file path "Is a directory (os error 21)")
  | .bytes contents =>
    match utf8Text? contents with
    | some text => ofText text
    | none => .error (.file path "stream did not contain valid UTF-8")

def options (s : Settings) : StreamOptions where
  format := s.format
  runtime := s.runtime
  labLabel := s.labLabel
  initialState := s.initialState
  interfaceStats := s.interfaceStats
  statsInterval := .ofMillis s.statsMillis
  traffic := s.traffic
  trafficInterval := .ofMillis s.trafficMillis
  servicesFile := s.servicesFile
  capacity := s.capacity

def trafficPaths (s : Settings) : TrafficPaths := ⟨s.bpffsRoot, s.objectDir⟩

end Settings

end LabStream
