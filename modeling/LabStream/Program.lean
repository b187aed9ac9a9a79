import LabStream.CommandLine
import LabStream.DockerRuntime
import LabStream.StreamFault

namespace LabStream

structure Premises where
  /-- The configuration file that the surroundings name. -/
  configFile : Option String
  /-- The address of Docker that the surroundings name. -/
  dockerHost : Option String
  isRoot : Bool
  /-- What is in the file at a path. -/
  contents : String → Settings.FileContents
  /-- Whether there is a socket at a path. -/
  hasSocket : String → Bool

/-- Why the program has nothing to stream, or how its stream has failed. -/
inductive RunFault where
  | usage (fault : UsageFault)
  | settings (fault : SettingsFault)
  | notRoot
  | noSocket (path : String)
  | stream (fault : StreamFault)
  deriving DecidableEq

namespace RunFault

/-- The exit code of a program that ends with a fault. To ask for help is none of the user's faults, and a
breakdown is one of the program. -/
def exitCode : RunFault → Nat
  | usage .help => 0
  | usage .version => 0
  | usage _ => 2
  | stream .channelTooLarge => 101
  | _ => 1

/-- The text of an error; a fault of the command line and a breakdown are told in other ways. -/
def message? : RunFault → Option String
  | usage _ => none
  | stream .channelTooLarge => none
  | settings fault => some fault.message
  | notRoot => some "lab-events must run as root to enter container network namespaces"
  | noSocket path => some (DockerSocket.missingText path)
  | stream fault => some fault.message

end RunFault

namespace Program

def name : String := "lab-events"

def version : String := "0.8.0"

/-- The configuration file that is read when none is asked for. -/
def standardConfig : String := "config.toml"

/-- The configuration file, and whether it was asked for. The command line goes before the surroundings. -/
def configPath (line : CommandLine) (named : Option String) : String × Bool :=
  match (line.value? .config).or named with
  | some path => (path, true)
  | none => (standardConfig, false)

/-- The settings of the configuration file with those of the command line over them. -/
def settings (premises : Premises) (line : CommandLine) : Except SettingsFault Settings :=
  let (path, asked) := configPath line premises.configFile
  line.settings (Settings.ofFile path asked (premises.contents path))

def socketPath (premises : Premises) (s : Settings) : String :=
  DockerSocket.path s.dockerSocket premises.dockerHost

def prepare (premises : Premises) (args : List String) : Except RunFault Settings := do
  let line ← (CommandLine.parse args).mapError .usage
  let s ← (settings premises line).mapError .settings
  if !premises.isRoot then throw .notRoot
  if !premises.hasSocket (socketPath premises s) then throw (.noSocket (socketPath premises s))
  return s

def optionLines (named : Option String) : List (String × String) :=
  [("      --config <CONFIG>", "TOML config file [env: CONFIG_FILE=" ++ named.getD "" ++ "]"),
   ("  -f, --format <FORMAT>", "Output format: plain or json"),
   ("      --runtime <RUNTIME>", "Container runtime"),
   ("      --initial-state", "Emit container and interface snapshots before streaming"),
   ("      --interface-stats", "Emit periodic interface counter events"),
   ("      --stats-interval <MS>", "Interface stats interval in milliseconds"),
   ("      --traffic", "Sample per-protocol traffic counters with tc + eBPF"),
   ("      --traffic-interval <MS>", "Traffic sample interval in milliseconds"),
   ("  -h, --help", "Print help"),
   ("  -V, --version", "Print version")]

/-- One line for an option; what it is for stands below that of all others. -/
def optionLine (width : Nat) (row : String × String) : String :=
  row.1.pushn ' ' (width - row.1.length) ++ "  " ++ row.2

def helpLines (named : Option String) : List String :=
  let rows := optionLines named
  let width := ((rows.map (·.1.length)).max?).getD 0
  ["Streams container lifecycle, interface and traffic events of a lab", "",
    "Usage: " ++ name ++ " [OPTIONS]", "", "Options:"] ++ rows.map (optionLine width)

/-- What a program that streams nothing writes. -/
def lines (premises : Premises) : RunFault → List String
  | .usage .help => helpLines premises.configFile
  | .usage .version => [name ++ " " ++ version]
  | _ => []

end Program

end LabStream
