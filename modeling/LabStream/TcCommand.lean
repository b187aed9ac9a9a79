import LabStream.Blank
import LabStream.Utf8

namespace LabStream

inductive Hook where
  | ingress
  | egress
  deriving DecidableEq

def Hook.word : Hook → String
  | ingress => "ingress"
  | egress => "egress"

inductive TcCommand where
  | addQdisc (ifname : String)
  | replaceFilter (ifname : String) (hook : Hook) (pin : String)
  | deleteFilter (ifname : String) (hook : Hook)
  deriving DecidableEq

namespace TcCommand

def filterPref : String := "42420"

def filterPlace (ifname : String) (hook : Hook) : List String :=
  ["dev", ifname, hook.word, "pref", filterPref, "protocol", "all"]

def arguments : TcCommand → List String
  | addQdisc ifname => ["qdisc", "add", "dev", ifname, "clsact"]
  | replaceFilter ifname hook pin =>
    ["filter", "replace"] ++ filterPlace ifname hook ++ ["bpf", "da", "pinned", pin]
  | deleteFilter ifname hook => ["filter", "del"] ++ filterPlace ifname hook

def argumentText (command : TcCommand) : String := " ".intercalate command.arguments

def text (command : TcCommand) : String := "tc " ++ command.argumentText

end TcCommand

inductive TcOutcome where
  | notStarted (reason : String)
  | exited (code : Nat) (stderr : List UInt8)
  | killed (signal : Nat) (stderr : List UInt8)
  deriving DecidableEq

namespace TcOutcome

def signalNames : List String :=
  ["SIGHUP", "SIGINT", "SIGQUIT", "SIGILL", "SIGTRAP", "SIGABRT", "SIGBUS", "SIGFPE", "SIGKILL",
   "SIGUSR1", "SIGSEGV", "SIGUSR2", "SIGPIPE", "SIGALRM", "SIGTERM", "SIGSTKFLT", "SIGCHLD", "SIGCONT",
   "SIGSTOP", "SIGTSTP", "SIGTTIN", "SIGTTOU", "SIGURG", "SIGXCPU", "SIGXFSZ", "SIGVTALRM", "SIGPROF",
   "SIGWINCH", "SIGIO", "SIGPWR", "SIGSYS"]

def signalText (signal : Nat) : String :=
  "signal: " ++ toString signal ++
    match signalNames[signal - 1]? with
    | some name => if signal = 0 then "" else " (" ++ name ++ ")"
    | none => ""

def withReason (status : String) (stderr : List UInt8) : String :=
  let reason := trimBlanks (utf8TextLossy stderr)
  if reason.isEmpty then status else status ++ " (" ++ reason ++ ")"

/-- What went wrong, if anything did. -/
def fault? : TcOutcome → Option String
  | notStarted reason => some reason
  | exited 0 _ => none
  | exited code stderr => some (withReason ("exit status: " ++ toString code) stderr)
  | killed signal stderr => some (withReason (signalText signal) stderr)

def hasStarted : TcOutcome → Bool
  | notStarted _ => false
  | _ => true

end TcOutcome

end LabStream
