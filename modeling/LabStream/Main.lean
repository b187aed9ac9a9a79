import LabStream.MachineScript
import LabStream.Program
import Std.Time.DateTime.Timestamp

namespace LabStream

namespace Console

def contentsOf (path : String) : IO Settings.FileContents := do
  try return .bytes (← IO.FS.readBinFile path).toList
  catch
    | .noFileOrDirectory .. => return .missing
    | _ => return .directory

/-- Whether anything is at a path; a socket is there although it cannot be opened as a file. -/
def exists? (path : String) : IO Bool := do
  try
    let _ ← IO.FS.Handle.mk path .read
    return true
  catch
    | .noFileOrDirectory .. => return false
    | _ => return true

/-- The text of a file; a file that cannot be read has none. -/
def textOf (path : String) : IO String := do
  match ← contentsOf path with
  | .bytes contents => return (utf8Text? contents).getD ""
  | _ => return ""

/-- Whether the process acts for the user of number zero: the second number of the line says so. -/
def isRoot : IO Bool := do
  let lines := (← textOf "/proc/self/status").splitOn "\n"
  let numbers := ((lines.find? (·.startsWith "Uid:")).getD "").splitOn "\t"
  return numbers[2]? = some "0"

def premises (args : List String) : IO Premises := do
  let configFile ← IO.getEnv "CONFIG_FILE"
  let line := (CommandLine.parse args).toOption.getD []
  let contents ← contentsOf (Program.configPath line configFile).1
  let found : Premises :=
    { configFile
      dockerHost := ← IO.getEnv "DOCKER_HOST"
      isRoot := ← isRoot
      contents := fun _ => contents
      hasSocket := fun _ => false }
  match Program.settings found line with
  | .error _ => return found
  | .ok s =>
    let hasSocket ← exists? (Program.socketPath found s)
    return { found with hasSocket := fun _ => hasSocket }

/-- The time of the calendar in nanoseconds. -/
def calendarTime : IO Int := do return (← Std.Time.Timestamp.now).toNanosecondsSinceUnixEpoch.val

def nextLine : IO (Task (Except IO.Error String)) := do IO.asTask (← IO.getStdin).getLine

def flush (format : LineFormat) (s : MachineStream) : IO MachineStream := do
  let m := MachineStream.machine s
  let output ← IO.getStdout
  for event in m.written do output.putStr (event.line format)
  output.flush
  return MachineStream.setMachine { m with written := [] } s

/-- Follows a feed, a message a line, until it ends or the stream does. -/
partial def follow (setup : StreamSetup Machine TcTable) (startedAt : Nat)
    (line : Task (Except IO.Error String)) (s : MachineStream) : IO (Except StreamFault Unit) := do
  let clock := EventStream.clockwork setup
  let now := (← IO.monoNanosNow) - startedAt
  let s ← flush setup.format (clock.settle Rehearsal.patience (clock.runUntil Rehearsal.patience now s))
  match s.result? with
  | some result => return result
  | none =>
    if !(← IO.hasFinished line) then
      IO.sleep 10
      follow setup startedAt line s
    else
      let text := ((← IO.wait line).toOption).getD ""
      if text.isEmpty then follow setup startedAt line s.cancel
      else
        let m := (MachineStream.machine s).hear ⟨text, false⟩
        follow setup startedAt (← nextLine) (MachineStream.setMachine m s)

/-- Streams what Docker tells on standard input: its answer to a listing on the first line, and what
comes on its feed on the others. The end of the input is the signal to stop. -/
def stream (s : Settings) : IO (Except StreamFault Unit) := do
  let services := ServiceNames.ofText (← textOf s.servicesFile)
  let setup := Machine.setup s "x86_64" services
  let listing ← (← IO.getStdin).getLine
  let daemon : DockerDaemon := ⟨.list [], [], some ⟨200, listing⟩, none, ⟨"", false⟩, []⟩
  let startedAt ← IO.monoNanosNow
  let m := Machine.start daemon { Kernel.empty with tcMissing := true }
  follow setup startedAt (← nextLine) (MachineStream.begin setup m (← calendarTime))

/-- Tells why there is nothing to stream, or no more. -/
def report (found : Premises) (fault : RunFault) : IO UInt32 := do
  for line in Program.lines found fault do IO.println line
  match fault.message? with
  | some message => IO.eprintln ("Error: " ++ message)
  | none => if fault.exitCode ≠ 0 then IO.eprintln "error: unusable arguments\n\nFor more information, try '--help'."
  return fault.exitCode.toUInt32

end Console

end LabStream

open LabStream in
def main (args : List String) : IO UInt32 := do
  let found ← Console.premises args
  match Program.prepare found args with
  | .error fault => Console.report found fault
  | .ok s =>
    match ← Console.stream s with
    | .ok () => return 0
    | .error fault => Console.report found (.stream fault)
