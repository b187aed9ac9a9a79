import LabStream.Numeral
import LabStream.Settings

namespace LabStream

/-- Why a command line is not run. Asking for help or for the version is among the reasons. -/
inductive UsageFault where
  | unknownArgument
  | missingValue
  | repeated
  | notANumber
  | uselessValue
  | help
  | version
  deriving DecidableEq

inductive Opt where
  | config
  | format
  | runtime
  | initialState
  | interfaceStats
  | statsInterval
  | traffic
  | trafficInterval
  | help
  | version
  deriving DecidableEq

namespace Opt

def all : List Opt :=
  [config, format, runtime, initialState, interfaceStats, statsInterval, traffic, trafficInterval,
   help, version]

def longName : Opt → String
  | config => "config"
  | format => "format"
  | runtime => "runtime"
  | initialState => "initial-state"
  | interfaceStats => "interface-stats"
  | statsInterval => "stats-interval"
  | traffic => "traffic"
  | trafficInterval => "traffic-interval"
  | help => "help"
  | version => "version"

def ofLong? (name : String) : Option Opt := all.find? (·.longName = name)

def ofShort? : Char → Option Opt
  | 'f' => some format
  | 'h' => some help
  | 'V' => some version
  | _ => none

def takesValue : Opt → Bool
  | config | format | runtime | statsInterval | trafficInterval => true
  | _ => false

def isNumber : Opt → Bool
  | statsInterval | trafficInterval => true
  | _ => false

end Opt

/-- The options that a command line sets, each with its value; a flag has an empty one. -/
abbrev CommandLine := List (Opt × String)

namespace CommandLine

/-- A command line being read: the options set so far, and an option that still waits to be set,
with its value once that has come. -/
structure Progress where
  done : CommandLine
  pending : Option (Opt × Option String)
  awaitsValue : Bool
  optionsEnded : Bool

/-- Sets an option. It may be set once, and a number has to be one. -/
def set (opt : Opt) (value : String) (done : CommandLine) : Except UsageFault CommandLine :=
  if done.any (·.1 = opt) then .error .repeated
  else if opt.isNumber ∧ (readNatural (twoTo 64 - 1) value.toList).isNone then .error .notANumber
  else .ok (done ++ [(opt, value)])

def settle (p : Progress) : Except UsageFault Progress :=
  match p.pending with
  | none => .ok p
  | some (_, none) => .error .missingValue
  | some (opt, some value) => do return { p with done := ← set opt value p.done, pending := none }

/-- Meets an option, with a value if one is joined to it. -/
def meet (opt : Opt) (joined : Option String) (p : Progress) : Except UsageFault Progress :=
  if opt.takesValue then do
    let p ← settle p
    match joined with
    | some value => return { p with done := ← set opt value p.done, awaitsValue := false }
    | none => return { p with pending := some (opt, none), awaitsValue := true }
  else if joined.isSome then .error .uselessValue
  else do
    let p ← settle p
    match opt with
    | .help => .error .help
    | .version => .error .version
    | _ => return { p with done := ← set opt "" p.done, awaitsValue := false }

/-- Reads a group of one-letter options; the rest of the group is the value of one that takes one. -/
def meetShort (p : Progress) : List Char → Except UsageFault Progress
  | [] => .ok p
  | c :: rest =>
    match Opt.ofShort? c with
    | none => .error .unknownArgument
    | some opt =>
      if opt.takesValue then
        let value := match rest with
          | '=' :: more => some (String.ofList more)
          | [] => none
          | _ => some (String.ofList rest)
        meet opt value p
      else do meetShort (← meet opt none p) rest

/-- Reads one argument. A value that waits to be set is never looked at when the argument is not
known. -/
def step (p : Progress) (arg : String) : Except UsageFault Progress :=
  if p.optionsEnded then .error .unknownArgument
  else match arg.toList with
    | ['-', '-'] => .ok { p with optionsEnded := true }
    | '-' :: '-' :: cs =>
      let name := String.ofList (cs.takeWhile (· ≠ '='))
      let joined := match cs.dropWhile (· ≠ '=') with
        | [] => none
        | _ :: value => some (String.ofList value)
      match Opt.ofLong? name with
      | some opt => meet opt joined p
      | none => .error .unknownArgument
    | '-' :: c :: cs => meetShort p (c :: cs)
    | _ =>
      match p.pending with
      | some (opt, none) =>
        if p.awaitsValue then .ok { p with pending := some (opt, some arg), awaitsValue := false }
        else .error .unknownArgument
      | _ => .error .unknownArgument

def parse (args : List String) : Except UsageFault CommandLine := do
  let p ← args.foldlM step ⟨[], none, false, false⟩
  return (← settle p).done

def value? (line : CommandLine) (opt : Opt) : Option String := (line.find? (·.1 = opt)).map (·.2)

def number? (line : CommandLine) (opt : Opt) : Option Nat :=
  (line.value? opt).bind fun value => readNatural (twoTo 64 - 1) value.toList

def isSet (line : CommandLine) (opt : Opt) : Bool := (line.value? opt).isSome

/-- Settings with those of the command line over them; a flag only switches on. -/
def apply (line : CommandLine) (s : Settings) : Settings :=
  { s with
    format := (line.value? .format).getD s.format
    runtime := (line.value? .runtime).getD s.runtime
    initialState := s.initialState || line.isSet .initialState
    interfaceStats := s.interfaceStats || line.isSet .interfaceStats
    statsMillis := (line.number? .statsInterval).getD s.statsMillis
    traffic := s.traffic || line.isSet .traffic
    trafficMillis := (line.number? .trafficInterval).getD s.trafficMillis }

def settings (line : CommandLine) (file : Except SettingsFault Settings) :
    Except SettingsFault Settings := do
  (line.apply (← file)).validate

end CommandLine

end LabStream
