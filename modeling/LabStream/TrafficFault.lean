import LabStream.Errno
import LabStream.Quoted

namespace LabStream

inductive ProgramFault where
  | wrongType
  | rejected (log : String)
  deriving DecidableEq

def ProgramFault.message : ProgramFault → String
  | wrongType => "unexpected program type"
  | rejected log => "the BPF_PROG_LOAD syscall failed. Verifier output: " ++ log

inductive MapFault where
  | wrongType (type : Nat)
  | wrongKey (size expected : Nat)
  | wrongValue (size expected : Nat)
  | nextKey
  | lookup
  deriving DecidableEq

def MapFault.message : MapFault → String
  | wrongType type => "invalid map type " ++ toString type
  | wrongKey size expected => "invalid key size " ++ toString size ++ ", expected " ++ toString expected
  | wrongValue size expected =>
    "invalid value size " ++ toString size ++ ", expected " ++ toString expected
  | nextKey => "\x60bpf_map_get_next_key\x60 failed"
  | lookup => "\x60bpf_map_lookup_elem\x60 failed"

inductive TrafficFault where
  | missingTc
  | mountFailed (path : String) (errno : Nat)
  | file (path detail : String)
  | namespace (detail : String)
  | unsupportedArch (name : String)
  | unloadable (scope : String)
  | missingObject (name : String)
  | program (name : String) (fault : ProgramFault)
  | map (fault : MapFault)
  | pin (path : String)
  | command (line detail : String)
  | interfaces (scope detail : String)
  | noScopes
  deriving DecidableEq

def TrafficFault.message : TrafficFault → String
  | .missingTc => "traffic monitoring requires \"tc\" in PATH: cannot find binary path"
  | .mountFailed path errno => "mount bpffs on " ++ path ++ ": " ++ Errno.named errno
  | .file path detail => path ++ ": " ++ detail
  | .namespace detail => "namespace: " ++ detail
  | .unsupportedArch name => "unsupported architecture " ++ quoted name ++ " for traffic eBPF object"
  | .unloadable scope => "load traffic eBPF object for scope " ++ quoted scope
  | .missingObject name => "traffic eBPF object is missing " ++ quoted name
  | .program name fault => "eBPF program " ++ name ++ ": " ++ fault.message
  | .map fault => "eBPF map: " ++ fault.message
  | .pin path => "pin " ++ path ++ ": \x60BPF_OBJ_PIN\x60 failed"
  | .command line detail => line ++ " failed: " ++ detail
  | .interfaces scope detail => "list interfaces in scope " ++ quoted scope ++ ": " ++ detail
  | .noScopes => "no traffic monitoring scopes were discovered"

end LabStream
