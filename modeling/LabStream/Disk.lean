import LabStream.Errno
import LabStream.ProcTree

namespace LabStream

/-- One thing on a disk; every directory on the way to it is there too. -/
structure DiskEntry where
  path : List String
  isDirectory : Bool
  deriving DecidableEq

abbrev Disk := List DiskEntry

namespace Disk

def parts (path : String) : List String := ProcTree.pathParts path

/-- What is at a path: nothing, a file or a directory. -/
def kind? (disk : Disk) (path : List String) : Option Bool :=
  match disk.find? (·.path = path) with
  | some entry => some entry.isDirectory
  | none =>
    if path.isEmpty || disk.any (fun entry => path.isPrefixOf entry.path) then some true else none

def isDirectory (disk : Disk) (path : List String) : Bool := disk.kind? path = some true

def isFile (disk : Disk) (path : List String) : Bool := disk.kind? path = some false

/-- The longest name of a file or a directory, in bytes. -/
def nameLimit : Nat := 255

/-- Whether the last name of a path is too long. -/
def isTooLong (path : List String) : Bool := nameLimit < (path.getLastD "").utf8ByteSize

/-- Why nothing is found at a path, if that is so. The first name on the way that is wrong decides. -/
def pathFault? (disk : Disk) (path : List String) : Option Nat :=
  (List.range path.length).findSome? fun n =>
    if disk.isFile (path.take n) then some Errno.notDirectory
    else if isTooLong (path.take (n + 1)) then some Errno.nameTooLong
    else if (disk.kind? (path.take (n + 1))).isNone then some Errno.noEntry
    else none

/-- The longest path that may be asked for, in bytes. -/
def pathLimit : Nat := 4095

/-- Why nothing can be opened under a path as it is written. A slash at its end asks for a directory. -/
def openFault? (disk : Disk) (path : String) : Option Nat :=
  if path.isEmpty then some Errno.noEntry
  else if pathLimit < path.utf8ByteSize then some Errno.nameTooLong
  else match disk.pathFault? (parts path) with
    | some errno => some errno
    | none => if path.endsWith "/" && disk.isFile (parts path) then some Errno.notDirectory else none

def add (disk : Disk) (path : List String) (isDirectory : Bool) : Disk :=
  disk ++ [⟨path, isDirectory⟩]

/-- Makes a directory in one that is there; what is there already stays. -/
def makeOne (disk : Disk) (path : List String) (fileFault : Nat) : Disk × Except Nat Unit :=
  if isTooLong path then (disk, .error Errno.nameTooLong)
  else match disk.kind? path with
    | some true => (disk, .ok ())
    | some false => (disk, .error fileFault)
    | none => (disk.add path true, .ok ())

/-- Makes a directory and those on the way to it, as far as that goes. -/
def makeDirectory (disk : Disk) (path : List String) : Disk × Except Nat Unit :=
  (List.range path.length).foldl (fun (disk, result) n =>
    match result with
    | .error errno => (disk, .error errno)
    | .ok () =>
      let isLast := n + 1 = path.length
      disk.makeOne (path.take (n + 1)) (if isLast then Errno.alreadyExists else Errno.notDirectory))
    (disk, .ok ())

/-- Makes an empty file, in a directory that is there already. -/
def makeFile (disk : Disk) (path : List String) : Option Disk :=
  if disk.isDirectory path.dropLast && (disk.kind? path).isNone then some (disk.add path false) else none

def keepParent (disk : Disk) (path : List String) : Disk :=
  if path.isEmpty || disk.contains ⟨path.dropLast, true⟩ then disk else disk.add path.dropLast true

/-- Removes a file; anything else stays. -/
def removeFile (disk : Disk) (path : List String) : Disk :=
  if disk.isFile path then (disk.keepParent path).filter (·.path ≠ path) else disk

/-- Removes a directory with all that is in it; a file stays. -/
def removeTree (disk : Disk) (path : List String) : Disk :=
  if disk.isDirectory path then (disk.keepParent path).filter fun entry => !path.isPrefixOf entry.path
  else disk

/-- The paths below a directory, each without the directory itself. -/
def below (disk : Disk) (path : List String) : List (List String) :=
  disk.flatMap fun entry =>
    if path.isPrefixOf entry.path then
      let rest := entry.path.drop path.length
      (List.range rest.length).map fun n => rest.take (n + 1)
    else []

/-- Paths below a directory in order; a directory comes before what is in it. -/
def listing (disk : Disk) (path : List String) : List String :=
  (((disk.below path).eraseDups).mergeSort fun a b => (compare a b).isLE).map ("/".intercalate ·)

end Disk

end LabStream
