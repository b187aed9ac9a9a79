import LabStream.TrafficScope

namespace LabStream

inductive ProcNode where
  | file (inode : Nat)
  | symlink (target : String)
  | directory
  deriving DecidableEq

/-- A directory tree, by the paths in it; the directories above a path are there too. -/
abbrev ProcTree := List (List String × ProcNode)

namespace ProcTree

def pathParts (path : String) : List String :=
  ((path.toList.splitOn '/').map String.ofList).filter (!·.isEmpty)

def node? (tree : ProcTree) (path : List String) : Option ProcNode :=
  match tree.find? (·.1 = path) with
  | some (_, node) => some node
  | none => if tree.any (fun (p, _) => path.isPrefixOf p) || path.isEmpty then some .directory else none

/-- Follows a path from the directory `base`; links are replaced by what they lead to. -/
def resolve (tree : ProcTree) : Nat → List String → List String → Option (List String)
  | _, base, [] => some base
  | 0, _, _ => none
  | fuel + 1, base, part :: rest =>
    if part = "." then resolve tree fuel base rest
    else if part = ".." then resolve tree fuel base.dropLast rest
    else match tree.node? (base ++ [part]) with
      | none => none
      | some (.symlink target) =>
        if target.startsWith "/" then none else resolve tree fuel base (pathParts target ++ rest)
      | some (.file _) => if rest.isEmpty then some (base ++ [part]) else none
      | some .directory => resolve tree fuel (base ++ [part]) rest

def follow (tree : ProcTree) (path : String) : Option (List String) :=
  tree.resolve 256 [] (pathParts path)

def inode (tree : ProcTree) (path : String) : Option Nat := do
  let found ← tree.follow path
  match ← tree.node? found with
  | .file inode => some inode
  | _ =>
    let files := tree.map fun (_, node) => match node with
      | .file inode => inode + 1
      | _ => 0
    some (files.foldl max 0 + (tree.findIdx (fun (p, _) => found.isPrefixOf p)))

def entries (tree : ProcTree) (path : String) : List (String × Bool) :=
  match tree.follow path with
  | none => []
  | some found =>
    if tree.node? found ≠ some .directory then []
    else
      let names := tree.filterMap fun (p, _) =>
        if found.isPrefixOf p then (p.drop found.length).head? else none
      names.eraseDups.map fun name => (name, tree.node? (found ++ [name]) = some .directory)

def view (tree : ProcTree) : ProcView := ⟨tree.inode, tree.entries⟩

end ProcTree

end LabStream
