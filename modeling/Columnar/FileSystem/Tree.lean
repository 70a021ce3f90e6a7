import Columnar.FileSystem.Path

set_option autoImplicit false

namespace Columnar

inductive FileNode where
  | file (id : Nat)
  | directory (entries : List (Path × FileNode))
  | link (target : Path)
deriving Inhabited

def FileNode.entries : FileNode → List (Path × FileNode)
  | .directory entries => entries
  | _ => []

def FileNode.isDirectory : FileNode → Bool
  | .directory _ => true
  | _ => false

def FileNode.child? (node : FileNode) (name : Path) : Option FileNode :=
  node.entries.lookup name

def FileNode.below? : FileNode → List Path → Option FileNode
  | node, [] => some node
  | node, name :: rest =>
    match node.child? name with
    | none => none
    | some child => child.below? rest

def changeEntry (name : Path) (change : Option FileNode → Option FileNode) :
    List (Path × FileNode) → List (Path × FileNode)
  | [] => ((change none).map fun node => (name, node)).toList
  | (other, node) :: rest =>
    if other = name then ((change (some node)).map fun node => (name, node)).toList ++ rest
    else (other, node) :: changeEntry name change rest

-- The tree with the node at a place changed; directories above it that are missing are made.
def FileNode.change (change : Option FileNode → Option FileNode) :
    List Path → Option FileNode → Option FileNode
  | [], node => change node
  | name :: rest, node =>
    some (.directory
      (changeEntry name (FileNode.change change rest) ((node.map FileNode.entries).getD [])))

end Columnar
