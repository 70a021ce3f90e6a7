import Columnar.FileSystem

set_option autoImplicit false

namespace Columnar.Listing

-- Only a name that is a text can be hidden.
def isHidden (name : Path) : Bool :=
  match Bytes.toText? name.bytes with
  | none => false
  | some text =>
    match text.toList.head? with
    | some first => first == '.' || first == '_'
    | none => false

mutual

-- The files at and below a node. Links are not followed. A directory is read by its path, and a path
-- can be too long for that.
def filesAt (path : Path) : FileNode → Except IoFault (List Path)
  | .file _ => .ok [path]
  | .directory entries =>
    if Path.lengthLimit ≤ path.length then .error (.walking path .nameTooLong)
    else filesIn path entries
  | .link _ => .ok []

def filesIn (path : Path) : List (Path × FileNode) → Except IoFault (List Path)
  | [] => .ok []
  | (name, node) :: rest =>
    if isHidden name then filesIn path rest
    else
      match filesAt (Path.join path name) node with
      | .error fault => .error fault
      | .ok found => (filesIn path rest).map (found ++ ·)

end

-- The files of one root. A root that is a link is followed to a directory, but not to a file.
def filesOfRoot (files : FileSystem) (root : Path) : Except Failure (List Path) :=
  match files.node root .itself with
  | .error fault => .error (.io (.walking root fault))
  | .ok (.link _) =>
    match files.node root .target with
    | .error fault => .error (.io (.walking root fault))
    | .ok (.directory entries) => (filesIn root entries).mapError .io
    | .ok _ => .ok []
  | .ok node => (filesAt root node).mapError .io

def filesOfRoots (files : FileSystem) : List Path → Except Failure (List Path)
  | [] => .ok []
  | root :: rest =>
    match filesOfRoot files root with
    | .error failure => .error failure
    | .ok found => (filesOfRoots files rest).map (found ++ ·)

-- The files of the roots in the order of their paths; a file under two roots comes twice.
def list (files : FileSystem) (roots : List Path) : Except Failure (List Path) :=
  (filesOfRoots files roots).map fun found => found.mergeSort Path.upTo

end Columnar.Listing
