import Columnar.FileSystem.Content
import Columnar.FileSystem.Tree

/-!
File systems: a directory tree with links, and the contents of its files. A file keeps its number
when it is written, so whoever opened it sees the new content; a file made anew gets a new number.
-/

set_option autoImplicit false

namespace Columnar

structure FileSystem where
  root : FileNode
  home : List Path
  contents : Array Content

inductive Place where
  | found (place : List Path) (node : FileNode)
  | absent (directory : List Path) (name : Path)

inductive LastName where
  | target
  -- The link itself, unless slashes are behind the name.
  | itself
  -- A file, there or not: no slashes may be behind the name.
  | file
deriving DecidableEq

structure LastEntry where
  directory : List Path
  -- A path that ends in a point or two, or in nothing but slashes, names no entry.
  name : Option Path
  slashes : Bool
  node : Option FileNode

inductive Handle where
  | file (id : Nat)
  | directory
deriving DecidableEq, Repr

namespace FileSystem

def empty : FileSystem := ⟨.directory [], [], #[]⟩

-- Follows names from a node on, through at most `links` links; `trail` holds the names that lead
-- to the node, the last of them first.
def walk (files : FileSystem) (wanted : LastName) (links : Nat) (trail : List Path)
    (node : FileNode) (names : List Path) : Except IoFault Place :=
  match names with
  | [] => .ok (.found trail.reverse node)
  | name :: rest =>
    match node with
    | .directory entries =>
      if Path.staysHere name then walk files wanted links trail node rest
      else if name = ".." then
        match files.root.below? trail.tail.reverse with
        | none => .error .notFound
        | some parent => walk files wanted links trail.tail parent rest
      else if wanted = .file ∧ ¬ rest.isEmpty ∧ rest.all (· == "") then .error .isADirectory
      else if Path.nameLimit < name.length then .error .nameTooLong
      else
        match entries.lookup name with
        | none => if rest.isEmpty then .ok (.absent trail.reverse name) else .error .notFound
        | some (.link target) =>
          if rest.isEmpty ∧ wanted = .itself then
            .ok (.found (name :: trail).reverse (.link target))
          else
            match links with
            | 0 => .error .tooManyLinks
            | more + 1 =>
              let onward := Path.names target ++ rest
              if Path.isAbsolute target then walk files wanted more [] files.root onward
              else walk files wanted more trail node onward
        | some child => walk files wanted links (name :: trail) child rest
    | _ => .error .notADirectory
termination_by (links, names.length)

def linkLimit : Nat := 40

def pathFault? (path : Path) : Option IoFault :=
  if path.bytes.contains 0 then some .nulInPath
  else if path = "" then some .notFound
  else if Path.lengthLimit ≤ path.length then some .nameTooLong
  else none

def startOf (files : FileSystem) (path : Path) : List Path :=
  if Path.isAbsolute path then [] else files.home

def walkFrom (files : FileSystem) (wanted : LastName) (place names : List Path) :
    Except IoFault Place :=
  match files.root.below? place with
  | none => .error .notFound
  | some node => files.walk wanted linkLimit place.reverse node names

def locate (files : FileSystem) (path : Path) (wanted : LastName) : Except IoFault Place :=
  match pathFault? path with
  | some fault => .error fault
  | none => files.walkFrom wanted (files.startOf path) (Path.names path)

def node (files : FileSystem) (path : Path) (wanted : LastName) : Except IoFault FileNode :=
  match files.locate path wanted with
  | .error fault => .error fault
  | .ok (.absent _ _) => .error .notFound
  | .ok (.found _ node) => .ok node

def lastEntry (files : FileSystem) (path : Path) : Except IoFault LastEntry :=
  match pathFault? path with
  | some fault => .error fault
  | none =>
    let reversed := (Path.names path).reverse
    match reversed.dropWhile (· == ("" : Path)) with
    | [] => .ok ⟨files.startOf path, none, true, none⟩
    | last :: above =>
      match files.walkFrom .target (files.startOf path) (above.reverse ++ [("" : Path)]) with
      | .error fault => .error fault
      | .ok (.absent _ _) => .error .notFound
      | .ok (.found directory node) =>
        let slashes := reversed.head? == some ("" : Path)
        if last = "." ∨ last = ".." then .ok ⟨directory, none, slashes, none⟩
        else if Path.nameLimit < last.length then .error .nameTooLong
        else .ok ⟨directory, some last, slashes, node.child? last⟩

def openPath (files : FileSystem) (path : Path) : Except IoFault Handle :=
  match files.node path .target with
  | .error fault => .error fault
  | .ok (.file id) => .ok (.file id)
  | .ok _ => .ok .directory

def view (files : FileSystem) : Handle → OpenFile
  | .file id => .regular (files.contents.getD id .empty)
  | .directory => .directory

def openFile (files : FileSystem) (path : Path) : Except IoFault OpenFile :=
  (files.openPath path).map files.view

def length (files : FileSystem) (path : Path) : Except IoFault Nat :=
  (files.openFile path).map OpenFile.length

def exists? (files : FileSystem) (path : Path) : Bool := (files.node path .target).isOk

def isDirectory (files : FileSystem) (path : Path) : Bool :=
  match files.node path .target with
  | .ok node => node.isDirectory
  | .error _ => false

def put (files : FileSystem) (id : Nat) (content : Content) : FileSystem :=
  if id < files.contents.size then
    { files with contents := files.contents.setIfInBounds id content }
  else
    let missing := Array.replicate (id - files.contents.size) Content.empty
    { files with contents := (files.contents ++ missing).push content }

def changeAt (files : FileSystem) (place : List Path)
    (change : Option FileNode → Option FileNode) : FileSystem :=
  { files with root := (FileNode.change change place (some files.root)).getD (.directory []) }

def addFile (files : FileSystem) (directory : List Path) (name : Path) : Nat × FileSystem :=
  let id := files.contents.size
  let grown := { files with contents := files.contents.push .empty }
  (id, grown.changeAt (directory ++ [name]) fun _ => some (.file id))

def openForWriting (files : FileSystem) (path : Path) : Except IoFault (Nat × FileSystem) :=
  match files.locate path .file with
  | .error fault => .error fault
  | .ok (.found _ (.file id)) => .ok (id, files)
  | .ok (.found _ _) => .error .isADirectory
  | .ok (.absent directory name) => .ok (files.addFile directory name)

def create (files : FileSystem) (path : Path) : Except IoFault (Nat × FileSystem) :=
  (files.openForWriting path).map fun (id, opened) => (id, opened.put id .empty)

def change (files : FileSystem) (id : Nat) (edit : Content → Content) : FileSystem :=
  files.put id (edit (files.contents.getD id .empty))

def writeAt (files : FileSystem) (id offset : Nat) (bytes : Bytes) : FileSystem :=
  files.change id fun content => content.overwrite offset bytes

def writeFile (files : FileSystem) (path : Path) (bytes : Bytes) : Except IoFault FileSystem :=
  (files.openForWriting path).map fun (id, opened) => opened.put id (.ofBytes bytes)

def setLength (files : FileSystem) (path : Path) (length : Nat) : Except IoFault FileSystem :=
  (files.openForWriting path).map fun (id, opened) =>
    opened.change id fun content => content.resize length

def patch (files : FileSystem) (path : Path) (offset : Int) (bytes : Bytes) :
    Except IoFault FileSystem :=
  match files.openPath path with
  | .error fault => .error fault
  | .ok .directory => .error .isADirectory
  | .ok (.file id) =>
    let length := (files.contents.getD id .empty).length
    match if offset < 0 then offset + length else offset with
    | .negSucc _ => .error .invalidArgument
    | .ofNat start => .ok (files.writeAt id start bytes)

def makeDirectory (files : FileSystem) (path : Path) : Except IoFault FileSystem :=
  match files.lastEntry path with
  | .error fault => .error fault
  | .ok ⟨directory, some name, _, none⟩ =>
    .ok (files.changeAt (directory ++ [name]) fun _ => some (.directory []))
  | .ok _ => .error .alreadyExists

-- Makes the first directory of a list whose parent is there, or finds that it is there already.
-- The paths in front of it are left to make, the last of them first.
def makeFirst (files : FileSystem) :
    List Path → List Path → Except IoFault (FileSystem × List Path)
  | [], missing => .ok (files, missing)
  | path :: rest, missing =>
    match files.makeDirectory path with
    | .ok made => .ok (made, missing)
    | .error .notFound => makeFirst files rest (path :: missing)
    | .error fault =>
      if fault = .alreadyExists ∧ files.isDirectory path then .ok (files, missing)
      else .error fault

def makeEach (files : FileSystem) : List Path → Except IoFault Unit × FileSystem
  | [] => (.ok (), files)
  | path :: rest =>
    match files.makeDirectory path with
    | .ok made => makeEach made rest
    | .error fault =>
      if fault = .alreadyExists ∧ files.isDirectory path then makeEach files rest
      else (.error fault, files)

def makeDirectories (files : FileSystem) (path : Path) : Except IoFault Unit × FileSystem :=
  match files.makeFirst (Path.withAbove (path.length + 1) path) [] with
  | .error fault => (.error fault, files)
  | .ok (made, missing) => made.makeEach missing

def addLink (files : FileSystem) (target path : Path) : Except IoFault FileSystem :=
  match pathFault? target with
  | some fault => .error fault
  | none =>
    match files.lastEntry path with
    | .error fault => .error fault
    | .ok ⟨directory, some name, slashes, none⟩ =>
      if slashes then .error .notFound
      else .ok (files.changeAt (directory ++ [name]) fun _ => some (.link target))
    | .ok _ => .error .alreadyExists

def remove (files : FileSystem) (path : Path) : Except IoFault FileSystem :=
  match files.lastEntry path with
  | .error fault => .error fault
  | .ok ⟨_, none, _, _⟩ => .error .isADirectory
  | .ok ⟨_, some _, _, none⟩ => .error .notFound
  | .ok ⟨directory, some name, slashes, some node⟩ =>
    if node.isDirectory then .error .isADirectory
    else if slashes then .error .notADirectory
    else .ok (files.changeAt (directory ++ [name]) fun _ => none)

end FileSystem

end Columnar
