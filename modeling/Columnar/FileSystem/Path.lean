import Columnar.Text.Pieces
import Columnar.Text.Utf8

set_option autoImplicit false

namespace Columnar

-- A path, or one of its names. To the system it is bytes, which need not spell a text.
structure Path where
  bytes : Bytes
deriving DecidableEq, Repr, Inhabited

namespace Path

def ofText (text : String) : Path := ⟨Bytes.ofText text⟩

instance : Coe String Path := ⟨ofText⟩

instance : Append Path := ⟨fun front behind => ⟨front.bytes ++ behind.bytes⟩⟩

def text (path : Path) : String := Utf8.lossy path.bytes

def length (path : Path) : Nat := path.bytes.length

def slash : UInt8 := 0x2F

-- The names between the slashes of a path. An empty name, which a repeated or trailing slash
-- makes, stands for the directory itself, as a point does.
def names (path : Path) : List Path := (Text.pieces slash path.bytes).map mk

def isAbsolute (path : Path) : Bool := path.bytes.head? == some slash

def staysHere (name : Path) : Bool := name == "" || name == "."

def nameLimit : Nat := 255

def lengthLimit : Nat := 4096

def bare (names : List Path) : List Path :=
  match (names.reverse.dropWhile staysHere).reverse with
  | [] => names.take 1
  | kept => kept

def ofNames (names : List Path) : Path := ⟨[slash].intercalate (names.map bytes)⟩

def above? (path : Path) : Option Path :=
  match (bare (names path)).reverse with
  | [] => none
  | last :: [] => if last = "" then none else some ""
  | _ :: higher =>
    let left := bare higher.reverse
    if left = [("" : Path)] then some "/" else some (ofNames left)

def withAbove : Nat → Path → List Path
  | 0, _ => []
  | fuel + 1, path =>
    match above? path with
    | none => []
    | some higher => path :: withAbove fuel higher

def join (directory name : Path) : Path :=
  if directory = "" ∨ directory.bytes.getLast? = some slash then directory ++ name
  else directory ++ "/" ++ name

inductive Component where
  | root
  | here
  | parent
  | name (bytes : Bytes)
deriving DecidableEq, Repr

def Component.ofName? (name : Path) : Option Component :=
  if staysHere name then none
  else if name = ".." then some .parent
  else some (.name name.bytes)

def components (path : Path) : List Component :=
  let parts := names path
  let start := if isAbsolute path then [.root] else if parts.head? = some "." then [.here] else []
  start ++ parts.filterMap Component.ofName?

def Component.place : Component → Nat
  | .root => 0
  | .here => 1
  | .parent => 2
  | .name _ => 3

def bytesUpTo : Bytes → Bytes → Bool
  | [], _ => true
  | _ :: _, [] => false
  | a :: restA, b :: restB => a < b || (a == b && bytesUpTo restA restB)

def Component.upTo : Component → Component → Bool
  | .name a, .name b => bytesUpTo a b
  | a, b => a.place ≤ b.place

def componentsUpTo : List Component → List Component → Bool
  | [], _ => true
  | _ :: _, [] => false
  | a :: restA, b :: restB => if a = b then componentsUpTo restA restB else a.upTo b

def upTo (a b : Path) : Bool := componentsUpTo (components a) (components b)

end Path

end Columnar
