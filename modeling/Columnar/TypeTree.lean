import Columnar.Failure

/-!
Type trees: a schema flattened into nodes. The root is node 0 and its children are the top-level
columns; in a valid tree the ids count up from 0 and every child comes after its parent.
-/

set_option autoImplicit false

namespace Columnar

structure TypeNode where
  id : UInt32
  kind : TypeKind
  children : List UInt32
  fieldNames : List String
deriving DecidableEq, Repr, Inhabited

structure TypeTree where
  nodes : List TypeNode
deriving DecidableEq, Repr, Inhabited

namespace TypeTree

def get? (tree : TypeTree) (id : UInt32) : Option TypeNode := tree.nodes[id.toNat]?

def root? (tree : TypeTree) : Option TypeNode := tree.nodes.head?

def columns? (tree : TypeTree) : Option (List UInt32) := tree.root?.map (·.children)

def columns (tree : TypeTree) : List UInt32 := tree.columns?.getD []

def columnNames (tree : TypeTree) : List String := (tree.root?.map (·.fieldNames)).getD []

end TypeTree

def TypeNode.arityFits (node : TypeNode) : Bool :=
  match node.kind with
  | .list => node.children.length == 1
  | .map => node.children.length == 2
  | .struct => node.children.length == node.fieldNames.length
  | _ => node.children.isEmpty

def TypeNode.childFits (node : TypeNode) (count : Nat) (child : UInt32) : Bool :=
  child.toNat < count && node.id < child

def TypeNode.fault? (node : TypeNode) (count index : Nat) : Option FormatFault :=
  if node.id.toNat ≠ index then some (.nodeId index node.id.toNat)
  else
    match node.children.find? fun child => !node.childFits count child with
    | some child => some (.childOutOfRange index child.toNat)
    | none =>
      if node.arityFits then none
      else some (.childCount index node.kind node.children.length)

namespace TypeTree

def firstFault? (count : Nat) : Nat → List TypeNode → Option FormatFault
  | _, [] => none
  | index, node :: rest => (node.fault? count index).or (firstFault? count (index + 1) rest)

def check (tree : TypeTree) : Except FormatFault Unit :=
  match tree.root? with
  | none => .error .emptyTree
  | some root =>
    if root.kind ≠ .struct then .error (.rootKind root.kind)
    else
      match firstFault? tree.nodes.length 0 tree.nodes with
      | some fault => .error fault
      | none => .ok ()

def Valid (tree : TypeTree) : Prop := tree.check = .ok ()

def ofNodes (nodes : List TypeNode) : Except Failure TypeTree :=
  match check ⟨nodes⟩ with
  | .error fault => .error (.format fault)
  | .ok () => .ok ⟨nodes⟩

end TypeTree

end Columnar
