import Columnar.TypeTree

set_option autoImplicit false

namespace Columnar

namespace TypeNode

mutual

def flatten (next : Nat) : DataType → List TypeNode
  | .list item =>
    ⟨UInt32.ofNat next, .list, [UInt32.ofNat (next + 1)], []⟩ :: flatten (next + 1) item
  | .map key value =>
    let keys := flatten (next + 1) key
    let behind := next + 1 + keys.length
    ⟨UInt32.ofNat next, .map, [UInt32.ofNat (next + 1), UInt32.ofNat behind], []⟩
      :: (keys ++ flatten behind value)
  | .struct fields =>
    let (children, nodes) := flattenFields (next + 1) fields
    ⟨UInt32.ofNat next, .struct, children, fields.map (·.1)⟩ :: nodes
  | scalar => [⟨UInt32.ofNat next, scalar.kind, [], []⟩]

def flattenFields (next : Nat) : List (String × DataType) → List UInt32 × List TypeNode
  | [] => ([], [])
  | (_, type) :: rest =>
    let nodes := flatten next type
    let (children, more) := flattenFields (next + nodes.length) rest
    (UInt32.ofNat next :: children, nodes ++ more)

end

end TypeNode

def TypeTree.ofFields (fields : List Field) : TypeTree := ⟨TypeNode.flatten 0 (.struct fields)⟩

end Columnar
