import Columnar.Text.Pieces
import Columnar.TypeTree

set_option autoImplicit false

namespace Columnar

def labelled : List String → List (List Char) → List (List Char)
  | name :: names, text :: rest => (name.toList ++ ':' :: text) :: labelled names rest
  | _, texts => texts

def TypeNode.typeChars (node : TypeNode) (children : List (List Char)) : List Char :=
  if node.kind.isCompound then
    node.kind.word.toList ++ '<' :: Text.join [','] (labelled node.fieldNames children) ++ ['>']
  else node.kind.word.toList

namespace TypeTree

-- The type string below an id; nothing if a child is missing or the nodes go in a circle. A path
-- without repetition is no longer than the tree, which is what `fuel` counts.
def typeChars? (tree : TypeTree) : Nat → UInt32 → Option (List Char)
  | 0, _ => none
  | fuel + 1, id => do
    let node ← tree.get? id
    if node.kind.isCompound then
      let children ← node.children.mapM (tree.typeChars? fuel)
      return node.typeChars children
    else return node.typeChars []

def text? (tree : TypeTree) : Option String :=
  if tree.nodes.isEmpty then some "struct<>"
  else (tree.typeChars? tree.nodes.length 0).map String.ofList

def text (tree : TypeTree) : String := tree.text?.getD ""

end TypeTree

end Columnar
