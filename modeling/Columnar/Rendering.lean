import Columnar.Row
import Columnar.TypeTree
import Columnar.Value.Text

set_option autoImplicit false

namespace Columnar

namespace TypeNode

def firstChild? (node : TypeNode) : Option UInt32 := node.children[0]?

def secondChild? (node : TypeNode) : Option UInt32 := node.children[1]?

end TypeNode

namespace Rendering

def enclosed (opening closing : Char) (texts : List (List Char)) : List Char :=
  opening :: Text.join [','] texts ++ [closing]

mutual

-- The text of a value that is declared as the node at an id; a value of another kind stands as its
-- explicit text. Nothing if the node lacks a child that the text needs.
def cell? (types : TypeTree) (id : UInt32) (value : Value) : Option (List Char) :=
  match types.get? id with
  | none => some []
  | some node =>
    match value with
    | .null => some "NULL".toList
    | .boolean flag => some (Value.flagText flag)
    | .byte number => some (Text.decimalInt number.toInt)
    | .short number => some (Text.decimalInt number.toInt)
    | .int number => some (Text.decimalInt number.toInt)
    | .long number => some (Text.decimalInt number.toInt)
    | .float number => some number.plainText
    | .double number => some number.plainText
    | .string text => some (Text.quoted text.toList)
    | .binary bytes => some ('0' :: 'x' :: (Bytes.hex bytes).toList)
    | .list items =>
      if node.kind = .list then (itemCells? types node items).map (enclosed '[' ']')
      else some value.chars
    | .map entries =>
      if node.kind = .map then
        (entryCells? types node entries).map (enclosed '\x7b' '\x7d')
      else some value.chars
    | .struct members =>
      if node.kind = .struct then
        (memberCells? types node.children node.fieldNames members).map
          (enclosed '\x7b' '\x7d')
      else some value.chars

def itemCells? (types : TypeTree) (node : TypeNode) : List Value → Option (List (List Char))
  | [] => some []
  | item :: rest => do
    let text ← cell? types (← node.firstChild?) item
    return text :: (← itemCells? types node rest)

def entryCells? (types : TypeTree) (node : TypeNode) :
    List (Value × Value) → Option (List (List Char))
  | [] => some []
  | (key, value) :: rest => do
    let keyText ← cell? types (← node.firstChild?) key
    let valueText ← cell? types (← node.secondChild?) value
    return (keyText ++ ':' :: valueText) :: (← entryCells? types node rest)

-- Members beyond the children are left out, and those beyond the names have none.
def memberCells? (types : TypeTree) :
    List UInt32 → List String → List Value → Option (List (List Char))
  | child :: children, name :: names, member :: rest => do
    let text ← cell? types child member
    return (Text.quoted name.toList ++ ':' :: text)
      :: (← memberCells? types children names rest)
  | child :: children, [], member :: rest => do
    let text ← cell? types child member
    return text :: (← memberCells? types children [] rest)
  | _, _, _ => some []

end

def cells? (types : TypeTree) : List UInt32 → List Value → Option (List (List Char))
  | [], _ => some []
  | _ :: _, [] => none
  | id :: ids, value :: rest => do
    let text ← cell? types id value
    return text :: (← cells? types ids rest)

def line? (types : TypeTree) (row : Row) : Option (List Char) :=
  (cells? types types.columns row.values).map (Text.join ['\t'])

end Rendering

end Columnar
