import Columnar.Ieee.Text
import Columnar.Text.Pieces
import Columnar.Text.Quoted
import Columnar.Value

set_option autoImplicit false

namespace Columnar.Value

def flagText (flag : Bool) : List Char := if flag then "true".toList else "false".toList

def named (name : String) (content : List Char) : List Char :=
  name.toList ++ '(' :: content ++ [')']

def bracketed (texts : List (List Char)) : List Char :=
  '[' :: Text.join [',', ' '] texts ++ [']']

mutual

def chars : Value → List Char
  | .null => "Null".toList
  | .boolean flag => named "Boolean" (flagText flag)
  | .byte number => named "Byte" (Text.decimalInt number.toInt)
  | .short number => named "Short" (Text.decimalInt number.toInt)
  | .int number => named "Int" (Text.decimalInt number.toInt)
  | .long number => named "Long" (Text.decimalInt number.toInt)
  | .float number => named "Float" number.explicitText
  | .double number => named "Double" number.explicitText
  | .string text => named "String" (Text.quoted text.toList)
  | .binary bytes => named "Binary" (bracketed (bytes.map fun byte => Text.decimal byte.toNat))
  | .list items => named "List" (bracketed (allChars items))
  | .map entries => named "Map" (bracketed (entryChars entries))
  | .struct members => named "Struct" (bracketed (allChars members))

def allChars : List Value → List (List Char)
  | [] => []
  | value :: rest => value.chars :: allChars rest

def entryChars : List (Value × Value) → List (List Char)
  | [] => []
  | (key, value) :: rest =>
    ('(' :: key.chars ++ ", ".toList ++ value.chars ++ [')']) :: entryChars rest

end

def text (value : Value) : String := String.ofList value.chars

end Columnar.Value
