import Columnar.Text.Unprintable

set_option autoImplicit false

namespace Columnar.Text

def hexDigits (number : Nat) : List Char := Nat.toDigits 16 number

def quotedChar (c : Char) : List Char :=
  if c = '\x00' then ['\\', '0']
  else if c = '\t' then ['\\', 't']
  else if c = '\r' then ['\\', 'r']
  else if c = '\n' then ['\\', 'n']
  else if c = '"' then ['\\', '"']
  else if c = '\\' then ['\\', '\\']
  else if isUnprintable c then ['\\', 'u', '\x7b'] ++ hexDigits c.toNat ++ ['\x7d']
  else [c]

def quoted (text : List Char) : List Char := ['"'] ++ text.flatMap quotedChar ++ ['"']

def quote (text : String) : String := String.ofList (quoted text.toList)

end Columnar.Text
