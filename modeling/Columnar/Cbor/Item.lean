import Columnar.Cbor.Head

/-!
CBOR items as data, and their encoding: every length is stated, every argument is as short as it
can be.
-/

set_option autoImplicit false

namespace Columnar.Cbor

inductive Item where
  | unsigned (number : Nat)
  | negative (number : Nat)
  | bytes (content : Bytes)
  | text (content : String)
  | array (items : List Item)
  | map (entries : List (Item × Item))
  | simple (number : Nat)
  | float (number : Ieee.Double)
deriving Inhabited

namespace Item

def ofInt : Int → Item
  | .ofNat number => .unsigned number
  | .negSucc number => .negative number

def ofBool (flag : Bool) : Item := .simple (if flag then 21 else 20)

mutual

def encode : Item → Bytes
  | .unsigned number => headBytes 0 number
  | .negative number => headBytes 1 number
  | .bytes content => headBytes 2 content.length ++ content
  | .text content => headBytes 3 (Bytes.ofText content).length ++ Bytes.ofText content
  | .array items => headBytes 4 items.length ++ encodeAll items
  | .map entries => headBytes 5 entries.length ++ encodeEntries entries
  | .simple number => headBytes 7 number
  | .float number => floatBytes number

def encodeAll : List Item → Bytes
  | [] => []
  | item :: rest => item.encode ++ encodeAll rest

def encodeEntries : List (Item × Item) → Bytes
  | [] => []
  | (key, value) :: rest => key.encode ++ value.encode ++ encodeEntries rest

end

end Item

end Columnar.Cbor
