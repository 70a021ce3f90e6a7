import Columnar.Bytes
import Columnar.Ieee.Number
import Columnar.Schema

set_option autoImplicit false

namespace Columnar

inductive Value where
  | null
  | boolean (flag : Bool)
  | byte (number : Int8)
  | short (number : Int16)
  | int (number : Int32)
  | long (number : Int64)
  | float (number : Ieee.Single)
  | double (number : Ieee.Double)
  | string (text : String)
  | binary (bytes : Bytes)
  | list (items : List Value)
  | map (entries : List (Value × Value))
  | struct (members : List Value)
deriving Inhabited

namespace Value

def isNull : Value → Bool
  | .null => true
  | _ => false

mutual

def fits : Value → DataType → Bool
  | .null, _ => true
  | .boolean _, .boolean => true
  | .byte _, .byte => true
  | .short _, .short => true
  | .int _, .int => true
  | .long _, .long => true
  | .float _, .float => true
  | .double _, .double => true
  | .string _, .string => true
  | .binary _, .binary => true
  | .list items, .list item => allFit items item
  | .map entries, .map key value => entriesFit entries key value
  | .struct members, .struct fields => membersFit members fields
  | _, _ => false

def allFit : List Value → DataType → Bool
  | [], _ => true
  | item :: rest, type => item.fits type && allFit rest type

def entriesFit : List (Value × Value) → DataType → DataType → Bool
  | [], _, _ => true
  | (key, value) :: rest, keyType, valueType =>
    key.fits keyType && value.fits valueType && entriesFit rest keyType valueType

def membersFit : List Value → List (String × DataType) → Bool
  | [], [] => true
  | member :: rest, (_, type) :: fields => member.fits type && membersFit rest fields
  | _, _ => false

end

mutual

-- Equality in which numbers compare as numbers: the two zeros are equal, and NaN is not equal
-- to itself.
def same : Value → Value → Bool
  | .null, .null => true
  | .boolean a, .boolean b => a == b
  | .byte a, .byte b => a == b
  | .short a, .short b => a == b
  | .int a, .int b => a == b
  | .long a, .long b => a == b
  | .float a, .float b => a.reading.same b.reading
  | .double a, .double b => a.reading.same b.reading
  | .string a, .string b => a == b
  | .binary a, .binary b => a == b
  | .list a, .list b => allSame a b
  | .map a, .map b => entriesSame a b
  | .struct a, .struct b => allSame a b
  | _, _ => false

def allSame : List Value → List Value → Bool
  | [], [] => true
  | a :: restA, b :: restB => a.same b && allSame restA restB
  | _, _ => false

def entriesSame : List (Value × Value) → List (Value × Value) → Bool
  | [], [] => true
  | (keyA, a) :: restA, (keyB, b) :: restB =>
    keyA.same keyB && a.same b && entriesSame restA restB
  | _, _ => false

end

end Value

end Columnar
