import Columnar.Cbor.Item
import Columnar.Cbor.Reader
import Columnar.Value

/-!
Streams: the values of a column as a CBOR array. Null is the text `Null`, and every other value a
map of one entry from the name of its kind to its content.
-/

set_option autoImplicit false

namespace Columnar

open Cbor

namespace Value

def underName (kind : TypeKind) (content : Item) : Item := .map [(.text kind.name, content)]

mutual

def toItem : Value → Item
  | .null => .text "Null"
  | .boolean flag => underName .boolean (.ofBool flag)
  | .byte number => underName .byte (.ofInt number.toInt)
  | .short number => underName .short (.ofInt number.toInt)
  | .int number => underName .int (.ofInt number.toInt)
  | .long number => underName .long (.ofInt number.toInt)
  | .float number => underName .float (.float number.toDouble)
  | .double number => underName .double (.float number)
  | .string text => underName .string (.text text)
  | .binary bytes => underName .binary (.array (bytes.map fun byte => .unsigned byte.toNat))
  | .list items => underName .list (.array (toItems items))
  | .map entries => underName .map (.array (entryItems entries))
  | .struct members => underName .struct (.array (toItems members))

def toItems : List Value → List Item
  | [] => []
  | value :: rest => value.toItem :: toItems rest

def entryItems : List (Value × Value) → List Item
  | [] => []
  | (key, value) :: rest => .array [key.toItem, value.toItem] :: entryItems rest

end

def encodeStream (values : List Value) : Bytes :=
  headBytes 4 values.length ++ values.flatMap fun value => value.toItem.encode

def kindNamed? (name : Bytes) : Option (Option TypeKind) :=
  if name = Bytes.ofText "Null" then some none
  else (TypeKind.all.find? fun kind => Bytes.ofText kind.name = name).map some

open Reader in
def content (octets : Reader Bytes) (values : Reader (List Value))
    (entries : Reader (List (Value × Value))) : TypeKind → Reader Value
  | .boolean => mapped .boolean Reader.boolean
  | .byte =>
    mapped (fun number => .byte (Int8.ofInt number))
      (integerWithin Int8.minValue.toInt Int8.maxValue.toInt)
  | .short =>
    mapped (fun number => .short (Int16.ofInt number))
      (integerWithin Int16.minValue.toInt Int16.maxValue.toInt)
  | .int =>
    mapped (fun number => .int (Int32.ofInt number))
      (integerWithin Int32.minValue.toInt Int32.maxValue.toInt)
  | .long =>
    mapped (fun number => .long (Int64.ofInt number))
      (integerWithin Int64.minValue.toInt Int64.maxValue.toInt)
  | .float => mapped (fun number => .float number.toSingle) Reader.float
  | .double => mapped .double Reader.float
  | .string => mapped .string Reader.text
  | .binary => mapped .binary octets
  | .list => mapped .list values
  | .map => mapped .map entries
  | .struct => mapped .struct values

def variant (octets : Reader Bytes) (values : Reader (List Value))
    (entries : Reader (List (Value × Value))) : Reader Value := fun bytes =>
  match Reader.variantStart bytes with
  | .error fault => .error fault
  | .ok start =>
    match Reader.name start with
    | .error fault => .error fault
    | .ok (name, rest) =>
      match kindNamed? name with
      | none => .error .unexpected
      | some none => .ok (.null, rest)
      | some (some kind) => content octets values entries kind rest

def tooDeep : Reader Value := fun bytes =>
  match Reader.variantStart bytes with
  | .error fault => .error fault
  | .ok _ => .error .tooDeep

def octets : Reader Bytes :=
  Reader.list some (Reader.items (Reader.mapped UInt8.ofNat (Reader.naturalBelow 256)))

def ofByte? {α : Type} (_ : UInt8) : Option α := none

def listOf {α : Type} (item : Reader α) : Reader (List α) := Reader.list ofByte? (Reader.items item)

-- Reads a value that nests at most `depth` deep: a value is one level, the array of its bytes or
-- members another, and the pairs of a map a third.
def read : Nat → Reader Value
  | 0 => tooDeep
  | 1 =>
    variant (Reader.listTooDeep some) (Reader.listTooDeep ofByte?) (Reader.listTooDeep ofByte?)
  | 2 => variant octets (listOf (read 0)) (listOf (Reader.pair fun _ _ => .error .tooDeep))
  | depth + 3 =>
    variant octets (listOf (read (depth + 1)))
      (listOf (Reader.pair (Reader.pairItems (read depth))))

def depthLimit : Nat := 256

-- The values of a stream. Bytes behind the array are not looked at.
def decodeStream (stream : Bytes) : Except Fault (List Value) :=
  match listOf (read (depthLimit - 1)) stream with
  | .error fault => .error fault
  | .ok (values, _) => .ok values

end Value

end Columnar
