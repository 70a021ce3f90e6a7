set_option autoImplicit false

namespace Columnar

inductive DataType where
  | boolean
  | byte
  | short
  | int
  | long
  | float
  | double
  | string
  | binary
  | list (item : DataType)
  | map (key value : DataType)
  | struct (fields : List (String × DataType))
deriving Inhabited

abbrev Field := String × DataType

inductive TypeKind where
  | boolean
  | byte
  | short
  | int
  | long
  | float
  | double
  | string
  | binary
  | list
  | map
  | struct
deriving DecidableEq, Repr, Inhabited

def DataType.kind : DataType → TypeKind
  | .boolean => .boolean
  | .byte => .byte
  | .short => .short
  | .int => .int
  | .long => .long
  | .float => .float
  | .double => .double
  | .string => .string
  | .binary => .binary
  | .list _ => .list
  | .map _ _ => .map
  | .struct _ => .struct

namespace TypeKind

def isCompound : TypeKind → Bool
  | .list | .map | .struct => true
  | _ => false

def word : TypeKind → String
  | .boolean => "boolean"
  | .byte => "tinyint"
  | .short => "smallint"
  | .int => "int"
  | .long => "bigint"
  | .float => "float"
  | .double => "double"
  | .string => "string"
  | .binary => "binary"
  | .list => "array"
  | .map => "map"
  | .struct => "struct"

def name : TypeKind → String
  | .boolean => "Boolean"
  | .byte => "Byte"
  | .short => "Short"
  | .int => "Int"
  | .long => "Long"
  | .float => "Float"
  | .double => "Double"
  | .string => "String"
  | .binary => "Binary"
  | .list => "List"
  | .map => "Map"
  | .struct => "Struct"

def all : List TypeKind :=
  [.boolean, .byte, .short, .int, .long, .float, .double, .string, .binary, .list, .map, .struct]

def ofName? (name : String) : Option TypeKind := all.find? fun kind => kind.name == name

end TypeKind

end Columnar
