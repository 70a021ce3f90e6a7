import Columnar.Row
import Columnar.Schema
import Columnar.Text.Decimal

set_option autoImplicit false

namespace Columnar.Sample

def fields : List Field :=
  [("id", .long), ("name", .string), ("score", .double), ("tags", .list .string),
    ("attrs", .map .string .int), ("point", .struct [("x", .int), ("y", .int)])]

def nameOf (number : Nat) : Value :=
  if number % 10 = 9 then .null else .string ("name-" ++ Text.natText number)

def scoreOf (number : Nat) : Value := .double (.ofRatio (Ieee.wholeAsDouble number) 8)

def tagsOf (number : Nat) : Value :=
  .list ((List.range (number % 4)).map fun tag => .string ("t" ++ Text.natText tag))

def row (number : Nat) : Row :=
  ⟨[.long (Int64.ofNat number), nameOf number, scoreOf number, tagsOf number,
    .map [(.string "bucket", .int (Int32.ofNat (number % 16)))],
    .struct [.int (Int32.ofNat (number % 100)), .int (Int32.ofNat (number / 100))]]⟩

end Columnar.Sample
