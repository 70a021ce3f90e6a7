import Columnar.Zstd.HuffmanStreams

set_option autoImplicit false

namespace Columnar.Zstd

structure Literals where
  bytes : Array UInt8
  table : Option HuffmanTable
  size : Nat

namespace Literals

def plainWidths (sizeFormat : Nat) : Nat × Nat × Nat :=
  match sizeFormat with
  | 1 => (4, 12, 2)
  | 3 => (4, 20, 3)
  | _ => (3, 5, 1)

def codedWidths (sizeFormat : Nat) : Nat × Nat :=
  match sizeFormat with
  | 2 => (14, 4)
  | 3 => (18, 5)
  | _ => (10, 3)

def plain? (before : Option HuffmanTable) (repeated : Bool) (sizeFormat limit : Nat)
    (block : Array UInt8) : Option Literals :=
  let (start, width, header) := plainWidths sizeFormat
  let count := bitsAt block start width
  let size := header + if repeated then 1 else count
  if limit < count ∨ block.size < size then none
  else if repeated then some ⟨Array.replicate count (block.getD header 0), before, size⟩
  else some ⟨block.extract header size, before, size⟩

def maxWeightLog : Nat := 6

-- The table of coded literals and the streams behind it. Two codes at a time are read only from
-- four streams.
def codedTable? (before : Option HuffmanTable) (again fourStreams : Bool) (count : Nat)
    (bytes : Array UInt8) : Option (HuffmanTable × Array UInt8) := do
  if again then return (← before, bytes)
  else
    let (table, size) ← HuffmanTable.ofBytes? maxWeightLog bytes
    let double := fourStreams && HuffmanTable.doubleFaster count bytes.size
    return ({ table with double }, bytes.extract size bytes.size)

def coded? (before : Option HuffmanTable) (again : Bool) (sizeFormat limit : Nat)
    (block : Array UInt8) : Option Literals := do
  let (width, header) := codedWidths sizeFormat
  let count := bitsAt block 4 width
  let size := header + bitsAt block (4 + width) width
  if limit < count ∨ block.size < size then none
  let fourStreams := sizeFormat ≠ 0
  let stored := block.extract header size
  let (table, streams) ← codedTable? before again fourStreams count stored
  let bytes ← if fourStreams then table.fourStreams? streams count else table.stream? streams count
  return ⟨bytes, some table, size⟩

def ofBlock? (before : Option HuffmanTable) (limit : Nat) (block : Array UInt8) :
    Option Literals :=
  let sizeFormat := bitsAt block 2 2
  match bitsAt block 0 2 with
  | 0 => plain? before false sizeFormat limit block
  | 1 => plain? before true sizeFormat limit block
  | 2 => coded? before false sizeFormat limit block
  | _ => coded? before true sizeFormat limit block

end Literals

end Columnar.Zstd
